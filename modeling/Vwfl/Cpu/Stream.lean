import Vwfl.Cpu.Server
import Vwfl.Transition.Run

open Rust Transition

namespace vwfl.cpu

/-- While a client is connected, the stream slot holds one that is. -/
def Server.SlotLive (self : Server) : Prop :=
  self.connected ≠ [] → ∃ client ∈ self.connected, self.bridge.WINDBG_STREAM = some client

/-- No client disconnects while another one is connected. -/
def Server.LeavesAlone (self : Server) : ServerEvent → Prop
  | .disconnect client => ∀ other ∈ self.connected, other = client
  | _ => True

/-- From a state with a live slot, only the disconnect of one of several
    clients leads to a state without one. -/
theorem Server.step_slotLive_iff {before after : Server} {event : ServerEvent} (hlive : before.SlotLive)
    (h : ServerStep before event after) : after.SlotLive ↔ before.LeavesAlone event := by
  unfold ServerStep Server.step at h
  cases event with
  | accept client =>
    dsimp only at h
    split at h
    · cases h
    · cases h
      refine iff_of_true (fun _ => ⟨client, ?_, rfl⟩) trivial
      exact List.mem_append_right _ (List.mem_singleton_self client)
  | send client bytes =>
    cases h
    exact iff_of_true hlive trivial
  | read client count =>
    dsimp only at h
    split at h
    · cases h
      exact iff_of_true hlive trivial
    · cases h
  | disconnect client =>
    dsimp only at h
    split at h
    · cases h
      unfold Server.SlotLive Server.LeavesAlone
      simp only [Bridge.apply, reduceCtorEq, and_false, exists_false, imp_false, not_not, ne_eq]
      rw [List.filter_eq_nil_iff]
      simp
    · cases h
  | io_in addr data =>
    dsimp only at h
    split at h
    · rename_i reply bridge hin
      cases h
      refine iff_of_true (fun hclients => ?_) trivial
      rw [Bridge.io_in_stream hin]
      exact hlive hclients
    · cases h
  | io_out addr data =>
    dsimp only at h
    split at h
    · rename_i action bridge hout
      cases h
      refine iff_of_true (fun hclients => ?_) trivial
      rw [(Bridge.io_out_keeps hout).1]
      exact hlive hclients
    · cases h

/-- The runs of the bridge in which the stream slot always follows a live
    client are those in which no client disconnects beside another one: every
    reader thread clears the slot, whoever it belongs to. -/
theorem slotLive_iff (events : List ServerEvent) (last : Server) :
    Run (Into ServerStep Server.SlotLive) Server.initial events last ↔
      Run (Allowed ServerStep Server.LeavesAlone) Server.initial events last := by
  refine run_into_iff_allowed (fun _ => True) trivial ?_ (fun _ _ _ _ _ => trivial) ?_
  · exact fun hclients => absurd rfl hclients
  · exact fun _ _ _ _ hlive hstep => Server.step_slotLive_iff hlive hstep

/-- The first client of two disconnects and takes the slot of the second. -/
theorem not_slotLive_older_client : ∃ last,
    Run ServerStep Server.initial [.accept ⟨1⟩, .accept ⟨2⟩, .disconnect ⟨1⟩] last ∧ ¬ last.SlotLive := by
  refine ⟨_, run_of_foldlM rfl, ?_⟩
  intro hlive
  obtain ⟨client, _, hslot⟩ := hlive (by decide)
  cases hslot

end vwfl.cpu
