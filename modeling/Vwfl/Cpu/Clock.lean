import Vwfl.Cpu.EventLoop
import Vwfl.Transition.Run

open Rust ByteStore LittleEndian Transition
open vwfl.vm

namespace vwfl.cpu

/-- The stores of one update of the shared time. -/
def timeWrites (count : UInt64) : List (Nat × List UInt8) :=
  [(0x9000008, ofUInt64 (count * 10000)), (0x9000010, ofUInt32 ((count * 10000) >>> 32).toUInt32),
    (0x9000014, ofUInt64 (count * 10000)), (0x900001C, ofUInt32 ((count * 10000) >>> 32).toUInt32)]

theorem update_windows_time_performs (profile : Profile) (count : UInt64) :
    Performs (update_windows_time profile count) (timeWrites count) := by
  unfold update_windows_time timeWrites
  iterate 3 refine Performs.write_ok_then profile rfl rfl (by simp) ?_
  exact Performs.write_memory_ok profile (by simp)

/-- The 64-bit `InterruptTime` and `SystemTime` that an update left. -/
def TimeUpdate.interrupt_time (self : TimeUpdate) : UInt64 := toUInt64 (load self.vm.mem 0x9000008 8)

def TimeUpdate.system_time (self : TimeUpdate) : UInt64 := toUInt64 (load self.vm.mem 0x9000014 8)

/-- `High1Time` equals `High2Time`, for both times. -/
def TimeUpdate.HighsAgree (self : TimeUpdate) : Prop :=
  load self.vm.mem 0x900000C 4 = load self.vm.mem 0x9000010 4 ∧
    load self.vm.mem 0x9000018 4 = load self.vm.mem 0x900001C 4

/-- The update stored the time of its own pass. -/
structure TimeUpdate.Consistent (update : TimeUpdate) : Prop where
  interrupt : update.interrupt_time = update.loop_count * 10000
  system : update.system_time = update.loop_count * 10000
  highs : update.HighsAgree

private theorem timeWrites_disjoint (count : UInt64) : (timeWrites count).Pairwise fun first second =>
    Disjoint first.1 first.2.length second.1 second.2.length := by
  unfold timeWrites
  simp only [List.pairwise_cons, List.mem_cons, List.not_mem_nil, or_false, forall_eq_or_imp, forall_eq,
    length_ofUInt64, length_ofUInt32, false_implies, implies_true, List.Pairwise.nil, and_true]
  decide

theorem consistent_of_timeWrites {update : TimeUpdate} {mem : Nat → UInt8}
    (h : update.vm.mem = storeAll mem (timeWrites update.loop_count)) : update.Consistent := by
  have hload : ∀ write ∈ timeWrites update.loop_count, load update.vm.mem write.1 write.2.length = write.2 := by
    intro write hwrite
    rw [h]
    exact load_storeAll_of_mem mem (timeWrites_disjoint update.loop_count) hwrite
  unfold timeWrites at hload
  simp only [List.forall_mem_cons, length_ofUInt64, length_ofUInt32] at hload
  obtain ⟨hinterrupt, hinterruptHigh, hsystem, hsystemHigh, _⟩ := hload
  refine ⟨?_, ?_, ?_, ?_⟩
  · rw [TimeUpdate.interrupt_time, hinterrupt, toUInt64_ofUInt64]
  · rw [TimeUpdate.system_time, hsystem, toUInt64_ofUInt64]
  · rw [hinterruptHigh, ← drop_ofUInt64, ← hinterrupt, drop_load]
  · rw [hsystemHigh, ← drop_ofUInt64, ← hsystem, drop_load]

/-- The pass reaches the tick and the tick is due. -/
def Session.Ticks (self : Session) (iteration : Iteration) : Prop :=
  iteration.peek = .empty ∧ self.Due iteration

/-- The time product of every pass stays in 64 bits. -/
def Session.NoWrap (self : Session) : SessionInput → Prop
  | .call _ _ => True
  | .pass _ => (self.loop_count.toNat + 1) * 10000 < 2 ^ 64

instance (self : Session) (input : SessionInput) : Decidable (self.NoWrap input) :=
  match input with
  | .call _ _ => inferInstanceAs (Decidable True)
  | .pass _ => inferInstanceAs (Decidable (_ < _))

/-- What a step adds to the history: nothing, or one consistent update of the
    pass in progress. -/
structure Session.Records (before after : Session) (ticks : Prop) : Prop where
  idle : ¬ ticks → after.updates = before.updates
  due : ticks → ∃ update, after.updates = before.updates ++ [update] ∧ update.call = after.calls ∧
    update.loop_count = after.loop_count ∧ update.Consistent

/-- A due tick appends one consistent update. -/
theorem Session.tick_run (profile : Profile) (self : Session) (iteration : Iteration) :
    ∃ after, self.tick profile iteration = .ok () after ∧ after.calls = self.calls ∧
      after.loop_count = self.loop_count ∧ self.Records after (self.Due iteration) := by
  unfold Session.tick
  by_cases hdue : self.Due iteration
  · simp only [hdue, if_true, update_windows_time_performs profile self.loop_count self.vm]
    exact ⟨_, rfl, rfl, rfl, fun h => absurd trivial h, fun _ => ⟨_, rfl, rfl, rfl, consistent_of_timeWrites rfl⟩⟩
  · simp only [hdue, if_false]
    exact ⟨_, rfl, rfl, rfl, fun _ => rfl, fun h => absurd h id⟩

/-- The state that a result leaves, whether it is a value or a fault. -/
def final {α : Type} : EStateM.Result Fault Session α → Session
  | .ok _ after => after
  | .error _ after => after

variable (profile : Profile) (trap : UInt8 → Vm → Result Unit)

/-- The guest's turn does not touch the history. -/
theorem Session.enter_final (self : Session) (ran : Option Ran) :
    (final (self.enter profile trap ran)).updates = self.updates ∧
      (final (self.enter profile trap ran)).calls = self.calls ∧
      (final (self.enter profile trap ran)).loop_count = self.loop_count := by
  unfold Session.enter
  split
  · exact ⟨rfl, rfl, rfl⟩
  · dsimp only
    split
    · exact ⟨rfl, rfl, rfl⟩
    · exact ⟨rfl, rfl, rfl⟩
    · exact ⟨rfl, rfl, rfl⟩
    · split
      · exact ⟨rfl, rfl, rfl⟩
      · exact ⟨rfl, rfl, rfl⟩

/-- A pass counts itself and records the tick it takes. -/
theorem Session.pass_final (self : Session) (iteration : Iteration)
    (hcount : profile.add64 self.loop_count 1 = .ok (self.loop_count + 1)) :
    (final (self.pass profile trap iteration)).calls = self.calls ∧
      (final (self.pass profile trap iteration)).loop_count = self.loop_count + 1 ∧
      self.Records (final (self.pass profile trap iteration)) (self.Ticks iteration) := by
  unfold Session.pass Session.Ticks
  simp only [hcount]
  cases iteration.peek with
  | failed => exact ⟨rfl, rfl, fun _ => rfl, fun h => absurd h.1 (by simp)⟩
  | waiting byte readable => exact ⟨rfl, rfl, fun _ => rfl, fun h => absurd h.1 (by simp)⟩
  | empty =>
    obtain ⟨ticked, htick, hcalls, hloop, hidle, hdue⟩ :=
      Session.tick_run profile { self with loop_count := self.loop_count + 1 } iteration
    obtain ⟨hupdates, henterCalls, henterLoop⟩ := ticked.enter_final profile trap iteration.ran
    simp only [htick]
    refine ⟨henterCalls.trans hcalls, henterLoop.trans hloop, fun h => ?_, fun h => ?_⟩
    · rw [hupdates]
      exact hidle fun hticks => h ⟨trivial, hticks⟩
    · obtain ⟨update, happend, hcall, hcount, hconsistent⟩ := hdue h.2
      exact ⟨update, hupdates.trans happend, hcall.trans henterCalls.symm, hcount.trans henterLoop.symm, hconsistent⟩

/-- A pass leaves the session its result leaves, but for the phase. -/
theorem Session.step_pass {self after : Session} {iteration : Iteration}
    (h : self.step profile trap (.pass iteration) = some after) :
    ∃ phase, after = { final (self.pass profile trap iteration) with phase } := by
  simp only [Session.step] at h
  split at h
  · cases hpass : self.pass profile trap iteration with
    | error fault left =>
      rw [hpass] at h
      exact ⟨.over, (Option.some.inj h).symm⟩
    | ok outcome left =>
      rw [hpass] at h
      cases outcome with
      | none => exact ⟨left.phase, (Option.some.inj h).symm⟩
      | some outcome =>
        cases outcome with
        | error failure => exact ⟨.over, (Option.some.inj h).symm⟩
        | ok event => exact ⟨.idle, (Option.some.inj h).symm⟩
  · cases h

theorem Session.step_call {self after : Session} {now : Instant} {vm : Vm}
    (h : self.step profile trap (.call now vm) = some after) :
    after.updates = self.updates ∧ after.calls = self.calls + 1 ∧ after.loop_count = 0 := by
  simp only [Session.step] at h
  split at h
  · cases h
    exact ⟨rfl, rfl, rfl⟩
  · cases h

/-- Whatever the world does, no update is ever recorded that is not
    consistent. -/
theorem Session.step_consistent {self after : Session} {input : SessionInput}
    (hbefore : ∀ update ∈ self.updates, update.Consistent) (h : self.step profile trap input = some after) :
    ∀ update ∈ after.updates, update.Consistent := by
  cases input with
  | call now vm =>
    rw [(Session.step_call profile trap h).1]
    exact hbefore
  | pass iteration =>
    obtain ⟨phase, rfl⟩ := Session.step_pass profile trap h
    rcases profile.add64_cases self.loop_count 1 with hcount | hcount
    · obtain ⟨_, _, hidle, hdue⟩ := self.pass_final profile trap iteration hcount
      by_cases hticks : self.Ticks iteration
      · obtain ⟨update, happend, _, _, hconsistent⟩ := hdue hticks
        rw [happend]
        exact List.forall_mem_append.mpr ⟨hbefore, List.forall_mem_singleton.mpr hconsistent⟩
      · rw [hidle hticks]
        exact hbefore
    · unfold Session.pass
      rw [hcount]
      exact hbefore

/-- The count of the next pass. -/
theorem Session.next_count {self : Session} {iteration : Iteration} (hwrap : self.NoWrap (.pass iteration)) :
    profile.add64 self.loop_count 1 = .ok (self.loop_count + 1) ∧
      (self.loop_count + 1).toNat = self.loop_count.toNat + 1 := by
  have hone : (1 : UInt64).toNat = 1 := rfl
  unfold Session.NoWrap at hwrap
  refine ⟨profile.add64_of_lt (by omega), ?_⟩
  rw [BitField.toNat_add_of_lt (by omega), hone]

/-- The steps of a session whose time product stays in 64 bits. -/
def SessionStep : Session → SessionInput → Session → Prop :=
  Allowed (fun self input after => self.step profile trap input = some after) Session.NoWrap

/-- What is known of an update in the history: it belongs to a call made so
    far, at a pass that the call has made. -/
structure Session.Recorded (session : Session) (update : TimeUpdate) : Prop where
  consistent : update.Consistent
  noWrap : update.loop_count.toNat * 10000 < 2 ^ 64
  call_le : update.call ≤ session.calls
  pass_le : update.call = session.calls → update.loop_count.toNat ≤ session.loop_count.toNat

def Session.Tracked (self : Session) : Prop := ∀ update ∈ self.updates, self.Recorded update

theorem Session.step_tracked {self after : Session} {input : SessionInput} (htracked : self.Tracked)
    (h : SessionStep profile trap self input after) : after.Tracked := by
  obtain ⟨hwrap, hstep⟩ := h
  cases input with
  | call now vm =>
    obtain ⟨hupdates, hcalls, _⟩ := Session.step_call profile trap hstep
    intro update hupdate
    rw [hupdates] at hupdate
    obtain ⟨hconsistent, hnowrap, hcall, _⟩ := htracked update hupdate
    exact ⟨hconsistent, hnowrap, by omega, fun hsame => by omega⟩
  | pass iteration =>
    obtain ⟨phase, rfl⟩ := Session.step_pass profile trap hstep
    obtain ⟨hcount, hnext⟩ := Session.next_count profile hwrap
    obtain ⟨hcalls, hloop, hidle, hdue⟩ := self.pass_final profile trap iteration hcount
    have hold : ∀ update ∈ self.updates,
        Session.Recorded { final (self.pass profile trap iteration) with phase } update := by
      intro update hupdate
      obtain ⟨hconsistent, hnowrap, hcall, hpass⟩ := htracked update hupdate
      refine ⟨hconsistent, hnowrap, by rw [hcalls]; exact hcall, fun hsame => ?_⟩
      rw [hloop, hnext]
      exact Nat.le_succ_of_le (hpass (hsame.trans hcalls))
    by_cases hticks : self.Ticks iteration
    · obtain ⟨update, happend, hcall, hcount, hconsistent⟩ := hdue hticks
      intro recorded hrecorded
      rw [happend, List.mem_append, List.mem_singleton] at hrecorded
      rcases hrecorded with hrecorded | rfl
      · exact hold recorded hrecorded
      · refine ⟨hconsistent, ?_, hcall.le, fun _ => by rw [hcount]⟩
        rw [hcount, hloop, hnext]
        exact hwrap
    · intro recorded hrecorded
      rw [hidle hticks] at hrecorded
      exact hold recorded hrecorded

/-- Each stored time is at least the one before it. -/
def Session.TimeOrdered (self : Session) : Prop :=
  (self.updates.map TimeUpdate.interrupt_time).IsChain (· ≤ ·) ∧
    (self.updates.map TimeUpdate.system_time).IsChain (· ≤ ·)

/-- A tick in another call than the last one comes at a pass of its call that
    is no earlier than the pass of the last tick in its own. -/
def Session.KeepsPace (self : Session) : SessionInput → Prop
  | .call _ _ => True
  | .pass iteration => self.Ticks iteration → ∀ last ∈ self.updates.getLast?, last.call ≠ self.calls →
      last.loop_count.toNat ≤ self.loop_count.toNat + 1

private theorem time_le_iff {first second : UInt64} (hfirst : first.toNat * 10000 < 2 ^ 64)
    (hsecond : second.toNat * 10000 < 2 ^ 64) : first * 10000 ≤ second * 10000 ↔ first.toNat ≤ second.toNat := by
  have hscale : (10000 : UInt64).toNat = 10000 := rfl
  rw [UInt64.le_iff_toNat_le, UInt64.toNat_mul, UInt64.toNat_mul, hscale, Nat.mod_eq_of_lt hfirst,
    Nat.mod_eq_of_lt hsecond]
  omega

/-- Appending the time of one more update keeps the order exactly when the
    update comes at no earlier pass count than the last one. -/
private theorem ordered_append_iff {updates : List TimeUpdate} {update : TimeUpdate} {time : TimeUpdate → UInt64}
    (hordered : (updates.map time).IsChain (· ≤ ·))
    (htime : ∀ last ∈ updates.getLast?, (time last ≤ time update ↔ last.loop_count.toNat ≤ update.loop_count.toNat)) :
    ((updates ++ [update]).map time).IsChain (· ≤ ·) ↔
      ∀ last ∈ updates.getLast?, last.loop_count.toNat ≤ update.loop_count.toNat := by
  rw [List.map_append, List.map_singleton, List.isChain_append]
  constructor
  · rintro ⟨_, _, hlast⟩ last hmem
    exact (htime last hmem).mp (hlast _ (by rw [List.getLast?_map]; exact Option.mem_map_of_mem _ hmem) _ rfl)
  · intro hpace
    refine ⟨hordered, List.isChain_singleton _, ?_⟩
    intro value hvalue next hnext
    rw [List.getLast?_map] at hvalue
    obtain ⟨last, hmem, rfl⟩ := Option.mem_map.mp hvalue
    cases hnext
    exact (htime last hmem).mpr (hpace last hmem)

theorem Session.step_ordered_iff {self after : Session} {input : SessionInput} (htracked : self.Tracked)
    (hordered : self.TimeOrdered) (h : SessionStep profile trap self input after) :
    after.TimeOrdered ↔ self.KeepsPace input := by
  obtain ⟨hwrap, hstep⟩ := h
  cases input with
  | call now vm =>
    unfold Session.TimeOrdered
    rw [(Session.step_call profile trap hstep).1]
    exact iff_of_true hordered trivial
  | pass iteration =>
    obtain ⟨phase, rfl⟩ := Session.step_pass profile trap hstep
    obtain ⟨hcount, hnext⟩ := Session.next_count profile hwrap
    obtain ⟨hcalls, hloop, hidle, hdue⟩ := self.pass_final profile trap iteration hcount
    by_cases hticks : self.Ticks iteration
    · obtain ⟨update, happend, _, hpass, hconsistent⟩ := hdue hticks
      have hupdate : update.loop_count.toNat = self.loop_count.toNat + 1 := by rw [hpass, hloop, hnext]
      have htime : ∀ last ∈ self.updates.getLast?,
          last.loop_count * 10000 ≤ update.loop_count * 10000 ↔ last.loop_count.toNat ≤ update.loop_count.toNat := by
        intro last hlast
        exact time_le_iff (htracked last (List.mem_of_mem_getLast? hlast)).noWrap (by rw [hupdate]; exact hwrap)
      unfold Session.TimeOrdered
      rw [happend, ordered_append_iff hordered.1, ordered_append_iff hordered.2, and_self_iff]
      · unfold Session.KeepsPace
        rw [hupdate]
        constructor
        · intro hlast _ last hmem _
          exact hlast last hmem
        · intro hpace last hmem
          by_cases hcall : last.call = self.calls
          · exact Nat.le_succ_of_le ((htracked last (List.mem_of_mem_getLast? hmem)).pass_le hcall)
          · exact hpace hticks last hmem hcall
      · intro last hlast
        rw [(htracked last (List.mem_of_mem_getLast? hlast)).consistent.system, hconsistent.system]
        exact htime last hlast
      · intro last hlast
        rw [(htracked last (List.mem_of_mem_getLast? hlast)).consistent.interrupt, hconsistent.interrupt]
        exact htime last hlast
    · unfold Session.TimeOrdered
      rw [hidle hticks]
      exact iff_of_true hordered fun h => absurd h hticks

/-- A session before its first call. -/
def Session.start (vm : Vm) (host : Host) : Session where
  vm := vm
  host := host
  phase := .idle
  loop_count := 0
  last_tick := 0
  calls := 0
  updates := []

/-- In every session the high parts of the shared times agree, and the times
    never run backwards exactly when every call takes its first tick no earlier
    in its loop than the call before it took its last one: the loop count that
    the time is made of starts again with each call. -/
theorem timeOrdered_iff (vm : Vm) (host : Host) (inputs : List SessionInput) (last : Session) :
    (Run (fun self input after => self.step profile trap input = some after) (Session.start vm host) inputs last →
      ∀ update ∈ last.updates, update.HighsAgree) ∧
    (Run (Into (SessionStep profile trap) Session.TimeOrdered) (Session.start vm host) inputs last ↔
      Run (Allowed (SessionStep profile trap) Session.KeepsPace) (Session.start vm host) inputs last) := by
  refine ⟨?_, ?_⟩
  · intro hrun update hupdate
    have hconsistent := hrun.invariant (fun session => ∀ update ∈ session.updates, update.Consistent)
      (fun _ hnone => absurd hnone List.not_mem_nil)
      fun _ _ _ hbefore hstep => Session.step_consistent profile trap hbefore hstep
    exact (hconsistent update hupdate).highs
  · refine run_into_iff_allowed Session.Tracked ?_ ?_ ?_ ?_
    · exact fun _ hnone => absurd hnone List.not_mem_nil
    · exact ⟨List.isChain_nil, List.isChain_nil⟩
    · exact fun _ _ _ htracked hstep => Session.step_tracked profile trap htracked hstep
    · exact fun _ _ _ htracked hordered hstep => Session.step_ordered_iff profile trap htracked hordered hstep

/-- A halted guest that leaves its memory alone. -/
def idlePass (now : Instant) : SessionInput := .pass ⟨.empty, now, some ⟨⟨fun _ => 0⟩, .Hlt, now⟩⟩

/-- A pass that ends its call with a debug stop. -/
def stopPass (now : Instant) : SessionInput := .pass ⟨.empty, now, some ⟨⟨fun _ => 0⟩, .Debug, now⟩⟩

/-- A call that ticks at its second pass and one that ticks at its first. -/
def restartedSession : List SessionInput :=
  [.call 0 ⟨fun _ => 0⟩, idlePass 5000000, stopPass 10000000, .call 20000000 ⟨fun _ => 0⟩, stopPass 30000000]

def idleHost : Host where
  devices := Devices.initial
  bridge := Bridge.initial

/-- One step of a session that checks the product first. -/
def Session.checkedStep (self : Session) (input : SessionInput) : Option Session :=
  if self.NoWrap input then self.step .dev (fun _ _ => .ok ()) input else none

private theorem run_of_checkedStep {inputs : List SessionInput} {first last : Session}
    (h : inputs.foldlM Session.checkedStep first = some last) :
    Run (SessionStep .dev fun _ _ => .ok ()) first inputs last := by
  refine (run_of_foldlM h).mono fun before input after hstep => ?_
  unfold Session.checkedStep at hstep
  split at hstep
  · rename_i hwrap
    exact ⟨hwrap, hstep⟩
  · cases hstep

/-- The second call stores an earlier time than the first. -/
theorem not_timeOrdered_restarted : ∃ last,
    Run (SessionStep .dev fun _ _ => .ok ()) (Session.start ⟨fun _ => 0⟩ idleHost) restartedSession last ∧
      ¬ last.TimeOrdered := by
  have htimes : (restartedSession.foldlM Session.checkedStep (Session.start ⟨fun _ => 0⟩ idleHost)).map
      (fun last => last.updates.map TimeUpdate.interrupt_time) = some [20000, 10000] := by decide +kernel
  obtain ⟨last, hlast, hvalues⟩ := Option.map_eq_some_iff.mp htimes
  refine ⟨last, run_of_checkedStep hlast, ?_⟩
  rintro ⟨hordered, _⟩
  rw [hvalues] at hordered
  simp at hordered

end vwfl.cpu
