import Vwfl.Cpu.Clock

open Rust Transition
open vwfl.vm

namespace vwfl.cpu

/-- Instants that keep a distance from a start and from each other leave room
    for it before the end. -/
theorem length_mul_le_of_spaced {distance start finish : Nat} {instants : List Nat} (hend : start ≤ finish)
    (hfirst : ∀ instant ∈ instants, start + distance ≤ instant) (hlast : ∀ instant ∈ instants, instant ≤ finish)
    (hspaced : instants.Pairwise fun earlier later => earlier + distance ≤ later) :
    start + instants.length * distance ≤ finish := by
  induction instants generalizing start with
  | nil =>
    rw [List.length_nil]
    omega
  | cons instant instants ih =>
    obtain ⟨hhead, _⟩ := List.forall_mem_cons.mp hfirst
    obtain ⟨hbound, hrest⟩ := List.forall_mem_cons.mp hlast
    obtain ⟨hnext, htail⟩ := List.pairwise_cons.mp hspaced
    have hroom := ih hbound hnext hrest htail
    rw [List.length_cons, Nat.add_mul]
    omega

/-- One update of the shared time, seen by the clock: when its call began and
    when it was made, in nanoseconds. -/
structure Tick where
  started : Nat
  time : Nat
  deriving Repr, DecidableEq

/-- A session with what it does to the clock interrupt. `clock` is the latest
    reading of the clock, `started` the start of the latest call, and `levels`
    the calls of `set_irq_line` for line 2. -/
structure Paced where
  session : Session
  clock : Nat
  started : Nat
  ticks : List Tick
  levels : List Bool

/-- The level changes of a tick. `rflags` is the answer of `get_regs`; the line
    is pulsed when the guest has interrupts enabled. -/
def pulse (rflags : Option UInt64) : List Bool :=
  match rflags with
  | some rflags => if rflags &&& 0x200 ≠ 0 then [true, false] else []
  | none => []

/-- The pass reaches its tick, and the tick is due. -/
def Session.ticks (profile : Profile) (self : Session) (iteration : Iteration) : Bool :=
  match profile.add64 self.loop_count 1, iteration.peek with
  | .ok _, .empty => self.Due iteration
  | _, _ => false

inductive PacedInput where
  | call (now : Instant) (vm : Vm)
  | pass (iteration : Iteration) (rflags : Option UInt64)

def PacedInput.now : PacedInput → Nat
  | .call now _ => now
  | .pass iteration _ => iteration.now

section

variable (profile : Profile) (trap : UInt8 → Vm → Result Unit)

/-- One step of a session. The pulse comes between the update of the shared
    time and the guest's turn. -/
def Paced.step (self : Paced) : PacedInput → Option Paced
  | .call now vm =>
    (self.session.step profile trap (.call now vm)).map fun session =>
      { self with session, clock := now, started := now }
  | .pass iteration rflags =>
    (self.session.step profile trap (.pass iteration)).map fun session =>
      if self.session.ticks profile iteration then
        { session, clock := iteration.now, started := self.started,
          ticks := self.ticks ++ [⟨self.started, iteration.now⟩], levels := self.levels ++ pulse rflags }
      else { self with session, clock := iteration.now }

/-- The steps of a session whose clock never runs backwards. -/
def PacedStep : Paced → PacedInput → Paced → Prop :=
  Allowed (fun self input after => self.step profile trap input = some after) fun self input => self.clock ≤ input.now

end

/-- A session before its first call. -/
def Paced.start (vm : Vm) (host : Host) (clock : Nat) : Paced where
  session := Session.start vm host
  clock := clock
  started := clock
  ticks := []
  levels := []

variable {profile : Profile} {trap : UInt8 → Vm → Result Unit}

theorem Session.enter_last_tick (self : Session) (ran : Option Ran) :
    (final (self.enter profile trap ran)).last_tick = self.last_tick ∧
      (final (self.enter profile trap ran)).phase = self.phase := by
  unfold Session.enter
  split
  · exact ⟨rfl, rfl⟩
  · dsimp only
    split
    · exact ⟨rfl, rfl⟩
    · exact ⟨rfl, rfl⟩
    · exact ⟨rfl, rfl⟩
    · split
      · exact ⟨rfl, rfl⟩
      · exact ⟨rfl, rfl⟩

theorem Session.tick_last_tick (profile : Profile) (self : Session) (iteration : Iteration) :
    ∃ after, self.tick profile iteration = .ok () after ∧ after.phase = self.phase ∧
      after.last_tick = (if self.Due iteration then iteration.now else self.last_tick) ∧
      after.updates.length = (if self.Due iteration then self.updates.length + 1 else self.updates.length) := by
  unfold Session.tick
  by_cases hdue : self.Due iteration
  · simp only [hdue, if_true, update_windows_time_performs profile self.loop_count self.vm]
    exact ⟨_, rfl, rfl, rfl, List.length_append⟩
  · simp only [hdue, if_false]
    exact ⟨_, rfl, rfl, rfl, rfl⟩

/-- A pass moves the last tick to its own time when it ticks. -/
theorem Session.pass_last_tick (profile : Profile) (trap : UInt8 → Vm → Result Unit) (self : Session)
    (iteration : Iteration) :
    (final (self.pass profile trap iteration)).last_tick =
        (if self.ticks profile iteration then iteration.now else self.last_tick) ∧
      (final (self.pass profile trap iteration)).updates.length =
        (if self.ticks profile iteration then self.updates.length + 1 else self.updates.length) := by
  unfold Session.pass Session.ticks
  cases profile.add64 self.loop_count 1 with
  | error fault => exact ⟨rfl, rfl⟩
  | ok loop_count =>
    cases iteration.peek with
    | failed => exact ⟨rfl, rfl⟩
    | waiting byte readable => exact ⟨rfl, rfl⟩
    | empty =>
      obtain ⟨ticked, htick, _, hlast, hupdates⟩ :=
        Session.tick_last_tick profile { self with loop_count } iteration
      have hdue : Session.Due { self with loop_count } iteration ↔ self.Due iteration := Iff.rfl
      simp only [htick, decide_eq_true_eq]
      rw [(ticked.enter_last_tick iteration.ran).1, (ticked.enter_final profile trap iteration.ran).1, hlast, hupdates]
      exact ⟨rfl, rfl⟩

/-- What holds of the clock interrupt in every session. -/
structure Paced.Steady (current : Paced) : Prop where
  /-- Ticks keep the interval, also from one call to the next. -/
  spaced : current.ticks.Pairwise fun earlier later => earlier.time + tick_interval ≤ later.time
  /-- No call ticks before it is as old as the interval. -/
  late : ∀ tick ∈ current.ticks, tick.started + tick_interval ≤ tick.time
  /-- Each tick is one update of the shared time. -/
  updates : current.session.updates.length = current.ticks.length
  /-- The line is raised at most once a tick, and lowered at once. -/
  pulses : ∃ count ≤ current.ticks.length, current.levels = (List.replicate count [true, false]).flatten

/-- The clock of a session between its steps. -/
structure Paced.Timed (first : Nat) (current : Paced) : Prop where
  first_le : first ≤ current.clock
  started : current.session.phase = .waiting → current.started ≤ current.session.last_tick ∧ first ≤ current.started
  last_tick : current.session.phase = .waiting → current.clock ≥ current.session.last_tick
  past : ∀ tick ∈ current.ticks, tick.time ≤ current.clock ∧ first ≤ tick.started
  ticked : current.session.phase = .waiting → ∀ tick ∈ current.ticks, tick.time ≤ current.session.last_tick

theorem Session.step_call_eq {self after : Session} {now : Instant} {vm : Vm}
    (h : self.step profile trap (.call now vm) = some after) :
    after.phase = .waiting ∧ after.last_tick = now ∧ after.updates = self.updates := by
  simp only [Session.step] at h
  split at h
  · cases h
    exact ⟨rfl, rfl, rfl⟩
  · cases h

theorem Session.waiting_of_pass {self after : Session} {iteration : Iteration}
    (h : self.step profile trap (.pass iteration) = some after) : self.phase = .waiting := by
  by_contra hphase
  simp only [Session.step, hphase, if_false] at h
  cases h

theorem Session.due_of_ticks {self : Session} {iteration : Iteration} (h : self.ticks profile iteration = true) :
    tick_interval + self.last_tick ≤ iteration.now := by
  have hinterval : 0 < tick_interval := by decide
  unfold Session.ticks at h
  split at h
  · have hdue : tick_interval ≤ iteration.now - self.last_tick := of_decide_eq_true h
    omega
  · cases h

/-- The pulse of a tick raises the line once or not at all. -/
theorem pulse_cases (rflags : Option UInt64) : pulse rflags = [] ∨ pulse rflags = [true, false] := by
  unfold pulse
  cases rflags with
  | none => exact .inl rfl
  | some rflags =>
    dsimp only
    split
    · exact .inr rfl
    · exact .inl rfl

private theorem Paced.Steady.call {first now : Nat} {vm : Vm} {self : Paced} {session : Session}
    (hsteady : self.Steady) (htimed : self.Timed first) (hclock : self.clock ≤ now)
    (hsession : self.session.step profile trap (.call now vm) = some session) :
    Paced.Steady { self with session, clock := now, started := now } ∧
      Paced.Timed first { self with session, clock := now, started := now } := by
  obtain ⟨_, hlast, hupdates⟩ := Session.step_call_eq hsession
  have hfirst := htimed.first_le
  refine ⟨⟨hsteady.spaced, hsteady.late, ?_, hsteady.pulses⟩, ⟨by dsimp only; omega, ?_, ?_, ?_, ?_⟩⟩
  · dsimp only
    rw [hupdates, hsteady.updates]
  · intro _
    dsimp only
    rw [hlast]
    omega
  · intro _
    dsimp only
    rw [hlast]
  · intro tick hmem
    obtain ⟨hpast, hstarted⟩ := htimed.past tick hmem
    exact ⟨hpast.trans hclock, hstarted⟩
  · intro _ tick hmem
    dsimp only
    have hpast := (htimed.past tick hmem).1
    rw [hlast]
    omega

private theorem Paced.Steady.pass {first : Nat} {self : Paced} {session : Session} {iteration : Iteration}
    (rflags : Option UInt64) (hsteady : self.Steady) (htimed : self.Timed first) (hclock : self.clock ≤ iteration.now)
    (hticks : self.session.ticks profile iteration = true)
    (hsession : self.session.step profile trap (.pass iteration) = some session) :
    Paced.Steady
        { session, clock := iteration.now, started := self.started,
          ticks := self.ticks ++ [⟨self.started, iteration.now⟩], levels := self.levels ++ pulse rflags } ∧
      Paced.Timed first
        { session, clock := iteration.now, started := self.started,
          ticks := self.ticks ++ [⟨self.started, iteration.now⟩], levels := self.levels ++ pulse rflags } := by
  have hwaiting := Session.waiting_of_pass hsession
  have hdue := Session.due_of_ticks hticks
  obtain ⟨hlast, hupdates⟩ := self.session.pass_last_tick profile trap iteration
  rw [if_pos hticks] at hlast hupdates
  obtain ⟨hstarted, hfirst⟩ := htimed.started hwaiting
  have hend := htimed.last_tick hwaiting
  have hinterval : 0 < tick_interval := by decide
  obtain ⟨phase, rfl⟩ := Session.step_pass profile trap hsession
  have hbefore : ∀ tick ∈ self.ticks, tick.time + tick_interval ≤ iteration.now := by
    intro tick hmem
    have hticked := htimed.ticked hwaiting tick hmem
    omega
  refine ⟨⟨?_, ?_, ?_, ?_⟩, ⟨?_, ?_, ?_, ?_, ?_⟩⟩
  · rw [List.pairwise_append]
    refine ⟨hsteady.spaced, List.pairwise_singleton _ _, ?_⟩
    intro earlier hearlier later hlater
    obtain rfl := List.mem_singleton.mp hlater
    exact hbefore earlier hearlier
  · rw [List.forall_mem_append, List.forall_mem_singleton]
    exact ⟨hsteady.late, by dsimp only; omega⟩
  · dsimp only
    rw [hupdates, hsteady.updates, List.length_append, List.length_singleton]
  · obtain ⟨count, hcount, hlevels⟩ := hsteady.pulses
    dsimp only
    rw [List.length_append, List.length_singleton, hlevels]
    rcases pulse_cases rflags with hpulse | hpulse
    · exact ⟨count, by omega, by rw [hpulse, List.append_nil]⟩
    · refine ⟨count + 1, by omega, ?_⟩
      rw [hpulse, List.replicate_succ', List.flatten_append, List.flatten_singleton]
  · dsimp only
    omega
  · intro _
    dsimp only
    rw [hlast]
    omega
  · intro _
    dsimp only
    rw [hlast]
  · rw [List.forall_mem_append, List.forall_mem_singleton]
    refine ⟨?_, le_rfl, hfirst⟩
    intro tick hmem
    obtain ⟨hpast, hbegan⟩ := htimed.past tick hmem
    exact ⟨hpast.trans hclock, hbegan⟩
  · intro _
    rw [List.forall_mem_append, List.forall_mem_singleton]
    refine ⟨?_, by dsimp only; rw [hlast]⟩
    intro tick hmem
    dsimp only
    rw [hlast]
    have hdistance := hbefore tick hmem
    omega

/-- A pass that does not tick only moves the clock. -/
private theorem Paced.Steady.idle {first : Nat} {self : Paced} {session : Session} {iteration : Iteration}
    (hsteady : self.Steady) (htimed : self.Timed first) (hclock : self.clock ≤ iteration.now)
    (hticks : ¬ self.session.ticks profile iteration = true)
    (hsession : self.session.step profile trap (.pass iteration) = some session) :
    Paced.Steady { self with session, clock := iteration.now } ∧
      Paced.Timed first { self with session, clock := iteration.now } := by
  have hwaiting := Session.waiting_of_pass hsession
  obtain ⟨hlast, hupdates⟩ := self.session.pass_last_tick profile trap iteration
  rw [if_neg hticks] at hlast hupdates
  obtain ⟨phase, rfl⟩ := Session.step_pass profile trap hsession
  refine ⟨⟨hsteady.spaced, hsteady.late, ?_, hsteady.pulses⟩, ⟨htimed.first_le.trans hclock, ?_, ?_, ?_, ?_⟩⟩
  · dsimp only
    rw [hupdates, hsteady.updates]
  · intro _
    dsimp only
    rw [hlast]
    exact htimed.started hwaiting
  · intro _
    dsimp only
    rw [hlast]
    exact (htimed.last_tick hwaiting).trans hclock
  · intro tick hmem
    obtain ⟨hpast, hbegan⟩ := htimed.past tick hmem
    exact ⟨hpast.trans hclock, hbegan⟩
  · intro _ tick hmem
    dsimp only
    rw [hlast]
    exact htimed.ticked hwaiting tick hmem

theorem Paced.step_steady {first : Nat} {self after : Paced} {input : PacedInput} (hsteady : self.Steady)
    (htimed : self.Timed first) (hstep : PacedStep profile trap self input after) :
    after.Steady ∧ after.Timed first := by
  obtain ⟨hclock, hstep⟩ := hstep
  cases input with
  | call now vm =>
    obtain ⟨session, hsession, rfl⟩ := Option.map_eq_some_iff.mp hstep
    exact hsteady.call htimed hclock hsession
  | pass iteration rflags =>
    obtain ⟨session, hsession, rfl⟩ := Option.map_eq_some_iff.mp hstep
    split
    · rename_i hticks
      exact hsteady.pass rflags htimed hclock hticks hsession
    · rename_i hticks
      exact hsteady.idle htimed hclock hticks hsession

/-- In every session with a clock that never runs backwards, the ticks keep
    their interval within a call and across calls, so there are no more of them
    than intervals since the session began, and a call younger than the interval
    neither moves the shared time nor raises the clock interrupt. -/
theorem session_paced (profile : Profile) (trap : UInt8 → Vm → Result Unit) (vm : Vm) (host : Host) (clock : Nat)
    (inputs : List PacedInput) (last : Paced)
    (hrun : Run (PacedStep profile trap) (Paced.start vm host clock) inputs last) :
    last.Steady ∧ clock + last.session.updates.length * tick_interval ≤ last.clock := by
  have hinvariant : last.Steady ∧ last.Timed clock := by
    refine hrun.invariant (fun paced => paced.Steady ∧ paced.Timed clock) ⟨?_, ?_⟩ ?_
    · exact ⟨List.Pairwise.nil, fun _ h => absurd h List.not_mem_nil, rfl, 0, le_rfl, rfl⟩
    · exact ⟨le_rfl, fun h => Phase.noConfusion h, fun h => Phase.noConfusion h,
        fun _ h => absurd h List.not_mem_nil, fun h => Phase.noConfusion h⟩
    · rintro before input after ⟨hsteady, htimed⟩ hstep
      exact Paced.step_steady hsteady htimed hstep
  obtain ⟨hsteady, htimed⟩ := hinvariant
  refine ⟨hsteady, ?_⟩
  have hroom : clock + (last.ticks.map Tick.time).length * tick_interval ≤ last.clock := by
    refine length_mul_le_of_spaced htimed.first_le ?_ ?_ (List.pairwise_map.mpr hsteady.spaced)
    · rw [List.forall_mem_map]
      intro tick hmem
      have hlate := hsteady.late tick hmem
      have hbegan := (htimed.past tick hmem).2
      omega
    · rw [List.forall_mem_map]
      exact fun tick hmem => (htimed.past tick hmem).1
  rwa [List.length_map, ← hsteady.updates] at hroom

/-- A call that ends with its first tick, the guest having interrupts enabled. -/
def tickingSession : List PacedInput :=
  [.call 0 ⟨fun _ => 0⟩, .pass ⟨.empty, 10000000, some ⟨⟨fun _ => 0⟩, .Debug, 10000000⟩⟩ (some 0x202)]

theorem session_paced_ticking : ∃ last : Paced,
    last.levels = [true, false] ∧ last.Steady ∧ 0 + last.session.updates.length * tick_interval ≤ last.clock := by
  let step (self : Paced) (input : PacedInput) : Option Paced :=
    if self.clock ≤ input.now then self.step .dev (fun _ _ => .ok ()) input else none
  have hlevels : (tickingSession.foldlM step (Paced.start ⟨fun _ => 0⟩ idleHost 0)).map Paced.levels =
      some [true, false] := by decide +kernel
  obtain ⟨last, hlast, hvalue⟩ := Option.map_eq_some_iff.mp hlevels
  have hrun : Run (PacedStep .dev fun _ _ => .ok ()) (Paced.start ⟨fun _ => 0⟩ idleHost 0) tickingSession last := by
    refine (run_of_foldlM hlast).mono fun before input after hstep => ?_
    dsimp only [step] at hstep
    split at hstep
    · rename_i hclock
      exact ⟨hclock, hstep⟩
    · cases hstep
  exact ⟨last, hvalue, session_paced .dev (fun _ _ => .ok ()) ⟨fun _ => 0⟩ idleHost 0 tickingSession last hrun⟩

end vwfl.cpu
