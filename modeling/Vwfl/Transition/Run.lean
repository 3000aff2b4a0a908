import Mathlib.Tactic

namespace Transition

variable {σ ι : Type*}

/-- Runs of a labelled transition system. Every prefix of a run is a run, so a
    statement about the last state is one about every state reached. -/
inductive Run (step : σ → ι → σ → Prop) (start : σ) : List ι → σ → Prop where
  | nil : Run step start [] start
  | snoc {inputs : List ι} {input : ι} {state next : σ} (hrun : Run step start inputs state)
      (hstep : step state input next) : Run step start (inputs ++ [input]) next

/-- The steps that are taken only in states that allow them. -/
def Allowed (step : σ → ι → σ → Prop) (allowed : σ → ι → Prop) : σ → ι → σ → Prop :=
  fun state input next => allowed state input ∧ step state input next

/-- The steps that end in a good state. -/
def Into (step : σ → ι → σ → Prop) (good : σ → Prop) : σ → ι → σ → Prop :=
  fun state input next => step state input next ∧ good next

variable {step : σ → ι → σ → Prop} {start state : σ} {inputs : List ι}

theorem Run.invariant (holds : σ → Prop) (hrun : Run step start inputs state) (hstart : holds start)
    (hstep : ∀ before input after, holds before → step before input after → holds after) : holds state := by
  induction hrun with
  | nil => exact hstart
  | snoc hrun htaken ih => exact hstep _ _ _ ih htaken

theorem Run.mono {weaker : σ → ι → σ → Prop} (hrun : Run step start inputs state)
    (hweaker : ∀ before input after, step before input after → weaker before input after) :
    Run weaker start inputs state := by
  induction hrun with
  | nil => exact .nil
  | snoc hrun htaken ih => exact .snoc ih (hweaker _ _ _ htaken)

/-- A run is one of other steps that its inputs allow. -/
theorem Run.mono_of_mem {other : σ → ι → σ → Prop} (hrun : Run step start inputs state)
    (hother : ∀ input ∈ inputs, ∀ before after, step before input after → other before input after) :
    Run other start inputs state := by
  induction hrun with
  | nil => exact .nil
  | snoc hrun htaken ih =>
    obtain ⟨hearlier, hlast⟩ := List.forall_mem_append.mp hother
    exact .snoc (ih hearlier) (List.forall_mem_singleton.mp hlast _ _ htaken)

theorem Run.append {later : List ι} {last : σ} (hrun : Run step start inputs state)
    (hlater : Run step state later last) : Run step start (inputs ++ later) last := by
  induction hlater with
  | nil =>
    rw [List.append_nil]
    exact hrun
  | snoc hlater htaken ih =>
    rw [← List.append_assoc]
    exact .snoc ih htaken

theorem Run.single {input : ι} (hstep : step start input state) : Run step start [input] state := .snoc .nil hstep

theorem Run.eq_of_nil (hrun : Run step start [] state) : state = start := by
  generalize hinputs : ([] : List ι) = inputs at hrun
  cases hrun with
  | nil => rfl
  | snoc hrun htaken => simp at hinputs

/-- The last step of a run. -/
theorem Run.last {input : ι} (hrun : Run step start (inputs ++ [input]) state) :
    ∃ middle, Run step start inputs middle ∧ step middle input state := by
  generalize hinputs : inputs ++ [input] = all at hrun
  cases hrun with
  | nil => simp at hinputs
  | snoc hrun htaken =>
    obtain ⟨rfl, hlast⟩ := List.append_inj' hinputs rfl
    obtain rfl := List.singleton_inj.mp hlast
    exact ⟨_, hrun, htaken⟩

/-- A run passes through a state between any two parts of its inputs. -/
theorem Run.split {later : List ι} (hrun : Run step start (inputs ++ later) state) :
    ∃ middle, Run step start inputs middle ∧ Run step middle later state := by
  induction later using List.reverseRecOn generalizing state with
  | nil => exact ⟨state, by rwa [List.append_nil] at hrun, .nil⟩
  | append_singleton later input ih =>
    rw [← List.append_assoc] at hrun
    obtain ⟨before, hbefore, htaken⟩ := hrun.last
    obtain ⟨middle, hfirst, hsecond⟩ := ih hbefore
    exact ⟨middle, hfirst, .snoc hsecond htaken⟩

/-- A run starts with the step of its first input. -/
theorem Run.uncons {input : ι} (hrun : Run step start (input :: inputs) state) :
    ∃ next, step start input next ∧ Run step next inputs state := by
  rw [← List.singleton_append] at hrun
  obtain ⟨next, hfirst, hrest⟩ := hrun.split
  obtain ⟨middle, hnone, htaken⟩ := @Run.last _ _ _ _ _ [] _ hfirst
  rw [hnone.eq_of_nil] at htaken
  exact ⟨next, htaken, hrest⟩

/-- The first step of a run. -/
theorem Run.head {input : ι} (hrun : Run step start (input :: inputs) state) : ∃ next, step start input next := by
  generalize hinputs : input :: inputs = all at hrun
  induction hrun generalizing inputs with
  | nil => cases hinputs
  | snoc hrun htaken ih =>
    rename_i earlier last middle next
    cases earlier with
    | nil =>
      obtain ⟨rfl, _⟩ := List.cons.inj hinputs
      rw [hrun.eq_of_nil] at htaken
      exact ⟨next, htaken⟩
    | cons first earlier =>
      obtain ⟨rfl, _⟩ := List.cons.inj hinputs
      exact ih rfl

/-- A state is reached by some run of steps with a property. -/
def Reaches (step : σ → ι → σ → Prop) (property : ι → Prop) (before after : σ) : Prop :=
  ∃ inputs, Run step before inputs after ∧ ∀ input ∈ inputs, property input

instance {property : ι → Prop} : Std.Refl (Reaches step property) := ⟨fun _ => ⟨[], .nil, by simp⟩⟩

instance {property : ι → Prop} : IsTrans σ (Reaches step property) where
  trans _ _ _ := by
    rintro ⟨first, hfirst, hproperty⟩ ⟨second, hsecond, hlater⟩
    exact ⟨first ++ second, hfirst.append hsecond, List.forall_mem_append.mpr ⟨hproperty, hlater⟩⟩

/-- Folding a partial step function over the inputs is a run of its steps. -/
theorem run_of_foldlM {next : σ → ι → Option σ} (h : inputs.foldlM next start = some state) :
    Run (fun before input after => next before input = some after) start inputs state := by
  induction inputs using List.reverseRecOn generalizing state with
  | nil =>
    cases h
    exact .nil
  | append_singleton inputs input ih =>
    rw [List.foldlM_append] at h
    obtain ⟨middle, hmiddle, hlast⟩ := Option.bind_eq_some_iff.mp h
    rw [List.foldlM_cons] at hlast
    obtain ⟨last, htaken, hend⟩ := Option.bind_eq_some_iff.mp hlast
    cases hend
    exact .snoc (ih hmiddle) htaken

variable (invariant : σ → Prop) {good : σ → Prop} {allowed : σ → ι → Prop}

/-- The last state of a run of allowed steps is good if allowed steps lead from
    good states to good states. -/
theorem Run.good_of_allowed (hrun : Run (Allowed step allowed) start inputs state) (hstart : invariant start)
    (hgood : good start)
    (hkeeps : ∀ before input after, invariant before → step before input after → invariant after)
    (hstep : ∀ before input after, invariant before → good before → allowed before input →
      step before input after → good after) : invariant state ∧ good state := by
  refine hrun.invariant (fun state => invariant state ∧ good state) ⟨hstart, hgood⟩ ?_
  rintro before input after ⟨hbefore, hsound⟩ ⟨hallowed, htaken⟩
  exact ⟨hkeeps _ _ _ hbefore htaken, hstep _ _ _ hbefore hsound hallowed htaken⟩

/-- Where steps from good states are good exactly when they are allowed, the
    runs through good states are the runs of allowed steps. -/
theorem run_into_iff_allowed (hstart : invariant start) (hgood : good start)
    (hkeeps : ∀ before input after, invariant before → step before input after → invariant after)
    (hexact : ∀ before input after, invariant before → good before → step before input after →
      (good after ↔ allowed before input)) :
    Run (Into step good) start inputs state ↔ Run (Allowed step allowed) start inputs state := by
  constructor
  · intro hrun
    have hstate : ∀ {inputs state}, Run (Into step good) start inputs state → invariant state ∧ good state := by
      intro inputs state hrun
      refine hrun.invariant (fun state => invariant state ∧ good state) ⟨hstart, hgood⟩ ?_
      rintro before input after ⟨hbefore, _⟩ ⟨htaken, hafter⟩
      exact ⟨hkeeps _ _ _ hbefore htaken, hafter⟩
    induction hrun with
    | nil => exact .nil
    | snoc hrun htaken ih =>
      obtain ⟨hbefore, hsound⟩ := hstate hrun
      exact .snoc ih ⟨(hexact _ _ _ hbefore hsound htaken.1).mp htaken.2, htaken.1⟩
  · intro hrun
    induction hrun with
    | nil => exact .nil
    | snoc hrun htaken ih =>
      obtain ⟨hbefore, hsound⟩ := hrun.good_of_allowed invariant hstart hgood hkeeps
        fun _ _ _ hinv hgood hallowed htaken => (hexact _ _ _ hinv hgood htaken).mpr hallowed
      exact .snoc ih ⟨htaken.2, (hexact _ _ _ hbefore hsound htaken.2).mpr htaken.1⟩

end Transition
