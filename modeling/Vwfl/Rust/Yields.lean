import Vwfl.Rust.Arith

namespace Rust.Stateful

variable {σ α β ι : Type}

/-- The values that a computation returns are the given outcomes, whatever the
    state it starts in. A computation without an outcome ends in a fault. -/
def Yields (x : Stateful σ α) (outcome : α → Prop) : Prop :=
  ∀ before value, (∃ after, x.run before = .ok value after) ↔ outcome value

/-- A statement that completes exactly when a condition holds, whatever the
    state. -/
abbrev Completes (x : Stateful σ Unit) (condition : Prop) : Prop := Yields x fun _ => condition

theorem Yields.congr {x : Stateful σ α} {outcome other : α → Prop} (hx : Yields x outcome)
    (h : ∀ value, outcome value ↔ other value) : Yields x other :=
  fun before value => (hx before value).trans (h value)

theorem Yields.pure (value : α) : Yields (pure value : Stateful σ α) fun result => result = value := by
  intro before result
  rw [pure_run]
  constructor
  · rintro ⟨after, h⟩
    injection h with hvalue
    exact hvalue.symm
  · rintro rfl
    exact ⟨before, rfl⟩

theorem Yields.lift (x : Result α) : Yields (liftM x : Stateful σ α) fun value => x = .ok value := by
  intro before value
  simp only [lift_run_eq_ok_iff, exists_and_left, exists_eq, and_true]

/-- The second computation may rely on what the first has returned. -/
theorem Yields.bind {x : Stateful σ α} {f : α → Stateful σ β} {outcome : α → Prop} {rest : α → β → Prop}
    (hx : Yields x outcome) (hf : ∀ value, outcome value → Yields (f value) (rest value)) :
    Yields (x >>= f) fun result => ∃ value, outcome value ∧ rest value result := by
  intro before result
  constructor
  · rintro ⟨after, hrun⟩
    obtain ⟨value, middle, hfirst, hsecond⟩ := bind_run_eq_ok_iff.mp hrun
    have hvalue := (hx before value).mp ⟨middle, hfirst⟩
    exact ⟨value, hvalue, (hf value hvalue middle result).mp ⟨after, hsecond⟩⟩
  · rintro ⟨value, hvalue, hresult⟩
    obtain ⟨middle, hfirst⟩ := (hx before value).mpr hvalue
    obtain ⟨after, hsecond⟩ := (hf value hvalue middle result).mpr hresult
    exact ⟨after, bind_run_eq_ok_iff.mpr ⟨value, middle, hfirst, hsecond⟩⟩

/-- A statement in front of a computation. -/
theorem Completes.bind {x : Stateful σ Unit} {y : Stateful σ β} {condition : Prop} {outcome : β → Prop}
    (hx : Completes x condition) (hy : condition → Yields y outcome) :
    Yields (x >>= fun _ => y) fun result => condition ∧ outcome result :=
  (Yields.bind hx fun _ hcondition => hy hcondition).congr fun _ =>
    ⟨fun ⟨_, hcondition, hresult⟩ => ⟨hcondition, hresult⟩, fun ⟨hcondition, hresult⟩ => ⟨(), hcondition, hresult⟩⟩

theorem Yields.expect {x : Stateful σ α} {outcome : α → Prop} (hx : Yields x outcome) (message : String) :
    Yields (Stateful.expect x message) outcome := by
  intro before value
  simp only [expect_run_eq_ok_iff]
  exact hx before value

theorem Completes.of_returns {x : Stateful σ Unit} (hx : ∀ before, ∃ after, x.run before = .ok () after) :
    Completes x True :=
  fun before _ => iff_of_true (hx before) trivial

/-- A statement that drops its `Err` completes when its parts do. -/
theorem Completes.ok_bind {x : Stateful σ α} {f : α → Stateful σ β} (hx : Completes (Stateful.ok x) True)
    (hf : ∀ value, Completes (Stateful.ok (f value)) True) : Completes (Stateful.ok (x >>= f)) True := by
  apply Completes.of_returns
  intro before
  obtain ⟨middle, hfirst⟩ := (hx before ()).mpr trivial
  rcases ok_run_eq_ok_iff.mp hfirst with ⟨value, hvalue⟩ | ⟨message, herr⟩
  · obtain ⟨after, hsecond⟩ := (hf value middle ()).mpr trivial
    refine ⟨after, ok_run_eq_ok_iff.mpr ?_⟩
    rw [bind_run, hvalue]
    exact ok_run_eq_ok_iff.mp hsecond
  · refine ⟨middle, ok_run_eq_ok_iff.mpr (.inr ⟨message, ?_⟩)⟩
    rw [bind_run, herr]

/-- A panic in front is not dropped. -/
theorem Completes.ok_panic_bind {x : Result α} {message : String} {f : α → Stateful σ β}
    (hx : x = .error (.panic message)) : Completes (Stateful.ok (liftM x >>= f)) False := by
  subst hx
  intro before _
  refine iff_of_false ?_ not_false
  rintro ⟨after, h⟩
  cases h

/-- A value without effect in front. -/
theorem Completes.ok_lift_bind {x : Result α} {value : α} {f : α → Stateful σ β} {condition : Prop}
    (hx : x = .ok value) (hf : Completes (Stateful.ok (f value)) condition) :
    Completes (Stateful.ok (liftM x >>= f)) condition := by
  subst hx
  exact hf

theorem Completes.forM {items : List ι} {body : ι → Stateful σ Unit} {condition : ι → Prop}
    (h : ∀ item ∈ items, Completes (body item) (condition item)) :
    Completes (forM items body) (∀ item ∈ items, condition item) := by
  induction items with
  | nil => exact (Completes.of_returns fun before => ⟨before, rfl⟩).congr fun _ => by simp
  | cons item items ih =>
    obtain ⟨hfirst, hrest⟩ := List.forall_mem_cons.mp h
    rw [List.forM_cons]
    exact (hfirst.bind fun _ => ih hrest).congr fun _ => List.forall_mem_cons.symm

end Rust.Stateful
