import Vwfl.Rust.Fault

namespace Rust.Stateful

variable {σ α β ι : Type}

/-- The state that a run leaves, also when it ends in a fault. -/
def leftBy (x : Stateful σ α) (before : σ) : σ :=
  match x.run before with
  | .ok _ after => after
  | .error _ after => after

/-- Every run moves the state along a relation, whether it returns or ends in a
    fault. -/
def Moves (rel : σ → σ → Prop) (x : Stateful σ α) : Prop := ∀ before, rel before (leftBy x before)

theorem leftBy_of_ok {x : Stateful σ α} {before after : σ} {value : α} (h : x.run before = .ok value after) :
    leftBy x before = after := by
  rw [leftBy, h]

theorem leftBy_of_error {x : Stateful σ α} {before after : σ} {fault : Fault}
    (h : x.run before = .error fault after) : leftBy x before = after := by
  rw [leftBy, h]

variable {rel : σ → σ → Prop}

theorem Moves.of_ok {x : Stateful σ α} (hx : Moves rel x) {before after : σ} {value : α}
    (h : x.run before = .ok value after) : rel before after := by
  have hmove := hx before
  rwa [leftBy_of_ok h] at hmove

/-- Dropping an `Err` keeps the state. -/
theorem leftBy_ok (x : Stateful σ α) (before : σ) : leftBy (ok x) before = leftBy x before := by
  unfold leftBy ok EStateM.run
  dsimp only
  cases x before with
  | ok value after => rfl
  | error fault after => cases fault <;> rfl

theorem Moves.ok {x : Stateful σ α} (hx : Moves rel x) : Moves rel (ok x) := by
  intro before
  rw [leftBy_ok]
  exact hx before

section Refl

variable [Std.Refl rel]

theorem Moves.pure (value : α) : Moves rel (pure value) := fun before => Std.Refl.refl before

theorem Moves.throw (fault : Fault) : Moves rel (throw fault : Stateful σ α) := fun before => Std.Refl.refl before

theorem Moves.get : Moves rel (get : Stateful σ σ) := fun before => Std.Refl.refl before

theorem Moves.lift (x : Result α) : Moves rel (liftM x : Stateful σ α) := by
  intro before
  cases x with
  | ok value => exact Std.Refl.refl before
  | error fault => exact Std.Refl.refl before

/-- A value computed without the state may be used in what follows. -/
theorem Moves.lift_bind {x : Result α} {f : α → Stateful σ β} (hf : ∀ value, x = .ok value → Moves rel (f value)) :
    Moves rel (liftM x >>= f) := by
  intro before
  have hrun := bind_run (liftM x : Stateful σ α) f before
  cases x with
  | ok value =>
    have hsecond := hf value rfl before
    rw [lift_ok_run] at hrun
    unfold leftBy at hsecond ⊢
    rwa [hrun]
  | error fault =>
    rw [lift_error_run] at hrun
    rw [leftBy_of_error hrun]
    exact Std.Refl.refl before

end Refl

/-- Runs compose, and a fault in the first part is the end. What follows may use
    that the first part returned its value. -/
theorem Moves.bind_of_ok [IsTrans σ rel] {x : Stateful σ α} {f : α → Stateful σ β} (hx : Moves rel x)
    (hf : ∀ before value middle, x.run before = .ok value middle → Moves rel (f value)) : Moves rel (x >>= f) := by
  intro before
  have hrun := bind_run x f before
  have hfirst := hx before
  cases hresult : x.run before with
  | ok value middle =>
    rw [hresult] at hrun
    rw [leftBy_of_ok hresult] at hfirst
    have hsecond := hf before value middle hresult middle
    unfold leftBy at hsecond ⊢
    rw [hrun]
    exact IsTrans.trans _ _ _ hfirst hsecond
  | error fault middle =>
    rw [hresult] at hrun
    rw [leftBy_of_error hrun]
    rwa [leftBy_of_error hresult] at hfirst

theorem Moves.bind [IsTrans σ rel] {x : Stateful σ α} {f : α → Stateful σ β} (hx : Moves rel x)
    (hf : ∀ value, Moves rel (f value)) : Moves rel (x >>= f) :=
  hx.bind_of_ok fun _ value _ _ => hf value

theorem Moves.forM [Std.Refl rel] [IsTrans σ rel] {items : List ι} {body : ι → Stateful σ Unit}
    (h : ∀ item ∈ items, Moves rel (body item)) : Moves rel (forM items body) := by
  induction items with
  | nil => exact Moves.pure ()
  | cons item items ih =>
    rw [List.forM_cons]
    exact (h item (by simp)).bind fun _ => ih fun later hlater => h later (by simp [hlater])

theorem Moves.foldlM [Std.Refl rel] [IsTrans σ rel] {items : List ι} {body : β → ι → Stateful σ β}
    (h : ∀ value, ∀ item ∈ items, Moves rel (body value item)) (start : β) :
    Moves rel (items.foldlM body start) := by
  induction items generalizing start with
  | nil => exact Moves.pure start
  | cons item items ih =>
    rw [List.foldlM_cons]
    exact (h start item (by simp)).bind fun next => ih (fun value later hlater => h value later (by simp [hlater])) next

end Rust.Stateful
