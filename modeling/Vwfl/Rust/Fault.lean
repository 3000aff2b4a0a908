import Mathlib.Tactic

namespace Rust

/-- Ways in which a computation fails to return its value: a returned `Err`, a
    panic, an access to memory the program does not own, or a loop that never
    ends. -/
inductive Fault where
  | err (message : String)
  | panic (message : String)
  | ub
  | diverge
  deriving Repr, DecidableEq

/-- Computations that read their arguments only. -/
abbrev Result (α : Type) := Except Fault α

/-- Computations that also update a state, which survives a fault. -/
abbrev Stateful (σ α : Type) := EStateM Fault σ α

/-- The build profile decides whether integer overflow panics or wraps. -/
inductive Profile where
  | dev
  | release
  deriving Repr, DecidableEq

variable {σ α β : Type}

theorem bind_eq_ok_iff {x : Result α} {f : α → Result β} {b : β} :
    (x >>= f) = .ok b ↔ ∃ a, x = .ok a ∧ f a = .ok b := by
  cases x <;> simp [Bind.bind, Except.bind]

@[simp] theorem ok_bind (a : α) (f : α → Result β) : (Except.ok a >>= f) = f a := rfl

@[simp] theorem error_bind (e : Fault) (f : α → Result β) :
    ((Except.error e : Result α) >>= f) = .error e := rfl

theorem toOption_eq_some {x : Result α} {a : α} (h : x.toOption = some a) : x = .ok a := by
  cases x with
  | error fault => cases h
  | ok found =>
    cases h
    rfl

namespace Stateful

/-- Run a computation that needs no state. -/
def lift (x : Result α) : Stateful σ α := fun state =>
  match x with
  | .ok a => .ok a state
  | .error e => .error e state

instance : MonadLift Result (Stateful σ) where
  monadLift := lift

/-- The statement `x.ok();`, which drops a returned `Err` and goes on from the
    state that `x` left. Other faults are not values and propagate. -/
def ok (x : Stateful σ α) : Stateful σ Unit := fun state =>
  match x state with
  | .ok _ after => .ok () after
  | .error (.err _) after => .ok () after
  | .error e after => .error e after

/-- `x.expect(message)`: a returned `Err` becomes a panic. -/
def expect (x : Stateful σ α) (message : String) : Stateful σ α := fun state =>
  match x state with
  | .ok a after => .ok a after
  | .error (.err _) after => .error (.panic message) after
  | .error e after => .error e after

theorem bind_run (x : Stateful σ α) (f : α → Stateful σ β) (state : σ) :
    (x >>= f).run state =
      match x.run state with
      | .ok a after => (f a).run after
      | .error e after => .error e after := by
  change EStateM.bind x f state = match x state with
    | .ok a after => f a after
    | .error e after => .error e after
  unfold EStateM.bind
  cases x state <;> rfl

theorem bind_run_eq_ok_iff {x : Stateful σ α} {f : α → Stateful σ β} {b : β} {before after : σ} :
    (x >>= f).run before = .ok b after ↔
      ∃ a middle, x.run before = .ok a middle ∧ (f a).run middle = .ok b after := by
  rw [bind_run]
  cases h : x.run before <;> simp

theorem bind_run_eq_error_iff {x : Stateful σ α} {f : α → Stateful σ β} {fault : Fault} {before after : σ} :
    (x >>= f).run before = .error fault after ↔ x.run before = .error fault after ∨
      ∃ a middle, x.run before = .ok a middle ∧ (f a).run middle = .error fault after := by
  rw [bind_run]
  cases h : x.run before <;> simp

@[simp] theorem pure_run (a : α) (state : σ) : (pure a : Stateful σ α).run state = .ok a state := rfl

@[simp] theorem lift_ok_run (a : α) (state : σ) :
    (liftM (Except.ok a : Result α) : Stateful σ α).run state = .ok a state := rfl

@[simp] theorem lift_error_run (e : Fault) (state : σ) :
    (liftM (Except.error e : Result α) : Stateful σ α).run state = .error e state := rfl

theorem lift_run_eq_ok_iff {x : Result α} {a : α} {before after : σ} :
    (liftM x : Stateful σ α).run before = .ok a after ↔ x = .ok a ∧ after = before := by
  cases x <;> simp [eq_comm]

theorem lift_run_eq_error_iff {x : Result α} {fault : Fault} {before after : σ} :
    (liftM x : Stateful σ α).run before = .error fault after ↔ x = .error fault ∧ after = before := by
  cases x <;> simp [eq_comm]

theorem ok_run_of_ok {x : Stateful σ α} {a : α} {before after : σ} (h : x.run before = .ok a after) :
    (ok x).run before = .ok () after := by
  change (match x.run before with
    | .ok _ after => .ok () after
    | .error (.err _) after => .ok () after
    | .error e after => .error e after : EStateM.Result Fault σ Unit) = _
  rw [h]

/-- A statement that drops its `Err` still completes exactly in those states
    where the computation returned. -/
theorem ok_run_eq_ok_iff {x : Stateful σ α} {before after : σ} :
    (ok x).run before = .ok () after ↔
      (∃ a, x.run before = .ok a after) ∨ ∃ message, x.run before = .error (.err message) after := by
  change (match x.run before with
    | .ok _ after => .ok () after
    | .error (.err _) after => .ok () after
    | .error e after => .error e after : EStateM.Result Fault σ Unit) = _ ↔ _
  cases h : x.run before with
  | ok a middle => simp
  | error e middle => cases e <;> simp

/-- A statement that drops its `Err` ends in no `Err`. -/
theorem ok_run_ne_err {x : Stateful σ α} {message : String} {before after : σ} :
    (ok x).run before ≠ .error (.err message) after := by
  unfold ok EStateM.run
  dsimp only
  cases x before with
  | ok value middle => simp
  | error fault middle => cases fault <;> simp

theorem expect_run_eq_ok_iff {x : Stateful σ α} {message : String} {a : α} {before after : σ} :
    (expect x message).run before = .ok a after ↔ x.run before = .ok a after := by
  change (match x.run before with
    | .ok a after => .ok a after
    | .error (.err _) after => .error (.panic message) after
    | .error e after => .error e after : EStateM.Result Fault σ α) = _ ↔ _
  cases h : x.run before with
  | ok a middle => simp
  | error e middle => cases e <;> simp

/-- A run returns, and its value passes a check. -/
def returns (x : Stateful σ α) (before : σ) (check : α → Bool) : Bool :=
  match x.run before with
  | .ok value _ => check value
  | .error _ _ => false

theorem of_returns {x : Stateful σ α} {before : σ} {check : α → Bool} (h : returns x before check = true) :
    ∃ value after, x.run before = .ok value after ∧ check value = true := by
  unfold returns at h
  cases hrun : x.run before with
  | ok value after =>
    rw [hrun] at h
    exact ⟨value, after, rfl, h⟩
  | error fault after =>
    rw [hrun] at h
    cases h

end Stateful

end Rust
