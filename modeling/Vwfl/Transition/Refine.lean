import Mathlib.Tactic

namespace Transition

variable {ε α β ι : Type} {σ τ : Type}

/-- Two outcomes that look alike: the same value or the same fault, in states
    that are related. -/
inductive Alike (related : σ → τ → Prop) : EStateM.Result ε σ α → EStateM.Result ε τ α → Prop where
  | ok {value : α} {state : σ} {abstract : τ} (hrelated : related state abstract) :
    Alike related (.ok value state) (.ok value abstract)
  | error {fault : ε} {state : σ} {abstract : τ} (hrelated : related state abstract) :
    Alike related (.error fault state) (.error fault abstract)

/-- A stateful program does what an abstract one does, seen through a relation
    of their states. -/
def Refines (related : σ → τ → Prop) (program : EStateM ε σ α) (abstract : EStateM ε τ α) : Prop :=
  ∀ state other, related state other → Alike related (program.run state) (abstract.run other)

variable {related : σ → τ → Prop} {program : EStateM ε σ α} {abstract : EStateM ε τ α}

theorem Refines.pure (value : α) : Refines related (pure value : EStateM ε σ α) (pure value : EStateM ε τ α) :=
  fun _ _ hrelated => .ok hrelated

/-- Programs that refine one after the other refine in sequence. -/
theorem Refines.bind {rest : α → EStateM ε σ β} {abstractRest : α → EStateM ε τ β}
    (hprogram : Refines related program abstract) (hrest : ∀ value, Refines related (rest value) (abstractRest value)) :
    Refines related (program >>= rest) (abstract >>= abstractRest) := by
  intro state other hrelated
  have hfirst := hprogram state other hrelated
  change Alike related (EStateM.bind program rest state) (EStateM.bind abstract abstractRest other)
  change Alike related (program state) (abstract other) at hfirst
  unfold EStateM.bind
  generalize program state = reached at hfirst
  generalize abstract other = abstractReached at hfirst
  cases hfirst with
  | ok hmiddle => exact hrest _ _ _ hmiddle
  | error hmiddle => exact .error hmiddle

/-- A program that serves requests one by one refines one that does so. -/
theorem Refines.mapM {serve : ι → EStateM ε σ α} {spec : ι → EStateM ε τ α} {requests : List ι}
    (hserve : ∀ request ∈ requests, Refines related (serve request) (spec request)) :
    Refines related (requests.mapM serve) (requests.mapM spec) := by
  induction requests with
  | nil => exact .pure []
  | cons request requests ih =>
    obtain ⟨hfirst, hrest⟩ := List.forall_mem_cons.mp hserve
    rw [List.mapM_cons, List.mapM_cons]
    apply hfirst.bind
    intro answer
    apply (ih hrest).bind
    intro answers
    exact .pure (answer :: answers)

end Transition
