import Vwfl.Rust.Arith
import Vwfl.Rust.Slice

namespace Rust

variable {α β : Type}

/-- The computation ends with a value or a returned `Err`. -/
def Survives (x : Result α) : Prop := ∀ fault, x = .error fault → ∃ message, fault = .err message

theorem survives_ok (a : α) : Survives (.ok a) := by
  intro fault h
  cases h

theorem survives_err (message : String) : Survives (.error (.err message) : Result α) := by
  intro fault h
  cases h
  exact ⟨message, rfl⟩

theorem not_survives_panic (message : String) : ¬ Survives (.error (.panic message) : Result α) := by
  intro h
  obtain ⟨_, hfault⟩ := h _ rfl
  cases hfault

theorem not_survives_diverge : ¬ Survives (.error .diverge : Result α) := by
  intro h
  obtain ⟨_, hfault⟩ := h _ rfl
  cases hfault

/-- A sequence survives when its first part does and the rest does from the value
    that the first part returns. -/
theorem survives_bind_iff {x : Result α} {f : α → Result β} :
    Survives (x >>= f) ↔ Survives x ∧ ∀ a, x = .ok a → Survives (f a) := by
  cases x with
  | ok a =>
    refine ⟨fun h => ⟨survives_ok a, fun b hb => ?_⟩, fun h => h.2 a rfl⟩
    cases hb
    exact h
  | error fault =>
    refine ⟨fun h => ⟨fun other hother => ?_, fun a ha => by cases ha⟩, fun h other hother => ?_⟩
    · cases hother
      exact h fault rfl
    · cases hother
      exact h.1 fault rfl

theorem survives_bind_pure_iff {x : Result α} {g : α → β} : Survives (x >>= fun a => pure (g a)) ↔ Survives x := by
  rw [survives_bind_iff]
  exact ⟨fun h => h.1, fun h => ⟨h, fun a _ => survives_ok (g a)⟩⟩

/-- The rule for a part that returns under a condition and panics otherwise. -/
theorem survives_bind_of {x : Result α} {condition : Prop} {a : α} (hok : condition → x = .ok a)
    (hsurvives : Survives x → condition) (f : α → Result β) :
    Survives (x >>= f) ↔ condition ∧ Survives (f a) := by
  rw [survives_bind_iff]
  constructor
  · rintro ⟨hx, hf⟩
    exact ⟨hsurvives hx, hf a (hok (hsurvives hx))⟩
  · rintro ⟨hcondition, hf⟩
    rw [hok hcondition]
    refine ⟨survives_ok a, fun b hb => ?_⟩
    cases hb
    exact hf

theorem survives_slice_bind_iff {data : List UInt8} {start stop : Nat} {f : List UInt8 → Result β} :
    Survives (slice data start stop >>= f) ↔
      (start ≤ stop ∧ stop ≤ data.length) ∧ Survives (f ((data.drop start).take (stop - start))) := by
  refine survives_bind_of slice_of_le (fun h => ?_) f
  by_contra hnot
  rw [slice, if_neg hnot] at h
  exact not_survives_panic _ h

namespace Profile

private theorem survives_checked {overflow : Bool} {message : String} {wrapped : α}
    (h : Survives (dev.checked overflow message wrapped)) : overflow = false := by
  unfold checked at h
  split at h
  · exact absurd h (not_survives_panic _)
  · rename_i hnot
    simpa using hnot

theorem survives_add32_bind_iff {first second : UInt32} {f : UInt32 → Result β} :
    Survives (dev.add32 first second >>= f) ↔
      first.toNat + second.toNat < 2 ^ 32 ∧ Survives (f (first + second)) :=
  survives_bind_of (add32_of_lt dev) (fun h => by simpa using survives_checked h) f

theorem survives_sub32_bind_iff {first second : UInt32} {f : UInt32 → Result β} :
    Survives (dev.sub32 first second >>= f) ↔ second.toNat ≤ first.toNat ∧ Survives (f (first - second)) :=
  survives_bind_of (sub32_of_le dev) (fun h => by simpa using survives_checked h) f

theorem survives_sub64_bind_iff {first second : UInt64} {f : UInt64 → Result β} :
    Survives (dev.sub64 first second >>= f) ↔ second.toNat ≤ first.toNat ∧ Survives (f (first - second)) :=
  survives_bind_of (sub64_of_le dev) (fun h => by simpa using survives_checked h) f

end Profile

/-- Every item of a list up to the first one that ends the search. -/
def UpTo (fits ends : α → Prop) : List α → Prop
  | [] => True
  | item :: rest => fits item ∧ (¬ ends item → UpTo fits ends rest)

/-- A fold survives when every round up to the first `Err` does. -/
theorem survives_foldlM_iff {f : β → α → Result β} {fits ends : α → Prop}
    (hfits : ∀ value item, Survives (f value item) ↔ fits item)
    (hends : ∀ value item, fits item → ((∃ next, f value item = .ok next) ↔ ¬ ends item)) (items : List α)
    (start : β) : Survives (items.foldlM f start) ↔ UpTo fits ends items := by
  induction items generalizing start with
  | nil => exact ⟨fun _ => trivial, fun _ => survives_ok start⟩
  | cons item items ih =>
    rw [List.foldlM_cons, survives_bind_iff, hfits, UpTo]
    refine and_congr_right fun hitem => ?_
    constructor
    · intro h hgoes
      obtain ⟨next, hnext⟩ := (hends start item hitem).mpr hgoes
      exact (ih next).mp (h next hnext)
    · intro h next hnext
      exact (ih next).mpr (h ((hends start item hitem).mp ⟨next, hnext⟩))

/-- A surviving fold returns exactly when no round ends in an `Err`. -/
theorem foldlM_returns_iff {f : β → α → Result β} {fits ends : α → Prop}
    (hends : ∀ value item, fits item → ((∃ next, f value item = .ok next) ↔ ¬ ends item)) {items : List α}
    (hitems : UpTo fits ends items) (start : β) :
    (∃ result, items.foldlM f start = .ok result) ↔ ∀ item ∈ items, ¬ ends item := by
  induction items generalizing start with
  | nil => exact ⟨fun _ _ h => absurd h List.not_mem_nil, fun _ => ⟨start, rfl⟩⟩
  | cons item items ih =>
    obtain ⟨hitem, hrest⟩ := hitems
    rw [List.foldlM_cons, List.forall_mem_cons]
    constructor
    · rintro ⟨result, hresult⟩
      obtain ⟨next, hnext, hresult⟩ := bind_eq_ok_iff.mp hresult
      have hgoes := (hends start item hitem).mp ⟨next, hnext⟩
      exact ⟨hgoes, (ih (hrest hgoes) next).mp ⟨result, hresult⟩⟩
    · rintro ⟨hgoes, hlater⟩
      obtain ⟨next, hnext⟩ := (hends start item hitem).mpr hgoes
      obtain ⟨result, hresult⟩ := (ih (hrest hgoes) next).mpr hlater
      exact ⟨result, bind_eq_ok_iff.mpr ⟨next, hnext, hresult⟩⟩

/-- A loop without an `Err` survives when every round does. -/
theorem survives_mapM_iff {f : α → Result β} {items : List α}
    (h : ∀ item ∈ items, Survives (f item) → ∃ value, f item = .ok value) :
    Survives (items.mapM f) ↔ ∀ item ∈ items, Survives (f item) := by
  induction items with
  | nil => exact ⟨fun _ _ h => absurd h List.not_mem_nil, fun _ => survives_ok []⟩
  | cons item items ih =>
    have hrest := ih fun later hlater => h later (List.mem_cons_of_mem _ hlater)
    rw [List.mapM_cons, survives_bind_iff, List.forall_mem_cons]
    refine and_congr_right fun hitem => ?_
    obtain ⟨value, hvalue⟩ := h item List.mem_cons_self hitem
    rw [← hrest]
    constructor
    · exact fun hbind => (survives_bind_iff.mp (hbind value hvalue)).1
    · exact fun hitems _ _ => survives_bind_iff.mpr ⟨hitems, fun values _ => survives_ok _⟩

/-- A run that survives under overflow checks is the same without them. -/
def Agrees (x y : Result α) : Prop := Survives x → y = x

theorem Agrees.refl (x : Result α) : Agrees x x := fun _ => rfl

theorem Agrees.bind {x y : Result α} {f g : α → Result β} (hxy : Agrees x y) (hfg : ∀ a, Agrees (f a) (g a)) :
    Agrees (x >>= f) (y >>= g) := by
  intro h
  obtain ⟨hx, hf⟩ := survives_bind_iff.mp h
  rw [hxy hx]
  cases x with
  | error fault => rfl
  | ok a => exact hfg a (hf a rfl)

theorem Agrees.checked (profile : Profile) (overflow : Bool) (message : String) (wrapped : α) :
    Agrees (Profile.dev.checked overflow message wrapped) (profile.checked overflow message wrapped) := by
  intro h
  have hfits := Profile.survives_checked h
  rw [Profile.dev.checked_of_not_overflow _ _ hfits, profile.checked_of_not_overflow _ _ hfits]

theorem Agrees.foldlM {f g : β → α → Result β} (h : ∀ value item, Agrees (f value item) (g value item))
    (items : List α) (start : β) : Agrees (items.foldlM f start) (items.foldlM g start) := by
  induction items generalizing start with
  | nil => exact .refl _
  | cons item items ih =>
    rw [List.foldlM_cons, List.foldlM_cons]
    exact (h start item).bind ih

theorem Agrees.mapM {f g : α → Result β} (h : ∀ item, Agrees (f item) (g item)) (items : List α) :
    Agrees (items.mapM f) (items.mapM g) := by
  induction items with
  | nil => exact .refl _
  | cons item items ih =>
    rw [List.mapM_cons, List.mapM_cons]
    exact (h item).bind fun _ => ih.bind fun _ => .refl _

end Rust
