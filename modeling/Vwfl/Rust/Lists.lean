import Vwfl.Rust.Fault

namespace Rust

variable {α β : Type}

/-- A loop that collects results returns exactly when every round does. -/
theorem mapM_eq_ok_iff {f : α → Result β} {items : List α} {values : List β} :
    items.mapM f = .ok values ↔ List.Forall₂ (fun item value => f item = .ok value) items values := by
  induction items generalizing values with
  | nil =>
    rw [List.mapM_nil, List.forall₂_nil_left_iff]
    exact ⟨fun h => (Except.ok.inj h).symm, fun h => congrArg Except.ok h.symm⟩
  | cons item items ih =>
    rw [List.mapM_cons, bind_eq_ok_iff, List.forall₂_cons_left_iff]
    constructor
    · rintro ⟨value, hvalue, hrest⟩
      obtain ⟨rest, hitems, hpure⟩ := bind_eq_ok_iff.mp hrest
      exact ⟨value, rest, hvalue, ih.mp hitems, (Except.ok.inj hpure).symm⟩
    · rintro ⟨value, rest, hvalue, hitems, rfl⟩
      exact ⟨value, hvalue, bind_eq_ok_iff.mpr ⟨rest, ih.mpr hitems, rfl⟩⟩

/-- A loop whose rounds all return collects what they return. -/
theorem mapM_of_forall {f : α → Result β} {relation : α → β → Prop} {items : List α}
    (h : ∀ item ∈ items, ∃ value, f item = .ok value ∧ relation item value) :
    ∃ values, items.mapM f = .ok values ∧ List.Forall₂ relation items values := by
  induction items with
  | nil => exact ⟨[], rfl, .nil⟩
  | cons item items ih =>
    obtain ⟨value, hvalue, hfirst⟩ := h item List.mem_cons_self
    obtain ⟨values, hvalues, hrest⟩ := ih fun later hlater => h later (List.mem_cons_of_mem _ hlater)
    refine ⟨value :: values, ?_, .cons hfirst hrest⟩
    rw [List.mapM_cons, hvalue, ok_bind, hvalues, ok_bind]
    rfl

/-- A fold that puts one value in front in every round. -/
theorem foldlM_collect {f : List β → α → Result (List β)} {value : α → β} {items : List α}
    (h : ∀ item ∈ items, ∀ collected, f collected item = .ok (value item :: collected)) (start : List β) :
    items.foldlM f start = .ok ((items.map value).reverse ++ start) := by
  induction items generalizing start with
  | nil => rfl
  | cons item items ih =>
    rw [List.foldlM_cons, h item List.mem_cons_self, ok_bind,
      ih fun later hlater => h later (List.mem_cons_of_mem _ hlater)]
    simp

/-- Every round of a fold that returns has returned. -/
theorem round_of_foldlM_eq_ok {f : β → α → Result β} {items : List α} {start result : β}
    (h : items.foldlM f start = .ok result) : ∀ item ∈ items, ∃ before after, f before item = .ok after := by
  induction items generalizing start with
  | nil => simp
  | cons item items ih =>
    rw [List.foldlM_cons] at h
    obtain ⟨next, hnext, hrest⟩ := bind_eq_ok_iff.mp h
    exact List.forall_mem_cons.mpr ⟨⟨start, next, hnext⟩, ih hrest⟩

theorem forall₂_of_getElem? {relation : α → β → Prop} {items : List α} {values : List β}
    (h : List.Forall₂ relation items values) {i : Nat} {value : β} (hvalue : values[i]? = some value) :
    ∃ item, items[i]? = some item ∧ relation item value := by
  induction h generalizing i with
  | nil => cases hvalue
  | cons hfirst hrest ih =>
    rename_i item first items values
    cases i with
    | zero =>
      cases hvalue
      exact ⟨item, rfl, hfirst⟩
    | succ i => exact ih hvalue

/-- Corresponding items are related pairwise as their values are. -/
theorem pairwise_of_forall₂ {relation : α → β → Prop} {left : α → α → Prop} {right : β → β → Prop} {items : List α}
    {values : List β} (h : List.Forall₂ relation items values) (hitems : items.Pairwise left)
    (himp : ∀ {a b c d}, relation a c → relation b d → left a b → right c d) : values.Pairwise right := by
  rw [List.pairwise_iff_getElem] at hitems ⊢
  intro i j hi hj hij
  have hfirst := h.length_eq ▸ hi
  have hsecond := h.length_eq ▸ hj
  exact himp (h.get hfirst hi) (h.get hsecond hj) (hitems i j hfirst hsecond hij)

/-- Searches for corresponding conditions find corresponding items. -/
theorem rel_find? {relation : α → β → Prop} {left : α → Bool} {right : β → Bool} {items : List α} {values : List β}
    (h : List.Forall₂ relation items values) (hsame : ∀ {item value}, relation item value → left item = right value) :
    Option.Rel relation (items.find? left) (values.find? right) := by
  induction h with
  | nil => exact .none
  | cons hfirst hrest ih =>
    rw [List.find?_cons, List.find?_cons, hsame hfirst]
    split
    · exact .some hfirst
    · exact ih

/-- The numbers of a list's items. -/
theorem range_length_eq (items : List α) : List.range items.length = items.zipIdx.map Prod.snd := by
  rw [List.zipIdx_map_snd, List.range_eq_range']

/-- The values are those of the items. -/
theorem mem_of_mapM_eq_ok {f : α → Result β} {items : List α} {values : List β} (h : items.mapM f = .ok values) :
    (∀ item ∈ items, ∃ value ∈ values, f item = .ok value) ∧
      ∀ value ∈ values, ∃ item ∈ items, f item = .ok value := by
  have hpairs := mapM_eq_ok_iff.mp h
  clear h
  induction hpairs with
  | nil => simp
  | cons hfirst hrest ih =>
    rename_i item value items values
    constructor
    · intro other hother
      rcases List.mem_cons.mp hother with rfl | hlater
      · exact ⟨value, List.mem_cons_self, hfirst⟩
      · obtain ⟨found, hfound, hvalue⟩ := ih.1 other hlater
        exact ⟨found, List.mem_cons_of_mem _ hfound, hvalue⟩
    · intro other hother
      rcases List.mem_cons.mp hother with rfl | hlater
      · exact ⟨item, List.mem_cons_self, hfirst⟩
      · obtain ⟨found, hfound, hvalue⟩ := ih.2 other hlater
        exact ⟨found, List.mem_cons_of_mem _ hfound, hvalue⟩

/-- What every completed round of a fold keeps of its value and the state holds
    behind the fold. -/
theorem foldlM_run_invariant {σ : Type} {items : List α} {body : β → α → Stateful σ β} (holds : β → σ → Prop)
    (hkeeps : ∀ value item before next after, holds value before →
      (body value item).run before = .ok next after → holds next after)
    {start result : β} {before after : σ} (hstart : holds start before)
    (hrun : (items.foldlM body start).run before = .ok result after) : holds result after := by
  induction items generalizing start before with
  | nil =>
    injection hrun with hvalue hstate
    rwa [← hvalue, ← hstate]
  | cons item items ih =>
    rw [List.foldlM_cons] at hrun
    obtain ⟨next, middle, hround, hrest⟩ := Stateful.bind_run_eq_ok_iff.mp hrun
    exact ih (hkeeps start item before next middle hstart hround) hrest

end Rust
