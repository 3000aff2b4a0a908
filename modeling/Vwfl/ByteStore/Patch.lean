import Vwfl.ByteStore.Words

namespace ByteStore

/-- The 64-bit word at an address. -/
def word (cells : Nat → UInt8) (address : Nat) : UInt64 :=
  LittleEndian.toUInt64 (load cells address 8)

/-- Replace the word at an address by its image under `f`. -/
def patch (f : UInt64 → UInt64) (cells : Nat → UInt8) (target : Nat) : Nat → UInt8 :=
  store cells target (LittleEndian.ofUInt64 (f (word cells target)))

/-- Patch a sequence of words, each as the earlier patches left it. -/
def patchAll (f : UInt64 → UInt64) (cells : Nat → UInt8) (targets : List Nat) : Nat → UInt8 :=
  targets.foldl (patch f) cells

variable (f : UInt64 → UInt64)

@[simp] theorem patchAll_nil (cells : Nat → UInt8) : patchAll f cells [] = cells := rfl

@[simp] theorem patchAll_cons (cells : Nat → UInt8) (target : Nat) (targets : List Nat) :
    patchAll f cells (target :: targets) = patchAll f (patch f cells target) targets := rfl

theorem patchAll_append (cells : Nat → UInt8) (first second : List Nat) :
    patchAll f cells (first ++ second) = patchAll f (patchAll f cells first) second :=
  List.foldl_append

/-- Patching by the identity changes nothing. -/
theorem patchAll_id {f : UInt64 → UInt64} (hf : ∀ value, f value = value) (cells : Nat → UInt8)
    (targets : List Nat) : patchAll f cells targets = cells := by
  have hpatch : ∀ target, patch f cells target = cells := by
    intro target
    rw [patch, hf, word, LittleEndian.ofUInt64_toUInt64 (length_load cells target 8), store_load]
  induction targets with
  | nil => rfl
  | cons target targets ih => rw [patchAll_cons, hpatch, ih]

theorem patch_outside (cells : Nat → UInt8) {target address : Nat} (h : ¬ Within target 8 address) :
    patch f cells target address = cells address :=
  store_outside cells target _ (by rwa [LittleEndian.length_ofUInt64])

/-- A cell outside every patched word keeps its value. -/
theorem patchAll_untouched (cells : Nat → UInt8) (targets : List Nat) {address : Nat}
    (h : ∀ target ∈ targets, ¬ Within target 8 address) : patchAll f cells targets address = cells address := by
  induction targets generalizing cells with
  | nil => rfl
  | cons target targets ih =>
    rw [patchAll_cons, ih _ fun later hlater => h later (by simp [hlater])]
    exact patch_outside f cells (h target (by simp))

theorem word_congr {first second : Nat → UInt8} {address : Nat}
    (h : ∀ other, Within address 8 other → first other = second other) : word first address = word second address := by
  unfold word
  rw [load_congr h]

/-- A stored word survives when every later store of the sequence misses it. -/
theorem word_storeAll_of_split (cells : Nat → UInt8) {before after : List (Nat × List UInt8)} {offset : Nat}
    (value : UInt64) (hafter : Misses offset 8 after) :
    word (storeAll cells (before ++ (offset, LittleEndian.ofUInt64 value) :: after)) offset = value := by
  have hload : load (storeAll cells (before ++ (offset, LittleEndian.ofUInt64 value) :: after)) offset 8 =
      LittleEndian.ofUInt64 value :=
    load_storeAll_of_split cells (by rwa [LittleEndian.length_ofUInt64])
  rw [word, hload, LittleEndian.toUInt64_ofUInt64]

theorem word_patch_same (cells : Nat → UInt8) (target : Nat) :
    word (patch f cells target) target = f (word cells target) := by
  have hload := load_store_same cells target (LittleEndian.ofUInt64 (f (word cells target)))
  rw [LittleEndian.length_ofUInt64] at hload
  rw [patch, word, hload, LittleEndian.toUInt64_ofUInt64]

/-- When no two patched words overlap, each is patched exactly once. -/
theorem word_patchAll_of_mem (cells : Nat → UInt8) {targets : List Nat}
    (hdisjoint : targets.Pairwise fun first second => Disjoint first 8 second 8) {target : Nat}
    (hmem : target ∈ targets) : word (patchAll f cells targets) target = f (word cells target) := by
  induction targets generalizing cells with
  | nil => cases hmem
  | cons head targets ih =>
    obtain ⟨hhead, htail⟩ := List.pairwise_cons.mp hdisjoint
    rw [patchAll_cons]
    rcases List.mem_cons.mp hmem with rfl | hlater
    · rw [← word_patch_same f cells target]
      apply word_congr
      intro address hin
      exact patchAll_untouched f _ targets fun other hother => hhead other hother address hin
    · have hkept : word (patch f cells head) target = word cells target :=
        word_congr fun address hin => patch_outside f cells ((hhead target hlater).symm address hin)
      rw [ih _ htail hlater, hkept]

end ByteStore
