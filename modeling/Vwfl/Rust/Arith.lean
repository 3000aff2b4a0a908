import Vwfl.Rust.Fault

namespace Rust

/-- The outcome of an integer operation: a panic when it overflows under
    overflow checks, and the wrapped value otherwise. -/
def Profile.checked {α : Type} (profile : Profile) (overflow : Bool) (message : String) (wrapped : α) :
    Result α :=
  if profile = .dev ∧ overflow then .error (.panic message) else .ok wrapped

namespace Profile

def add64 (profile : Profile) (first second : UInt64) : Result UInt64 :=
  profile.checked (2 ^ 64 ≤ first.toNat + second.toNat) "attempt to add with overflow" (first + second)

def sub64 (profile : Profile) (first second : UInt64) : Result UInt64 :=
  profile.checked (first.toNat < second.toNat) "attempt to subtract with overflow" (first - second)

def mul64 (profile : Profile) (first second : UInt64) : Result UInt64 :=
  profile.checked (2 ^ 64 ≤ first.toNat * second.toNat) "attempt to multiply with overflow" (first * second)

def add32 (profile : Profile) (first second : UInt32) : Result UInt32 :=
  profile.checked (2 ^ 32 ≤ first.toNat + second.toNat) "attempt to add with overflow" (first + second)

def sub32 (profile : Profile) (first second : UInt32) : Result UInt32 :=
  profile.checked (first.toNat < second.toNat) "attempt to subtract with overflow" (first - second)

def add16 (profile : Profile) (first second : UInt16) : Result UInt16 :=
  profile.checked (2 ^ 16 ≤ first.toNat + second.toNat) "attempt to add with overflow" (first + second)

variable {α : Type}

theorem checked_eq_ok_iff {profile : Profile} {overflow : Bool} {message : String} {wrapped value : α} :
    profile.checked overflow message wrapped = .ok value ↔
      (profile = .dev → overflow = false) ∧ value = wrapped := by
  unfold checked
  split
  · rename_i h
    simp [h.1, h.2]
  · rename_i h
    simp only [not_and, Bool.not_eq_true] at h
    rw [Except.ok.injEq, eq_comm]
    exact ⟨fun heq => ⟨h, heq⟩, fun hboth => hboth.2⟩

theorem checked_of_not_overflow (profile : Profile) {overflow : Bool} (message : String) (wrapped : α)
    (h : overflow = false) : profile.checked overflow message wrapped = .ok wrapped :=
  checked_eq_ok_iff.mpr ⟨fun _ => h, rfl⟩

/-- A checked operation returns the wrapped value or panics. -/
theorem checked_cases (profile : Profile) (overflow : Bool) (message : String) (wrapped : α) :
    profile.checked overflow message wrapped = .ok wrapped ∨
      profile.checked overflow message wrapped = .error (.panic message) := by
  unfold checked
  split
  · exact .inr rfl
  · exact .inl rfl

theorem checked_eq_error {profile : Profile} {overflow : Bool} {message : String} {wrapped : α} {fault : Fault}
    (h : profile.checked overflow message wrapped = .error fault) : profile = .dev ∧ fault = .panic message := by
  unfold checked at h
  split at h
  · rename_i hoverflow
    cases h
    exact ⟨hoverflow.1, rfl⟩
  · cases h

theorem add64_cases (profile : Profile) (first second : UInt64) :
    profile.add64 first second = .ok (first + second) ∨
      profile.add64 first second = .error (.panic "attempt to add with overflow") :=
  profile.checked_cases _ _ _

theorem eq_of_add64 {profile : Profile} {first second sum : UInt64}
    (h : profile.add64 first second = .ok sum) : sum = first + second :=
  (checked_eq_ok_iff.mp h).2

theorem add64_eq_ok_iff {profile : Profile} {first second sum : UInt64} :
    profile.add64 first second = .ok sum ↔
      (profile = .dev → first.toNat + second.toNat < 2 ^ 64) ∧ sum = first + second := by
  unfold add64
  rw [checked_eq_ok_iff]
  simp

/-- A sum is never an `Err`. -/
theorem add64_ne_err {profile : Profile} {first second : UInt64} {message : String} :
    profile.add64 first second ≠ .error (.err message) := by
  intro h
  cases (checked_eq_error h).2

theorem eq_of_sub32 {profile : Profile} {first second difference : UInt32}
    (h : profile.sub32 first second = .ok difference) : difference = first - second :=
  (checked_eq_ok_iff.mp h).2

theorem add32_eq_ok_iff {profile : Profile} {first second sum : UInt32} :
    profile.add32 first second = .ok sum ↔
      (profile = .dev → first.toNat + second.toNat < 2 ^ 32) ∧ sum = first + second := by
  rw [add32, checked_eq_ok_iff]
  simp only [decide_eq_false_iff_not, Nat.not_le]

theorem sub32_eq_ok_iff {profile : Profile} {first second difference : UInt32} :
    profile.sub32 first second = .ok difference ↔
      (profile = .dev → second.toNat ≤ first.toNat) ∧ difference = first - second := by
  rw [sub32, checked_eq_ok_iff]
  simp only [decide_eq_false_iff_not, Nat.not_lt]

theorem sub64_eq_ok_iff {profile : Profile} {first second difference : UInt64} :
    profile.sub64 first second = .ok difference ↔
      (profile = .dev → second.toNat ≤ first.toNat) ∧ difference = first - second := by
  rw [sub64, checked_eq_ok_iff]
  simp only [decide_eq_false_iff_not, Nat.not_lt]

@[simp] theorem add64_release (first second : UInt64) :
    release.add64 first second = .ok (first + second) := rfl

/-- An addition below the word size succeeds under both profiles. -/
theorem add64_of_lt (profile : Profile) {first second : UInt64}
    (h : first.toNat + second.toNat < 2 ^ 64) : profile.add64 first second = .ok (first + second) :=
  checked_of_not_overflow profile _ _ (decide_eq_false (by omega))

theorem add32_of_lt (profile : Profile) {first second : UInt32}
    (h : first.toNat + second.toNat < 2 ^ 32) : profile.add32 first second = .ok (first + second) :=
  checked_of_not_overflow profile _ _ (decide_eq_false (by omega))

theorem sub64_of_le (profile : Profile) {first second : UInt64}
    (h : second.toNat ≤ first.toNat) : profile.sub64 first second = .ok (first - second) :=
  checked_of_not_overflow profile _ _ (decide_eq_false (by omega))

theorem sub32_of_le (profile : Profile) {first second : UInt32}
    (h : second.toNat ≤ first.toNat) : profile.sub32 first second = .ok (first - second) :=
  checked_of_not_overflow profile _ _ (decide_eq_false (by omega))

end Profile

end Rust
