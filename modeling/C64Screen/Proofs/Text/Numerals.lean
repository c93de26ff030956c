import Mathlib.Algebra.Group.Nat.Defs
import Mathlib.Algebra.Ring.Int.Defs
import Mathlib.Data.List.Induction
import C64Screen.Text.Numeral

/-!
# The length of numerals

A numeral that is read has no more digits than may be written, and its value has no more digits than it has
itself. So what was read from a text can always be written out again.
-/

namespace C64Screen.Numeral

open Unicode

theorem ofDigits_lt {ds : List Nat} (decimal : ∀ d ∈ ds, d < 10) : ofDigits ds < 10 ^ ds.length := by
  induction ds using List.reverseRecOn with
  | nil => simp
  | append_singleton ds d ih =>
    have lower := ih fun e listed => decimal e (List.mem_append_left [d] listed)
    have last : d < 10 := decimal d (by simp)
    rw [ofDigits_append, List.length_append, List.length_singleton, Nat.pow_succ]
    omega

theorem decimal_of_digits? {cs : List Char} {ds : List Nat} (read : digits? cs = some ds) :
    ∀ d ∈ ds, d < 10 := by
  fun_induction digits? cs generalizing ds with
  | case1 => cases read
  | case2 => cases read
  | case3 c d value =>
    cases read
    simpa using digitValue?_lt value
  | case4 c d value more ih | case5 c d value more _ _ ih =>
    obtain ⟨rest, found, rfl⟩ := Option.map_eq_some_iff.mp read
    simpa using ⟨digitValue?_lt value, ih found⟩

theorem natural?_lt {cs : List Char} {n : Nat} (read : natural? cs = some n) : n < 10 ^ mostDigits := by
  rw [natural?] at read
  split at read
  · next ds found =>
    split at read
    · next short =>
      cases read
      calc
        ofDigits ds < 10 ^ ds.length := ofDigits_lt (decimal_of_digits? found)
        _ ≤ 10 ^ mostDigits := Nat.pow_le_pow_right (by decide) short
    · cases read
  · cases read

theorem isShort_iff {n : Int} : isShort n = true ↔ n.natAbs < 10 ^ mostDigits := by
  rw [isShort, decide_eq_true_iff]
  exact Nat.length_toDigits_le_iff (by decide) (by decide)

/-- The least number that is too long to be written out. -/
theorem not_isShort_pow : isShort (10 ^ mostDigits) = false := by
  have digits (k : Nat) (pos : 0 < k) : ¬ (Nat.toDigits 10 (10 ^ k)).length ≤ k := by
    rw [Nat.length_toDigits_le_iff (by decide) pos]
    exact Nat.lt_irrefl _
  rw [isShort, Int.natAbs_pow, show Int.natAbs 10 = 10 from rfl]
  exact decide_eq_false (digits mostDigits (by decide))

theorem hundred_le_pow : (100 : Int) ≤ 10 ^ mostDigits := by
  have least : 10 ^ 2 ≤ 10 ^ mostDigits := Nat.pow_le_pow_right (by decide) (by decide)
  have cast : ((10 ^ mostDigits : Nat) : Int) = 10 ^ mostDigits := Int.natCast_pow ..
  omega

theorem isShort_of_integer? {cs : List Char} {n : Int} (read : integer? cs = some n) :
    isShort n = true := by
  rw [isShort_iff]
  unfold integer? at read
  split at read
  · next body =>
    cases found : natural? body with
    | none => simp [found] at read
    | some m =>
      obtain rfl : -(m : Int) = n := by simpa [found] using read
      simpa using natural?_lt found
  all_goals
    obtain ⟨m, found, rfl⟩ := Option.map_eq_some_iff.mp read
    exact natural?_lt found

end C64Screen.Numeral
