import C64Screen.Value

/-!
# Sizes

Widths, heights and font sizes are counted in whole units, of which there is at least one.
-/

namespace C64Screen

structure Size where
  val : Nat
  pos : 0 < val
  deriving DecidableEq, Repr

namespace Size

def ofInt? (n : Int) : Option Size := if h : 0 < n then some ⟨n.toNat, by omega⟩ else none

def ofValue? : Value → Option Size
  | .int n => ofInt? n
  | _ => none

def toInt (s : Size) : Int := s.val

def toValue (s : Size) : Value := .int s.toInt

theorem ofInt?_eq_some_iff {n : Int} {s : Size} : ofInt? n = some s ↔ n = s.toInt := by
  obtain ⟨k, hk⟩ := s
  unfold ofInt? toInt
  split
  · simp only [Option.some.injEq, mk.injEq]; omega
  · simp only [reduceCtorEq, false_iff]; omega

theorem ofValue?_eq_some_iff {v : Value} {s : Size} : ofValue? v = some s ↔ v = s.toValue := by
  cases v <;> simp [ofValue?, toValue, ofInt?_eq_some_iff]

@[simp] theorem ofInt?_toInt (s : Size) : ofInt? s.toInt = some s := ofInt?_eq_some_iff.mpr rfl

@[simp] theorem ofValue?_toValue (s : Size) : ofValue? s.toValue = some s :=
  ofValue?_eq_some_iff.mpr rfl

theorem ofInt?_eq_none_iff {n : Int} : ofInt? n = none ↔ n ≤ 0 := by
  unfold ofInt?; split <;> simp <;> omega

end Size

end C64Screen
