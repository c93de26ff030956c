import C64Screen.Proofs.Markup.Grammar
import C64Screen.Proofs.Text.Digits

/-!
# Fields as numerals

A field is accepted for its form and then read as an integer numeral. Every field of that form is such a
numeral, in whatever scripts its digits are, so the reading of an accepted field never fails.
-/

namespace C64Screen

open Unicode

namespace Numeral

/-- What stands behind a sign, or everything if there is none. -/
def unsigned : List Char → List Char
  | '+' :: rest => rest
  | '-' :: rest => rest
  | cs => cs

/-- Digits to the end, with or without a sign in front. -/
def isSignedDigits (cs : List Char) : Bool := !(unsigned cs).isEmpty && (unsigned cs).all isDigit

theorem digits?_pair {lead last : Char} {tens d : Nat} (ht : digitValue? lead = some tens)
    (hd : digitValue? last = some d) : digits? [lead, last] = some [tens, d] := by
  rw [digits?_cons ht hd, digits?_singleton hd]
  rfl

theorem natural?_singleton {c : Char} {d : Nat} (h : digitValue? c = some d) :
    natural? [c] = some d := by
  rw [natural?, digits?_singleton h]
  simp [mostDigits, ofDigits]

theorem natural?_pair {lead last : Char} {tens d : Nat} (ht : digitValue? lead = some tens)
    (hd : digitValue? last = some d) : natural? [lead, last] = some (10 * tens + d) := by
  rw [natural?, digits?_pair ht hd]
  simp [mostDigits, ofDigits]

end Numeral

namespace Markup

theorem integer?_of_fieldValue? {lead last : Char} {n : Int} (h : fieldValue? lead last = some n) :
    Numeral.integer? [lead, last] = some n := by
  unfold fieldValue? at h
  split at h
  · cases h
  · next d hd =>
    split at h
    · next plus =>
      subst plus
      rw [Numeral.integer?, Numeral.natural?_singleton hd]
      exact h
    · next plus =>
      split at h
      · next minus =>
        subst minus
        rw [Numeral.integer?, Numeral.natural?_singleton hd]
        exact h
      · next minus =>
        obtain ⟨tens, ht, value⟩ := Option.map_eq_some_iff.mp h
        rw [Numeral.integer?, Numeral.natural?_pair ht hd]
        · exact congrArg some value
        · exact fun body same => minus (List.cons.inj same).1
        · exact fun body same => plus (List.cons.inj same).1

theorem exists_value_of_isField {lead last : Char} (h : IsField [lead, last]) :
    ∃ n, fieldValue? lead last = some n ∧ Numeral.integer? [lead, last] = some n := by
  obtain ⟨n, value⟩ := isField_iff.mp h
  exact ⟨n, value, integer?_of_fieldValue? value⟩

theorem fieldValue?_eq_none_iff {lead last : Char} :
    fieldValue? lead last = none ↔ ¬ IsField [lead, last] := by
  rw [isField_iff, Option.eq_none_iff_forall_ne_some, not_exists]

theorem isField_pair_iff {lead last : Char} :
    IsField [lead, last] ↔ (lead = '+' ∨ lead = '-' ∨ isDigit lead = true) ∧ isDigit last = true := by
  constructor
  · rintro ⟨lead, last, same, form⟩
    cases same
    exact form
  · intro form
    exact ⟨lead, last, rfl, form⟩

/-- Of two characters, those that have the form of a number are the fields. -/
theorem isSignedDigits_pair_iff {lead last : Char} :
    Numeral.isSignedDigits [lead, last] = true ↔ IsField [lead, last] := by
  rw [isField_pair_iff, Numeral.isSignedDigits]
  by_cases plus : lead = '+'
  · subst plus
    simp [Numeral.unsigned]
  · by_cases minus : lead = '-'
    · subst minus
      simp [Numeral.unsigned]
    · have bare : Numeral.unsigned [lead, last] = [lead, last] := by
        unfold Numeral.unsigned
        split
        · next same => exact absurd (List.cons.inj same).1 plus
        · next same => exact absurd (List.cons.inj same).1 minus
        · rfl
      simp [bare, plus, minus]

theorem trim_field {lead last : Char} (legal : IsField [lead, last]) :
    trim isMargin [lead, last] = [lead, last] := by
  obtain ⟨first, digit⟩ := isField_pair_iff.mp legal
  apply trim_eq_self
  rw [List.forall_mem_cons, List.forall_mem_singleton]
  refine ⟨?_, isMargin_eq_false_of_isDigit digit⟩
  rcases first with rfl | rfl | digit
  · decide
  · decide
  · exact isMargin_eq_false_of_isDigit digit

/-- Whatever scripts its digits are of, what has the form of a field is read as its value. -/
theorem integer?_trim_of_fieldValue? {lead last : Char} {n : Int} (value : fieldValue? lead last = some n) :
    Numeral.integer? (trim isMargin [lead, last]) = some n := by
  rw [trim_field (isField_iff.mpr ⟨n, value⟩), integer?_of_fieldValue? value]

end Markup

end C64Screen
