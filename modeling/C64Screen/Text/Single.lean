/-!
# Single characters

Where one character is asked for, a text is given. Only a text of exactly one code point names one.
-/

namespace C64Screen.Text

def single? (s : String) : Option Char :=
  match s.toList with
  | [c] => some c
  | _ => none

theorem single?_eq_some_iff {s : String} {c : Char} : single? s = some c ↔ s.toList = [c] := by
  unfold single?
  split
  · next h => simp [h]
  · next h =>
    simp only [reduceCtorEq, false_iff]
    exact fun hc => h c hc

end C64Screen.Text
