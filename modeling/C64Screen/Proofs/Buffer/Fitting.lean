import C64Screen.Proofs.Buffer.Grids
import C64Screen.Proofs.Buffer.Strokes
import C64Screen.Unchecked.Call

/-!
# Values that fit

The writes that take values of any kind look at each value when they come to need it. Where the values are what
they should be, nothing of that is to be seen: characters are stored, what falls outside the grid is dropped, and
the write is the one proper. A text is gone through part by part, and its parts are its characters.
-/

namespace C64Screen.Unchecked

open Buffer

theorem andThen_fit (b : Buffer) (f : Buffer → Trial) : (fit b).andThen f = f b := rfl

/-- Within the grid the write is made, and outside of it the write proper drops what it is given. -/
theorem atCell_fit {b : Buffer} {o : Int} {act : Buffer → Trial} {p : Put} (here : p.offset = o)
    (made : b.Holds o → act b = fit (p.run b)) : atCell (.int o) act b = fit (p.run b) := by
  unfold atCell
  by_cases inside : b.Holds o
  · simp only [holds?_int, inside, decide_true]
    exact made inside
  · subst here
    simp only [holds?_int, inside, decide_false, Put.run_of_outside inside]

theorem putChar_fit (c : Char) (o : Int) (b : Buffer) :
    putChar (.text (String.singleton c)) (.int o) b = fit (b.putChar (String.singleton c) o) := by
  have stored : Glyph.ofValue (.text (String.singleton c)) = .store (String.singleton c) := by
    simp [Glyph.ofValue, Value.parts?]
  apply atCell_fit (p := ⟨.char (String.singleton c), o⟩) rfl
  intro _
  rw [stored]
  rfl

theorem putColour_fit (colour : Value) (o : Int) (b : Buffer) :
    putColour colour (.int o) b = fit (b.putColour colour o) := by
  apply atCell_fit (p := ⟨.colour colour, o⟩) rfl
  intro _
  cases found : Colour.ofValue? colour with
  | none => exact congrArg fit (putColour_of_none found b o).symm
  | some c => rfl

theorem placeChar_fit (c : Char) (o : Int) (colour : Value) (b : Buffer) :
    placeChar (.text (String.singleton c)) (.int o) colour b = fit (b.place c o colour) := by
  have single : Text.single? (String.singleton c) = some c :=
    Text.single?_eq_some_iff.mpr (String.toList_singleton c)
  unfold placeChar
  rw [putChar_fit, andThen_fit, putColour_fit, putChar_of_single? single]
  rfl

theorem isText_lineEnd (c : Char) : (Value.text (String.singleton c)).isText lineEnd = decide (c = lineFeed) := by
  simp [Value.isText, lineEnd]

theorem placeParts_fit (colour : Value) (text : List Char) (o start : Int) (b : Buffer) :
    placeParts colour (text.map fun c => .text (String.singleton c)) (.int o) (.int start) b =
      fit (placeFrom colour text o start b) := by
  induction text generalizing o start b with
  | nil => rfl
  | cons c rest ih =>
    by_cases feed : c = lineFeed
    · have next : nextLine? b (.int start) = some (.int (start + b.width)) := rfl
      subst feed
      simp only [List.map_cons, placeParts, isText_lineEnd, decide_true, if_true, next]
      rw [placeFrom_lineFeed]
      exact ih (start + b.width) (start + b.width) b
    · have next : nextCell? (.int o) = some (.int (o + 1)) := rfl
      have placed := placeChar_fit c o colour b
      simp only [List.map_cons, placeParts, isText_lineEnd, feed, decide_false, placed, fit, next]
      rw [placeFrom_cons feed]
      exact ih (o + 1) start (b.place c o colour)

theorem placeText_fit (s : String) (o : Int) (colour : Value) (b : Buffer) :
    placeText (.text s) (.int o) colour b = fit (b.placeText s.toList o colour) := by
  by_cases empty : s = ""
  · subst empty
    rfl
  · have is_true : (Value.text s).isTrue = true := by simpa [Value.isTrue] using empty
    simp only [placeText, is_true, Value.parts?]
    exact placeParts_fit colour s.toList o o b

/-- A diagnostic is the write proper, which is not begun where the position is too long to be written out. -/
theorem report_fit (kind s : String) (position : Int) (b : Buffer) :
    let w := Write.report kind s.toList position
    (Call.report (.text kind) (.text s) (.int position)).run b =
      ⟨(w.run b).1, (w.run b).2, Numeral.isShort position, !Numeral.isShort position⟩ := by
  intro w
  cases short : Numeral.isShort position with
  | false => simp [w, Call.run, report, isLong, Write.run, short]
  | true =>
    simp only [w, Call.run, report, isLong, Write.run, short, Bool.not_true, Bool.false_eq_true, if_false, if_true]
    rw [placeText_fit]
    rfl

end C64Screen.Unchecked
