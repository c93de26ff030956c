import C64Screen.Proofs.Markup.Layers
import C64Screen.Proofs.Markup.PlainText
import C64Screen.Proofs.Settings.Acceptance

/-!
# A pen that starts dry

A drawing may begin with a colour that is none. Such a pen puts characters down and leaves the cells in the colours
that they have. On a new screen that is all one with drawing in the cursor colour, for all cells have it, those of
the test picture among them. It stays so until a token gives the pen a colour, and no token ever gives back the one
it began with. So at any time the two drafts are either the same, or they differ in the colour of their pens alone
and every cell is in the cursor colour still. A clear leaves the colours alone, and a diagnostic has a colour of its
own.
-/

namespace C64Screen

/-! Grids in one colour. -/

namespace Buffer

variable {b : Buffer} {k : Colour}

/-- All cells have one colour. -/
def Tinted (k : Colour) (b : Buffer) : Prop := ∀ o cell, b.cell? o = some cell → cell.colour = some k

theorem tinted_filled (c : Char) (k : Colour) (width height : Size) :
    Tinted k (filled ⟨c, some k⟩ width height) := by
  intro o cell found
  rw [cell?_filled] at found
  split at found
  · cases found
    rfl
  · cases found

namespace Tinted

theorem setChar (h : Tinted k b) (c : Char) (o : Int) : Tinted k (b.setChar c o) := by
  intro p cell found
  rw [cell?_setChar] at found
  split at found
  · obtain ⟨under, there, rfl⟩ := Option.map_eq_some_iff.mp found
    exact h p under there
  · exact h p cell found

theorem setColour_eq (h : Tinted k b) (o : Int) : b.setColour k o = b := by
  refine ext_cell? (width_setColour ..) (height_setColour ..) fun p => ?_
  rw [cell?_setColour]
  split
  · cases found : b.cell? p with
    | none => rfl
    | some cell =>
      obtain ⟨c, colour⟩ := cell
      obtain rfl : colour = some k := h p _ found
      rfl
  · rfl

theorem clear (h : Tinted k b) : Tinted k b.clear := by
  intro o cell found
  rw [cell?_clear] at found
  obtain ⟨under, there, rfl⟩ := Option.map_eq_some_iff.mp found
  exact h o under there

theorem place_eq (h : Tinted k b) (c : Char) (o : Int) : b.place c o k.toValue = b.setChar c o := by
  rw [Buffer.place, putColour_toValue, (h.setChar c o).setColour_eq]

theorem place (h : Tinted k b) (c : Char) (o : Int) : Tinted k (b.place c o k.toValue) := by
  rw [h.place_eq]
  exact h.setChar c o

theorem place_dry (h : Tinted k b) {v : Value} (dry : ¬ v.IsColour) (c : Char) (o : Int) :
    b.place c o v = b.place c o k.toValue := by
  rw [h.place_eq, Buffer.place, putColour_of_none (Colour.ofValue?_of_not_isColour dry)]

theorem placeFrom (h : Tinted k b) (text : List Char) (o start : Int) :
    Tinted k (placeFrom k.toValue text o start b) := by
  induction text generalizing b o start with
  | nil => exact h
  | cons c rest ih =>
    rw [Buffer.placeFrom]
    split
    · exact ih h _ _
    · exact ih (h.place c o) _ _

theorem placeFrom_dry (h : Tinted k b) {v : Value} (dry : ¬ v.IsColour) (text : List Char) (o start : Int) :
    Buffer.placeFrom v text o start b = Buffer.placeFrom k.toValue text o start b := by
  induction text generalizing b o start with
  | nil => rfl
  | cons c rest ih =>
    rw [Buffer.placeFrom, Buffer.placeFrom, h.place_dry dry]
    split
    · exact ih h _ _
    · exact ih (h.place c o) _ _

theorem testPicture (h : Tinted k b) : Tinted k (Screen.testPicture b k.toValue) := by
  simp only [Screen.testPicture, placeText]
  iterate 5 apply Tinted.placeFrom
  exact h

end Tinted

end Buffer

/-! Markup. -/

namespace Markup

/-- Two drafts with one pen dry and the other in the colour of all cells, or two that are the same. -/
inductive Draft.Dries (k : Colour) : Draft → Draft → Prop
  | dry {b : Buffer} (tinted : b.Tinted k) (place : Place) {v : Value} (dry : ¬ v.IsColour) (reverse : Bool) :
      Dries k ⟨b, place, v, reverse⟩ ⟨b, place, k.toValue, reverse⟩
  | same (d : Draft) : Dries k d d

namespace Draft.Dries

variable {k : Colour} {d e : Draft}

theorem buffer (h : Dries k d e) : d.buffer = e.buffer := by
  cases h with
  | dry => rfl
  | same => rfl

theorem apply (h : Dries k d e) (f : Effect) : Dries k (d.apply f) (e.apply f) := by
  cases h with
  | same d => exact .same _
  | @dry b tinted place v dry reverse =>
    cases f with
    | write c =>
      let shown := if reverse then Charset.reverse c else c
      change Dries k ⟨b.place shown place.offset v, place.move 1, v, reverse⟩
        ⟨b.place shown place.offset k.toValue, place.move 1, k.toValue, reverse⟩
      rw [tinted.place_dry dry]
      exact .dry (tinted.place shown place.offset) _ dry reverse
    | lineFeed => exact .dry tinted _ dry reverse
    | clear => exact .dry tinted.clear _ dry reverse
    | home => exact .dry tinted _ dry reverse
    | move rows cells => exact .dry tinted _ dry reverse
    | ink code => exact .same _
    | reverse on => exact .dry tinted place dry on

end Draft.Dries

open Buffer

theorem interpret_dry {b : Buffer} {k : Colour} (tinted : b.Tinted k) {v : Value} (dry : ¬ v.IsColour)
    (text : List Char) (offset : Int) :
    interpret b text (some offset) v = interpret b text (some offset) k.toValue := by
  have begun : (Draft.start b offset v).Dries k (.start b offset k.toValue) := .dry tinted _ dry false
  have drawn := Draft.applyEach_of_apply Draft.Dries.apply begun (Script.ofText text).effects
  simp only [interpret_eq, Script.result_eq_applyEach, drawn.buffer]

end Markup

/-! Screens. -/

/-- A drawing without a colour has that of the cursor. -/
theorem render_cursor (text : List Char) (settings : Settings) (x y : Int) (plain : Bool) :
    render text settings ⟨x, y, .null, plain⟩ = render text settings ⟨x, y, settings.cursor.toValue, plain⟩ := by
  obtain ⟨bare, created, shows⟩ := settings.exists_shows
  rw [render_of_createScreen created, render_of_createScreen created, ← shows.cursor]
  rfl

theorem Screen.tinted_printTestPicture {s : Screen} (tinted : s.buffer.Tinted s.cursor) :
    s.printTestPicture.buffer.Tinted s.cursor := by
  simp only [printTestPicture]
  exact tinted.testPicture

theorem Settings.tinted_createScreen {s : Settings} {screen : Screen} {events : List Log.Event}
    (made : s.createScreen = .ok (screen, events)) : screen.buffer.Tinted s.cursor := by
  have blank : s.bareScreen.buffer.Tinted s.cursor := Buffer.tinted_filled ' ' s.cursor s.width s.height
  rw [createScreen_eq] at made
  cases made
  split
  · exact Screen.tinted_printTestPicture blank
  · exact blank

theorem Colour.toValue_ne_null (k : Colour) : k.toValue ≠ .null := by
  unfold toValue
  exact nofun

theorem Drawing.colourOn_of_ne_null {d : Drawing} (given : d.colour ≠ .null) (s : Screen) :
    d.colourOn s = d.colour := by
  unfold colourOn
  split
  · next absent => exact absurd absent given
  · rfl

theorem Drawing.write_dry {s : Screen} {k : Colour} (tinted : s.buffer.Tinted k) {v : Value} (given : v ≠ .null)
    (dry : ¬ v.IsColour) (text : List Char) (x y : Int) (plain : Bool) :
    s.write (write ⟨x, y, v, plain⟩ text s) = s.write (write ⟨x, y, k.toValue, plain⟩ text s) := by
  have own : colourOn ⟨x, y, v, plain⟩ s = v := colourOn_of_ne_null given s
  have other : colourOn ⟨x, y, k.toValue, plain⟩ s = k.toValue := colourOn_of_ne_null k.toValue_ne_null s
  unfold write
  rw [own, other]
  cases plain with
  | true => simp only [Screen.write, Write.run, Buffer.placeText, if_true, tinted.placeFrom_dry dry]
  | false =>
    simp only [Screen.write, Write.run, Bool.false_eq_true, if_false, Markup.interpret_dry tinted dry]

theorem render_of_not_isColour (text : List Char) (settings : Settings) (x y : Int) (plain : Bool) {colour : Value}
    (dry : ¬ colour.IsColour) :
    render text settings ⟨x, y, colour, plain⟩ =
      render text settings ⟨x, y, settings.cursor.toValue, plain⟩ := by
  by_cases absent : colour = .null
  · rw [absent, render_cursor]
  · obtain ⟨bare, created⟩ := settings.exists_createScreen
    have tinted := Settings.tinted_createScreen created
    rw [render_of_createScreen created, render_of_createScreen created, Drawing.write_dry tinted absent dry]

/-- To draw with what is no colour is to draw without one, and that is to draw in the colour of the cursor. -/
theorem render_dry (text : List Char) (settings : Settings) (x y : Int) (plain : Bool) {colour : Value}
    (dry : ¬ colour.IsColour) :
    ∃ (screen : Screen) (events : List Log.Event),
      render text settings ⟨x, y, colour, plain⟩ = .ok (screen, events) ∧
        render text settings ⟨x, y, .null, plain⟩ = .ok (screen, events) ∧
        render text settings ⟨x, y, settings.cursor.toValue, plain⟩ = .ok (screen, events) := by
  obtain ⟨bare, created⟩ := settings.exists_createScreen
  have inked := render_of_createScreen created text ⟨x, y, settings.cursor.toValue, plain⟩
  refine ⟨_, _, ?_, ?_, inked⟩
  · rw [render_of_not_isColour text settings x y plain dry]
    exact inked
  · rw [render_cursor]
    exact inked

/-- A truth value for a colour, on a test picture, under markup that clears, chooses a colour and breaks off. -/
theorem render_dry_broken :
    let settings : Settings := { width := ⟨30, by decide⟩, cursor := .green, testPicture := true }
    let text := "AB\x7bCLR\x7dC\x7bCOL:07\x7dD\x7bCOL:99\x7dE\x7bXYZ\x7d".toList
    ¬ (Value.bool true).IsColour ∧
      ∃ (screen : Screen) (events : List Log.Event),
        render text settings ⟨-1, 2, .bool true, false⟩ = .ok (screen, events) ∧
          render text settings ⟨-1, 2, .null, false⟩ = .ok (screen, events) := by
  intro settings text
  have dry : ¬ (Value.bool true).IsColour := by decide
  obtain ⟨screen, events, drawn, without, -⟩ := render_dry text settings (-1) 2 false dry
  exact ⟨dry, screen, events, drawn, without⟩

end C64Screen
