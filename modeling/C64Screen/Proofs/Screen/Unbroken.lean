import C64Screen.Proofs.Charset.Reversal
import C64Screen.Proofs.Markup.PlainText
import C64Screen.Proofs.Screen.Coloured
import C64Screen.Proofs.Settings.Acceptance

/-!
# Unbroken rows

A row is printed on a line of its own, so a line feed in one of its cells would tear it apart. Texts, markup and
diagnostics never put one there. A line feed that stands in a text moves the cursor, a diagnostic echoes a text
the same way, and reverse video only ever turns one glyph into another, none of which is a line feed. What is
followed through is the single put: a write is its puts, and a buffer without line feeds stays so under each.
-/

namespace C64Screen

/-- No cell holds a line feed. -/
def Buffer.Unbroken (b : Buffer) : Prop :=
  ∀ (o : Int) (cell : Cell), b.cell? o = some cell → cell.char ≠ lineFeed

/-- Leaves no line feed in a cell. -/
def Put.Unbroken (p : Put) : Prop := p.paint.stamp.char ≠ some lineFeed

namespace Buffer

theorem unbroken_filled {cell : Cell} (other : cell.char ≠ lineFeed) (width height : Size) :
    (filled cell width height).Unbroken := by
  intro o found there
  rw [cell?_filled] at there
  split at there
  · cases there
    exact other
  · cases there

theorem Unbroken.run {b : Buffer} (unbroken : b.Unbroken) {p : Put} (kept : p.Unbroken) :
    (p.run b).Unbroken := by
  intro o cell there
  rw [Put.cell?_run] at there
  split at there
  · obtain ⟨before, found, rfl⟩ := Option.map_eq_some_iff.mp there
    rw [Stamp.press]
    cases stamped : p.paint.stamp.char with
    | none => exact unbroken o before found
    | some c =>
      rintro rfl
      exact kept stamped
  · exact unbroken o cell there

theorem Unbroken.runAll {b : Buffer} (unbroken : b.Unbroken) {puts : List Put}
    (kept : ∀ p ∈ puts, p.Unbroken) : (Put.runAll b puts).Unbroken := by
  induction puts generalizing b with
  | nil => exact unbroken
  | cons p rest ih =>
    rw [List.forall_mem_cons] at kept
    exact ih (unbroken.run kept.1) kept.2

end Buffer

namespace Put

theorem unbroken_glyph (colour : Value) {c : Char} (other : c ≠ lineFeed) (o : Int) :
    ∀ p ∈ glyph colour c o, p.Unbroken := by
  have single : Text.single? (String.singleton c) = some c :=
    Text.single?_eq_some_iff.mpr (String.toList_singleton c)
  simp only [glyph, List.forall_mem_cons, Unbroken, Paint.stamp, single]
  refine ⟨?_, ?_, List.forall_mem_nil _⟩
  · intro same
    exact other (Option.some.inj same)
  · rintro ⟨⟩

theorem unbroken_ofText (width : Nat) (colour : Value) (text : List Char) (o start : Int) :
    ∀ p ∈ ofText width colour text o start, p.Unbroken := by
  induction text generalizing o start with
  | nil => exact List.forall_mem_nil _
  | cons c rest ih =>
    rw [ofText]
    split
    · exact ih _ _
    · next other =>
      rw [List.forall_mem_append]
      exact ⟨unbroken_glyph colour other o, ih _ _⟩

theorem unbroken_along_space (offsets : List Int) : ∀ p ∈ along (.char " ") offsets, p.Unbroken := by
  intro p listed
  obtain ⟨o, -, rfl⟩ := List.mem_map.mp listed
  change Text.single? " " ≠ some lineFeed
  decide

end Put

namespace Markup

theorem Item.effect_ne_write_lineFeed (i : Item) : i.effect ≠ .write C64Screen.lineFeed := by
  cases i with
  | plain c _ =>
    rw [effect]
    split
    · rintro ⟨⟩
    · next other =>
      rintro ⟨⟩
      exact other rfl
  | bare name closing => cases name <;> rintro ⟨⟩
  | numeric name separator field closing => cases name <;> rintro ⟨⟩

/-- A token that is cut off has the effect that it would have as an item. -/
theorem Script.Ends.effect_ne_write_lineFeed {w : List Char} {e : Effect} {ahead : Nat}
    (ends : Ends w (.unclosed e ahead)) : e ≠ .write C64Screen.lineFeed := by
  cases ends with
  | token read =>
    cases fragment_of_token read with
    | bare name => exact (Item.bare name ' ').effect_ne_write_lineFeed
    | numeric name separator field => exact (Item.numeric name separator field ' ').effect_ne_write_lineFeed

/-- What is carried out comes from an item, or from the token with which the text ends. -/
theorem mem_course {ending : Ending} {width : Nat} {cursor at_e : Cursor} {index : Nat} {items : List Item}
    {e : Effect} (carried : (at_e, e) ∈ (course ending width cursor index items).effects) :
    (∃ i ∈ items, e = i.effect) ∨ ∃ ahead, ending = .unclosed e ahead := by
  induction items generalizing cursor index with
  | nil =>
    right
    rw [course] at carried
    cases ending with
    | complete => cases carried
    | broken fault ahead => cases carried
    | unclosed effect ahead =>
      rw [Ending.course] at carried
      split at carried
      · obtain ⟨-, rfl⟩ := Prod.mk.inj (List.mem_singleton.mp carried)
        exact ⟨ahead, rfl⟩
      · cases carried
  | cons i rest ih =>
    rw [course] at carried
    split at carried
    · rcases List.mem_cons.mp carried with here | later
      · obtain ⟨-, rfl⟩ := Prod.mk.inj here
        exact .inl ⟨i, List.mem_cons_self, rfl⟩
      · rcases ih later with ⟨j, listed, rfl⟩ | last
        · exact .inl ⟨j, List.mem_cons_of_mem i listed, rfl⟩
        · exact .inr last
    · cases carried

theorem Effect.unbroken_puts {e : Effect} (other : e ≠ .write C64Screen.lineFeed) (width height : Nat)
    (cursor : Cursor) : ∀ p ∈ e.puts width height cursor, p.Unbroken := by
  cases e with
  | write c =>
    have shown : cursor.shown c ≠ C64Screen.lineFeed := by
      have written : c ≠ C64Screen.lineFeed := fun same => other (congrArg Effect.write same)
      rw [Cursor.shown]
      split
      · exact Charset.reverse_ne_lineFeed written
      · exact written
    unfold Effect.puts
    cases cursor.place with
    | none => exact List.forall_mem_nil _
    | some p => exact Put.unbroken_glyph cursor.colour shown p.offset
  | clear => exact Put.unbroken_along_space _
  | _ => exact List.forall_mem_nil _

theorem unbroken_reportPuts (width : Nat) (kind : String) (text : List Char) (position : Int) :
    ∀ p ∈ reportPuts width kind text position, p.Unbroken := by
  rw [reportPuts, List.forall_mem_append]
  exact ⟨Put.unbroken_ofText _ _ _ _ _, Put.unbroken_ofText _ _ _ _ _⟩

theorem unbroken_puts (width height : Nat) (text : List Char) (offset : Option Int) (colour : Value) :
    ∀ p ∈ puts width height text offset colour, p.Unbroken := by
  rw [puts, List.forall_mem_append]
  constructor
  · intro p listed
    obtain ⟨⟨cursor, e⟩, carried, drawn⟩ := List.mem_flatMap.mp listed
    have other : e ≠ .write C64Screen.lineFeed := by
      rcases mem_course carried with ⟨i, -, rfl⟩ | ⟨ahead, cut⟩
      · exact i.effect_ne_write_lineFeed
      · obtain ⟨w, -, ends⟩ := Script.exists_spell_append text
        rw [cut] at ends
        exact ends.effect_ne_write_lineFeed
    exact e.unbroken_puts other width height cursor p drawn
  · cases (course (Script.ofText text).ending width (.start offset colour) 0 (Script.ofText text).items).halt with
    | none => exact List.forall_mem_nil _
    | some halt =>
      cases halt with
      | broken fault position => exact unbroken_reportPuts width _ text _
      | adrift position => exact unbroken_reportPuts width _ text _

end Markup

namespace Write

/-- A text goes onto the buffer, as it stands, as markup or as a diagnostic. -/
def IsText : Write → Prop
  | .placeText .. | .interpret .. | .report .. => True
  | _ => False

theorem unbroken_puts {w : Write} (printing : w.IsText) (width height : Nat) :
    ∀ p ∈ w.puts width height, p.Unbroken := by
  cases w with
  | placeText text o colour => exact Put.unbroken_ofText width colour text o o
  | interpret text o colour => exact Markup.unbroken_puts width height text o colour
  | report kind text position =>
    rw [puts]
    split
    · exact Markup.unbroken_reportPuts width kind text position
    · exact List.forall_mem_nil _
  | _ => exact printing.elim

theorem unbroken_run {w : Write} (printing : w.IsText) {b : Buffer} (unbroken : b.Unbroken) :
    (w.run b).1.Unbroken := by
  rw [run_eq_runAll_puts]
  exact unbroken.runAll (unbroken_puts printing b.width b.height)

theorem unbroken_runAll {writes : List Write} (texts : ∀ w ∈ writes, w.IsText) {b : Buffer}
    (unbroken : b.Unbroken) : (runAll b writes).1.Unbroken := by
  induction writes generalizing b with
  | nil => exact unbroken
  | cons w rest ih =>
    rw [List.forall_mem_cons] at texts
    exact ih texts.2 (unbroken_run texts.1 unbroken)

end Write

/-! Screens. -/

theorem Screen.unbroken_testPicture {b : Buffer} (unbroken : b.Unbroken) (colour : Value) :
    (testPicture b colour).Unbroken := by
  have texts : ∀ w ∈ PlainScreen.picture b.width colour, w.IsText := by
    rw [PlainScreen.picture]
    iterate 5 refine List.forall_mem_cons.mpr ⟨trivial, ?_⟩
    exact List.forall_mem_nil _
  have drawn := Write.unbroken_runAll texts unbroken
  simp only [PlainScreen.runAll_picture] at drawn
  exact drawn

theorem Screen.unbroken_printTestPicture {s : Screen} (unbroken : s.buffer.Unbroken) :
    s.printTestPicture.buffer.Unbroken := by
  simp only [printTestPicture]
  exact unbroken_testPicture unbroken s.cursor.toValue

/-- Rows that are shown have no line feed, whether or not the characters are looked at. -/
theorem Screen.lineFeed_not_mem_visibleRows {s : Screen} (unbroken : s.buffer.Unbroken) {row : String}
    (listed : row ∈ s.visibleRows) : lineFeed ∉ row.toList := by
  rw [visibleRows] at listed
  split at listed
  · obtain ⟨cells, among, rfl⟩ := List.mem_map.mp listed
    obtain ⟨y, below, rfl⟩ := Buffer.mem_rows.mp among
    rw [String.toList_ofList]
    intro broken
    obtain ⟨cell, there, is_lineFeed⟩ := List.mem_map.mp broken
    obtain ⟨o, found⟩ := Buffer.exists_cell?_of_mem_row below there
    exact unbroken o cell found is_lineFeed
  · obtain rfl := List.eq_of_mem_replicate listed
    rw [String.toList_ofList]
    intro broken
    exact absurd (List.eq_of_mem_replicate broken) (by decide)

namespace Settings

theorem unbroken_createScreen {s : Settings} {screen : Screen} {events : List Log.Event}
    (made : s.createScreen = .ok (screen, events)) : screen.buffer.Unbroken := by
  have blank : s.bareScreen.buffer.Unbroken := by
    apply Buffer.unbroken_filled
    exact (by decide : ' ' ≠ lineFeed)
  rw [createScreen_eq] at made
  cases made
  split
  · exact Screen.unbroken_printTestPicture blank
  · exact blank

end Settings

end C64Screen
