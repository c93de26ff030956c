import C64Screen.Proofs.Markup.Clearing
import C64Screen.Proofs.Markup.Outcome

/-!
# The same drawing somewhere else

To begin so many cells further on is to draw the same so many cells further on. Nothing on the way asks where on
the grid it is: a character goes to the next cell, also from the end of one row to the start of the next, and a
line feed goes by the start of the line, wherever that is. Only a token that homes knows of a fixed place. So two
grids of one shape, of which one shows what the other shows some cells further back, stay so. What is dropped at
one end of a grid and not at the other has no counterpart there and is missed by none of the two.
-/

namespace C64Screen

/-! Grids. -/

namespace Buffer

variable {a b : Buffer} {d : Int}

/-- The second of two grids holds `d` cells further on what the first one holds, wherever both have a cell. -/
structure Displaced (d : Int) (a b : Buffer) : Prop where
  width : a.width = b.width
  height : a.height = b.height
  cells : ∀ k, a.Holds k → a.Holds (k + d) → b.cell? (k + d) = a.cell? k

namespace Displaced

theorem lay (h : Displaced d a b) {p q : Overlay} (same : ∀ k, q (k + d) = p k) :
    Displaced d (a.lay p) (b.lay q) where
  width := h.width
  height := h.height
  cells := by
    intro k inside further
    rw [cell?_lay, cell?_lay, same, h.cells k inside further]

theorem place (h : Displaced d a b) (c : Char) (o : Int) (colour : Value) :
    Displaced d (a.place c o colour) (b.place c (o + d) colour) := by
  rw [place_eq_lay, place_eq_lay]
  apply h.lay
  intro k
  simp only [Overlay.wherever, Int.add_left_inj]

theorem placeFrom (h : Displaced d a b) (colour : Value) (text : List Char) (o start : Int) :
    Displaced d (placeFrom colour text o start a) (placeFrom colour text (o + d) (start + d) b) := by
  induction text generalizing a b o start with
  | nil => exact h
  | cons c rest ih =>
    by_cases feed : c = lineFeed
    · have next : start + d + b.width = start + a.width + d := by
        rw [h.width]
        omega
      rw [feed, placeFrom_lineFeed, placeFrom_lineFeed, next]
      exact ih h _ _
    · have next : o + d + 1 = o + 1 + d := by omega
      rw [placeFrom_cons feed, placeFrom_cons feed, next]
      exact ih (h.place c o colour) _ _

theorem placeText (h : Displaced d a b) (text : List Char) (o : Int) (colour : Value) :
    Displaced d (a.placeText text o colour) (b.placeText text (o + d) colour) :=
  h.placeFrom colour text o o

end Displaced

theorem displaced_filled (d : Int) (cell : Cell) (width height : Size) :
    Displaced d (filled cell width height) (filled cell width height) where
  width := rfl
  height := rfl
  cells := by
    intro k inside further
    rw [cell?_filled, cell?_filled, if_pos inside, if_pos further]

end Buffer

/-! Markup. -/

namespace Markup

open Buffer

def Place.displaced (d : Int) (p : Place) : Place := ⟨p.offset + d, p.lineStart + d⟩

theorem Place.displaced_move (d n : Int) (p : Place) : (p.displaced d).move n = (p.move n).displaced d := by
  simp only [displaced, move, mk.injEq, and_true]
  omega

theorem Place.displaced_lineFeed (d : Int) (width : Nat) (p : Place) :
    (p.displaced d).lineFeed width = (p.lineFeed width).displaced d := by
  simp only [displaced, lineFeed, mk.injEq]
  omega

/-- Drafts of which the second does all that the first does `d` cells further on. -/
structure Draft.Displaced (d : Int) (one other : Draft) : Prop where
  grid : one.buffer.Displaced d other.buffer
  place : other.pen.place = one.pen.place.displaced d
  colour : other.pen.colour = one.pen.colour
  reverse : other.pen.reverse = one.pen.reverse

namespace Draft

variable {d : Int} {one other : Draft}

theorem displaced_start {a b : Buffer} (grid : a.Displaced d b) (offset : Int) (colour : Value) :
    Displaced d (.start a offset colour) (.start b (offset + d) colour) :=
  ⟨grid, rfl, rfl, rfl⟩

theorem Displaced.apply_write (h : Displaced d one other) (c : Char) :
    Displaced d (one.apply (.write c)) (other.apply (.write c)) := by
  have shown : other.pen.cursor.shown c = one.pen.cursor.shown c :=
    congrArg (fun on : Bool => if on then Charset.reverse c else c) h.reverse
  refine ⟨?_, ?_, h.colour, h.reverse⟩
  · rw [buffer_apply_write, buffer_apply_write, shown, h.place, h.colour]
    exact h.grid.place ..
  · simp only [apply, Effect.lead, h.place, Place.displaced_move]

/-- Every effect but the two that home. -/
theorem Displaced.apply (h : Displaced d one other) {e : Effect} (clear : e ≠ .clear) (home : e ≠ .home) :
    Displaced d (one.apply e) (other.apply e) := by
  cases e with
  | write c => exact h.apply_write c
  | lineFeed =>
    refine ⟨h.grid, ?_, h.colour, h.reverse⟩
    simp only [Draft.apply, Effect.lead, h.place, h.grid.width, Place.displaced_lineFeed]
  | clear => exact absurd rfl clear
  | home => exact absurd rfl home
  | move rows cells =>
    refine ⟨h.grid, ?_, h.colour, h.reverse⟩
    simp only [Draft.apply, Effect.lead, h.place, h.grid.width, Place.displaced_move]
  | ink code => exact ⟨h.grid, h.place, rfl, h.reverse⟩
  | reverse on => exact ⟨h.grid, h.place, h.colour, rfl⟩

theorem Displaced.applyEach (h : Displaced d one other) {effects : List Effect} (clear : .clear ∉ effects)
    (home : .home ∉ effects) : Displaced d (one.applyEach effects) (other.applyEach effects) := by
  apply applyEach_of_mem (Displaced d) _ h
  intro e listed one other displaced
  exact displaced.apply (ne_of_mem_of_not_mem listed clear) (ne_of_mem_of_not_mem listed home)

end Draft

theorem displaced_interpret {a b : Buffer} {d : Int} (grid : a.Displaced d b) {text : List Char}
    (markup : IsMarkup text) (clear : .clear ∉ (Script.ofText text).effects)
    (home : .home ∉ (Script.ofText text).effects) (offset : Int) (colour : Value) :
    (interpret a text (some offset) colour).1.Displaced d (interpret b text (some (offset + d)) colour).1 := by
  have drawn := (Draft.displaced_start grid offset colour).applyEach clear home
  rw [interpret_eq, interpret_eq, fault?_eq_none_iff.mpr markup, Script.result_eq_applyEach,
    Script.result_eq_applyEach]
  exact drawn.grid

/-- A text that is placed `d` cells further on leaves what it leaves `d` cells further on, and so does markup that
is run to its end without homing. -/
theorem drawing_displaced {a b : Buffer} {d : Int} (grid : a.Displaced d b) (offset : Int) (colour : Value) :
    (∀ text : List Char,
      (a.placeText text offset colour).Displaced d (b.placeText text (offset + d) colour)) ∧
    ∀ text : List Char,
      let script := Script.ofText text
      let carried := (course script.ending a.width (.start (some offset) colour) 0 script.items).effects
      (run ⟨a, .start (some offset) colour⟩ 0 text).halt = none →
      (∀ cursor, (cursor, Effect.clear) ∉ carried ∧ (cursor, Effect.home) ∉ carried) →
        (run ⟨b, .start (some (offset + d)) colour⟩ 0 text).halt = none ∧
          (interpret a text (some offset) colour).1.Displaced d
            (interpret b text (some (offset + d)) colour).1 := by
  constructor
  · intro text
    exact grid.placeText text offset colour
  · intro text script carried done stays
    have markup : IsMarkup text := halt_eq_none_iff.mp done
    have clear : .clear ∉ script.effects := fun listed =>
      let ⟨cursor, met⟩ := exists_carried_iff.mpr listed
      (stays cursor).1 met
    have home : .home ∉ script.effects := fun listed =>
      let ⟨cursor, met⟩ := exists_carried_iff.mpr listed
      (stays cursor).2 met
    exact ⟨halt_eq_none_iff.mpr markup, displaced_interpret grid markup clear home offset colour⟩

/-- One run drops what it writes in front of the grid, the other what it writes behind it, and both come back. -/
theorem drawing_displaced_outside :
    let a := (Buffer.new ⟨3, by decide⟩ ⟨2, by decide⟩).place 'x' 0 (.int 2)
    let b := (Buffer.new ⟨3, by decide⟩ ⟨2, by decide⟩).place 'x' 2 (.int 2)
    let items : List Item :=
      [.plain 'A' (by decide), .numeric .back ':' ⟨'0', '5', 5, by decide⟩ '}', .plain 'B' (by decide),
       .plain '\n' (by decide), .plain 'C' (by decide), .numeric .up ':' ⟨'0', '1', 1, by decide⟩ '}',
       .plain 'D' (by decide)]
    let script := Script.ofText (spell items)
    let carried := (course script.ending a.width (.start (some 2) (.int 7)) 0 script.items).effects
    a.Displaced 2 b ∧ (run ⟨a, .start (some 2) (.int 7)⟩ 0 (spell items)).halt = none ∧
      (∀ cursor, (cursor, Effect.clear) ∉ carried ∧ (cursor, Effect.home) ∉ carried) ∧
      (run ⟨b, .start (some 4) (.int 7)⟩ 0 (spell items)).halt = none ∧
      (interpret a (spell items) (some 2) (.int 7)).1.Displaced 2 (interpret b (spell items) (some 4) (.int 7)).1 := by
  intro a b items script carried
  have grid : a.Displaced 2 b := (displaced_filled 2 Cell.blank ⟨3, by decide⟩ ⟨2, by decide⟩).place 'x' 0 (.int 2)
  have done : (run ⟨a, .start (some 2) (.int 7)⟩ 0 (spell items)).halt = none :=
    halt_eq_none_iff.mpr (isMarkup_spell items)
  have absent {e : Effect} (never : e ∉ items.map Item.effect) (cursor : Cursor) : (cursor, e) ∉ carried := by
    intro listed
    apply never
    rw [← effects_spell]
    exact exists_carried_iff.mp ⟨cursor, listed⟩
  have stays : ∀ cursor, (cursor, Effect.clear) ∉ carried ∧ (cursor, Effect.home) ∉ carried := fun cursor =>
    ⟨absent (by decide) cursor, absent (by decide) cursor⟩
  obtain ⟨-, markup⟩ := drawing_displaced grid 2 (.int 7)
  obtain ⟨ends, drawn⟩ := markup (spell items) done stays
  exact ⟨grid, done, stays, ends, drawn⟩

end Markup

end C64Screen
