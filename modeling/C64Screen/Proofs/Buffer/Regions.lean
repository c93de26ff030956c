import C64Screen.Proofs.Buffer.Grids
import C64Screen.Proofs.Buffer.Strokes

/-!
# Filling regions

A region goes by its columns and rows, with any integers for bounds. A column beyond an edge is a cell of a neighbouring
row, so one cell may be reached from several rows. It gets the same each time, and nothing counts but whether it is
reached. Within the columns of the grid every cell has one column and one row, and there a region is the rectangle that
it looks like.
-/

namespace C64Screen

namespace Buffer

/-- All cells at certain offsets have been changed in one way, and the others are as they were. -/
structure Changed (f : Cell → Cell) (P : Int → Prop) (before after : Buffer) : Prop where
  width : after.width = before.width
  height : after.height = before.height
  inside : ∀ o, P o → after.cell? o = (before.cell? o).map f
  outside : ∀ o, ¬ P o → after.cell? o = before.cell? o

namespace Changed

variable {f : Cell → Cell} {P Q : Int → Prop} {a b c : Buffer}

/-- What a buffer is changed into hangs on the offsets of its own cells alone. -/
theorem unique (first : Changed f P a b) (second : Changed f Q a c) (same : ∀ o, a.Holds o → (P o ↔ Q o)) :
    b = c := by
  refine ext_cell? (first.width.trans second.width.symm) (first.height.trans second.height.symm) fun o => ?_
  by_cases held : a.Holds o
  · by_cases reached : P o
    · rw [first.inside o reached, second.inside o ((same o held).mp reached)]
    · rw [first.outside o reached, second.outside o (mt (same o held).mpr reached)]
  · have missing : a.cell? o = none := cell?_eq_none_iff.mpr held
    have left : b.cell? o = none := by
      by_cases reached : P o
      · simp [first.inside o reached, missing]
      · simp [first.outside o reached, missing]
    have right : c.cell? o = none := by
      by_cases reached : Q o
      · simp [second.inside o reached, missing]
      · simp [second.outside o reached, missing]
    rw [left, right]

theorem refl (P : Int → Prop) (a : Buffer) : Changed id P a a where
  width := rfl
  height := rfl
  inside _ _ := by rw [Option.map_id, id_eq]
  outside _ _ := rfl

theorem eq_self (h : Changed id P a b) : b = a := h.unique (refl P a) fun _ _ => Iff.rfl

end Changed

/-! Columns and rows. -/

/-- A column and a row of the grid. -/
structure HasCell (b : Buffer) (x y : Int) : Prop where
  left : 0 ≤ x
  right : x < b.width
  top : 0 ≤ y
  bottom : y < b.height

variable {b : Buffer} {x y : Int}

theorem offset_ediv (left : 0 ≤ x) (right : x < b.width) : b.offset x y / b.width = y := by
  have wide : (b.width : Int) ≠ 0 := by omega
  rw [offset, Int.add_mul_ediv_right x y wide, Int.ediv_eq_zero_of_lt left right, Int.zero_add]

theorem offset_emod (left : 0 ≤ x) (right : x < b.width) : b.offset x y % b.width = x := by
  rw [offset, Int.add_mul_emod_self_right, Int.emod_eq_of_lt left right]

theorem HasCell.holds (cell : b.HasCell x y) : b.Holds (b.offset x y) := by
  obtain ⟨left, right, top, bottom⟩ := cell
  have lower : 0 ≤ y * b.width := Int.mul_nonneg top (by omega)
  have upper : (y + 1) * b.width ≤ b.height * b.width := Int.mul_le_mul_of_nonneg_right bottom (by omega)
  rw [Holds, offset, size, Int.natCast_mul, Int.mul_comm (b.width : Int)]
  rw [Int.add_mul, Int.one_mul] at upper
  omega

theorem exists_hasCell {o : Int} (held : b.Holds o) : ∃ x y, b.HasCell x y ∧ b.offset x y = o := by
  have wide : (0 : Int) < b.width := Int.natCast_pos.mpr b.width_pos
  have bound : o < b.height * b.width := by
    rw [Int.mul_comm, ← Int.natCast_mul]
    exact held.2
  refine ⟨o % b.width, o / b.width, ?_, ?_⟩
  · exact {
      left := Int.emod_nonneg o wide.ne'
      right := Int.emod_lt_of_pos o wide
      top := Int.ediv_nonneg held.1 wide.le
      bottom := Int.ediv_lt_of_lt_mul wide bound }
  · rw [offset, Int.mul_comm]
    exact Int.emod_add_mul_ediv o b.width

end Buffer

open Buffer

namespace Region

/-- The rectangle itself, apart from any grid. -/
def Spans (r : Region) (x y : Int) : Prop := r.left ≤ x ∧ x ≤ r.right ∧ r.top ≤ y ∧ y ≤ r.bottom

/-- All columns and rows of a grid. -/
def whole (b : Buffer) : Region := ⟨0, 0, b.width - 1, b.height - 1⟩

variable {b : Buffer}

theorem Spans.covers {r : Region} {x y : Int} (spanned : r.Spans x y) : r.Covers b.width (b.offset x y) := by
  obtain ⟨left, right, top, bottom⟩ := spanned
  exact ⟨x, y, left, right, top, bottom, rfl⟩

/-- Between the edges of the grid no column is mistaken for one of another row. -/
theorem covers_offset_iff {r : Region} (left : 0 ≤ r.left) (right : r.right < b.width) {x y : Int}
    (cell : b.HasCell x y) : r.Covers b.width (b.offset x y) ↔ r.Spans x y := by
  constructor
  · rintro ⟨x', y', left', right', top, bottom, same⟩
    have same : b.offset x' y' = b.offset x y := same
    have from_left : 0 ≤ x' := left.trans left'
    have to_right : x' < b.width := right'.trans_lt right
    have column : x' = x := by
      rw [← offset_emod (y := y') from_left to_right, same, offset_emod cell.left cell.right]
    have row : y' = y := by
      rw [← offset_ediv (y := y') from_left to_right, same, offset_ediv cell.left cell.right]
    subst column row
    exact ⟨left', right', top, bottom⟩
  · exact Spans.covers

theorem covers_whole {o : Int} (held : b.Holds o) : (whole b).Covers b.width o := by
  obtain ⟨x, y, cell, rfl⟩ := exists_hasCell held
  apply Spans.covers
  exact ⟨cell.left, Int.le_sub_one_of_lt cell.right, cell.top, Int.le_sub_one_of_lt cell.bottom⟩

end Region

namespace Stroke

/-- One stroke changes the cells that it reaches, each as its paint has it. -/
theorem changed (b : Buffer) (s : Stroke) :
    Changed s.paint.stamp.press (s.reach.Addresses b.width) b (s.write.run b).1 := by
  rw [run_eq_lay]
  refine ⟨rfl, rfl, fun o reached => ?_, fun o missed => ?_⟩
  · rw [cell?_lay_wherever, if_pos (decide_eq_true reached)]
  · rw [cell?_lay_wherever, if_neg (by simpa using missed)]

theorem run_whole (b : Buffer) (paint : Paint) :
    ((write ⟨paint, .region (.whole b)⟩).run b).1 = ((write ⟨paint, .everywhere⟩).run b).1 := by
  apply (changed b ⟨paint, .region (.whole b)⟩).unique (changed b ⟨paint, .everywhere⟩)
  intro o held
  exact iff_of_true (Region.covers_whole held) trivial

variable {paint : Paint}

theorem changed_fills {f : Cell → Cell} (presses : paint.stamp.press = f) (b : Buffer) (r : Region) :
    Changed f (r.Covers b.width) b ((write ⟨paint, .region r⟩).run b).1 ∧
      Changed f (fun _ => True) b ((write ⟨paint, .everywhere⟩).run b).1 := by
  subst presses
  exact ⟨changed b ⟨paint, .region r⟩, changed b ⟨paint, .everywhere⟩⟩

theorem fills_of_blank (blank : paint.stamp = .blank) (b : Buffer) (r : Region) :
    ((write ⟨paint, .region r⟩).run b).1 = b ∧ ((write ⟨paint, .everywhere⟩).run b).1 = b := by
  have presses : paint.stamp.press = id := by rw [blank, Stamp.press_blank]
  obtain ⟨region, everywhere⟩ := changed_fills presses b r
  exact ⟨region.eq_self, everywhere.eq_self⟩

end Stroke

theorem Paint.press_char {s : String} {c : Char} (single : s.toList = [c]) :
    (Paint.char s).stamp.press = Cell.withChar c := by
  rw [stamp, Text.single?_eq_some_iff.mpr single]
  rfl

theorem Paint.stamp_char_blank {s : String} (other : s.length ≠ 1) : (Paint.char s).stamp = .blank := by
  rw [stamp, Option.eq_none_iff_forall_ne_some.mpr fun c single => other (Text.exists_single?_iff.mp ⟨c, single⟩)]
  rfl

theorem Paint.press_colour (k : Colour) : (Paint.colour k.toValue).stamp.press = Cell.withColour k := by
  rw [stamp, Colour.ofValue?_toValue]
  rfl

theorem Paint.stamp_colour_blank {v : Value} (other : ¬ v.IsColour) : (Paint.colour v).stamp = .blank := by
  rw [stamp, Colour.ofValue?_of_not_isColour other]
  rfl

/-- To fill a region is to go through its rows, and through its columns in each of them, and it changes the cells that
are reached from a column and a row, and no others. Between the edges of the grid these are the cells of the
rectangle, and the region of all columns and rows is the grid. Nothing is filled with what is not one character or no
colour. -/
theorem Buffer.fill_region_exact (b : Buffer) (r : Region) :
    (∀ s : String,
      b.fillCharRegion s r = Put.runAll b (Put.along (.char s) (r.offsets b.width)) ∧
        b.fillCharRegion s ⟨0, 0, b.width - 1, b.height - 1⟩ = b.fillChar s ∧
        (∀ c, s.toList = [c] →
          Changed (Cell.withChar c) (r.Covers b.width) b (b.fillCharRegion s r) ∧
            Changed (Cell.withChar c) (fun _ => True) b (b.fillChar s)) ∧
        (s.length ≠ 1 → b.fillCharRegion s r = b ∧ b.fillChar s = b)) ∧
    (∀ v : Value,
      b.fillColourRegion v r = Put.runAll b (Put.along (.colour v) (r.offsets b.width)) ∧
        b.fillColourRegion v ⟨0, 0, b.width - 1, b.height - 1⟩ = b.fillColour v ∧
        (∀ k : Colour, v = k.toValue →
          Changed (Cell.withColour k) (r.Covers b.width) b (b.fillColourRegion v r) ∧
            Changed (Cell.withColour k) (fun _ => True) b (b.fillColour v)) ∧
        (¬ v.IsColour → b.fillColourRegion v r = b ∧ b.fillColour v = b)) ∧
    (∀ o, b.Holds o ↔ ∃ x y, b.HasCell x y ∧ b.offset x y = o) ∧
    (0 ≤ r.left → r.right < b.width →
      ∀ x y, b.HasCell x y → (r.Covers b.width (b.offset x y) ↔ r.Spans x y)) := by
  refine ⟨fun s => ?_, fun v => ?_, fun o => ?_, ?_⟩
  · refine ⟨Put.fillRegion_eq_runAll b (.char s) r, Stroke.run_whole b (.char s), ?_, ?_⟩
    · intro c single
      exact Stroke.changed_fills (Paint.press_char single) b r
    · intro other
      exact Stroke.fills_of_blank (Paint.stamp_char_blank other) b r
  · refine ⟨Put.fillRegion_eq_runAll b (.colour v) r, Stroke.run_whole b (.colour v), ?_, ?_⟩
    · rintro k rfl
      exact Stroke.changed_fills (Paint.press_colour k) b r
    · intro other
      exact Stroke.fills_of_blank (Paint.stamp_colour_blank other) b r
  · constructor
    · exact exists_hasCell
    · rintro ⟨x, y, cell, rfl⟩
      exact cell.holds
  · intro left right x y cell
    exact Region.covers_offset_iff left right cell

/-- A region that begins in the last column goes on in the second row, and one between the edges is a rectangle. -/
theorem Buffer.fill_region_exact_beyond :
    let b := Buffer.new ⟨4, by decide⟩ ⟨3, by decide⟩
    let beyond : Region := ⟨3, 0, 5, 0⟩
    let within : Region := ⟨1, 0, 2, 1⟩
    "*".toList = ['*'] ∧ (b.fillCharRegion "*" beyond).cell? 5 = some ⟨'*', none⟩ ∧
      (b.fillCharRegion "*" beyond).cell? 6 = some ⟨' ', none⟩ ∧ b.fillCharRegion "**" beyond = b ∧
      b.fillCharRegion "*" ⟨0, 0, 3, 2⟩ = b.fillChar "*" ∧
      (b.fillColourRegion (.int 7) within).cell? 6 = some ⟨' ', some .yellow⟩ ∧
      b.fillColourRegion (.int 16) within = b := by
  intro b beyond within
  obtain ⟨chars, -, -, -⟩ := fill_region_exact b beyond
  obtain ⟨-, colours, -, rectangle⟩ := fill_region_exact b within
  obtain ⟨-, whole, single, -⟩ := chars "*"
  obtain ⟨-, -, -, double⟩ := chars "**"
  obtain ⟨-, -, coloured, -⟩ := colours (.int 7)
  obtain ⟨-, -, -, colourless⟩ := colours (.int 16)
  have one : "*".toList = ['*'] := by decide
  have reached : beyond.Covers b.width 5 := ⟨5, 0, by decide, by decide, by decide, by decide, rfl⟩
  have missed : ¬ beyond.Covers b.width 6 := by
    rintro ⟨x, y, left, right, top, bottom, same⟩
    obtain rfl : y = 0 := Int.le_antisymm bottom top
    simp only [beyond] at right
    omega
  have cell : b.HasCell 2 1 := ⟨by decide, by decide, by decide, by decide⟩
  have inside : within.Covers b.width 6 :=
    (rectangle (by decide) (by decide) 2 1 cell).mpr ⟨by decide, by decide, by decide, by decide⟩
  obtain ⟨starred, -⟩ := single '*' one
  obtain ⟨yellow, -⟩ := coloured .yellow rfl
  refine ⟨one, ?_, ?_, (double (by decide)).1, whole, ?_, (colourless (by decide)).1⟩
  · rw [starred.inside 5 reached]
    rfl
  · rw [starred.outside 6 missed]
    rfl
  · rw [yellow.inside 6 inside]
    rfl

end C64Screen
