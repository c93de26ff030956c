import C64Screen.Proofs.Buffer.Rows
import C64Screen.Proofs.Buffer.Strokes
import C64Screen.Proofs.Screen.Coloured
import C64Screen.Unchecked.Call

/-!
# What a screen shows

A screen is shown cell by cell or row by row. What a cell shows is settled by the cell and the two flags, and every
view agrees with that: the rows of colours, the rows of characters and the colour at an offset. The flags themselves
leave the grid alone, so when they are back to what they were, the screen is what it was.
-/

namespace C64Screen

namespace Buffer

variable {b : Buffer} {x y : Nat} {cell : Cell}

theorem exists_cell?_offset (left : x < b.width) (below : y < b.height) :
    ∃ cell, b.cell? (b.offset x y) = some cell := by
  have inside : x < (b.row y).length := by rwa [length_row below]
  exact ⟨_, (getElem?_row left below).symm.trans (List.getElem?_eq_getElem inside)⟩

/-- The first rows hold the first cells. -/
theorem flatten_map_row (b : Buffer) (count : Nat) :
    ((List.range count).map b.row).flatten = b.cells.toList.take (count * b.width) := by
  induction count with
  | zero => simp
  | succ count ih =>
    rw [List.range_succ, List.map_append, List.flatten_append, ih, Nat.succ_mul, List.take_add, List.map_singleton,
      List.flatten_singleton, row, Array.toList_extract, List.extract_eq_take_drop, Nat.succ_mul,
      Nat.add_sub_cancel_left]

theorem flatten_rows (b : Buffer) : b.rows.flatten = b.cells.toList := by
  rw [rows, flatten_map_row, Nat.mul_comm]
  exact List.take_of_length_le (Nat.le_of_eq b.size_cells)

theorem flatten_charRows (b : Buffer) : (b.charRows.map String.toList).flatten = b.cells.toList.map Cell.char := by
  rw [← flatten_rows, List.map_flatten, charRows, List.map_map]
  exact congrArg List.flatten (List.map_congr_left fun _ _ => String.toList_ofList)

theorem flatten_colourRows (b : Buffer) : b.colourRows.flatten = b.cells.toList.map Cell.colour := by
  rw [← flatten_rows, List.map_flatten, colourRows]

theorem getElem?_rows (below : y < b.height) : b.rows[y]? = some (b.row y) := by
  rw [rows, List.getElem?_map, List.getElem?_range below]
  rfl

theorem getElem?_colourRows (left : x < b.width) (below : y < b.height)
    (found : b.cell? (b.offset x y) = some cell) :
    ∃ r, b.colourRows[y]? = some r ∧ r[x]? = some cell.colour := by
  refine ⟨(b.row y).map Cell.colour, ?_, ?_⟩
  · rw [colourRows, List.getElem?_map, getElem?_rows below]
    rfl
  · rw [List.getElem?_map, getElem?_row left below, found]
    rfl

theorem getElem?_charRows (left : x < b.width) (below : y < b.height)
    (found : b.cell? (b.offset x y) = some cell) :
    ∃ r, b.charRows[y]? = some r ∧ r.toList[x]? = some cell.char := by
  refine ⟨String.ofList ((b.row y).map Cell.char), ?_, ?_⟩
  · rw [charRows, List.getElem?_map, getElem?_rows below]
    rfl
  · rw [String.toList_ofList, List.getElem?_map, getElem?_row left below, found]
    rfl

end Buffer

namespace Screen

variable {s : Screen} {x y : Nat} {cell : Cell}

/-- The colour in which a cell is shown. -/
def colourOf (s : Screen) (cell : Cell) : Option Colour := if s.coloursEnabled then cell.colour else some s.cursor

/-- The character that a cell shows. -/
def charOf (s : Screen) (cell : Cell) : Char := if s.charsEnabled then cell.char else ' '

theorem holds_iff {o : Int} : s.buffer.Holds o ↔ 0 ≤ o ∧ o < s.width * s.height := by
  rw [← Int.natCast_mul]
  rfl

theorem getElem?_effectiveColourRows (left : x < s.width) (below : y < s.height)
    (found : s.buffer.cell? (s.buffer.offset x y) = some cell) :
    ∃ r, s.effectiveColourRows[y]? = some r ∧ r[x]? = some (s.colourOf cell) := by
  rw [effectiveColourRows, colourOf]
  split
  · exact Buffer.getElem?_colourRows left below found
  · exact ⟨_, List.getElem?_replicate_of_lt below, List.getElem?_replicate_of_lt left⟩

theorem getElem?_visibleRows (left : x < s.width) (below : y < s.height)
    (found : s.buffer.cell? (s.buffer.offset x y) = some cell) :
    ∃ r, s.visibleRows[y]? = some r ∧ r.toList[x]? = some (s.charOf cell) := by
  rw [visibleRows, charOf]
  split
  · exact Buffer.getElem?_charRows left below found
  · refine ⟨_, List.getElem?_replicate_of_lt below, ?_⟩
    rw [String.toList_ofList]
    exact List.getElem?_replicate_of_lt left

theorem effectiveColourAt_of_cell? {o : Int} (found : s.buffer.cell? o = some cell) :
    s.effectiveColourAt o = .ok (s.colourOf cell) := by
  rw [effectiveColourAt, Buffer.colourAt_of_cell? found]
  rfl

/-! Changes of the flags. -/

inductive Flip where
  | chars (on : Bool)
  | colours (on : Bool)

def Flip.step : Flip → Step
  | .chars on => .enableChars on
  | .colours on => .enableColours on

theorem Flip.after_step (s : Screen) (flip : Flip) (chars colours : Bool) :
    ∃ chars' colours', flip.step.after ((s.enableChars chars).enableColours colours) =
      (s.enableChars chars').enableColours colours' := by
  cases flip with
  | chars on => exact ⟨on, colours, rfl⟩
  | colours on => exact ⟨chars, on, rfl⟩

/-- Whatever is done to the flags, nothing but the flags is other than before. -/
theorem afterAll_flips (s : Screen) (flips : List Flip) :
    ∃ chars colours, Step.afterAll s (flips.map Flip.step) = (s.enableChars chars).enableColours colours := by
  -- the first change leaves flags of its own for the others to start from
  suffices run : ∀ chars colours, ∃ chars' colours',
      Step.afterAll ((s.enableChars chars).enableColours colours) (flips.map Flip.step) =
        (s.enableChars chars').enableColours colours' from run s.charsEnabled s.coloursEnabled
  induction flips with
  | nil => exact fun chars colours => ⟨chars, colours, rfl⟩
  | cons flip rest ih =>
    intro chars colours
    obtain ⟨chars', colours', stepped⟩ := flip.after_step s chars colours
    obtain ⟨last, lastColours, run⟩ := ih chars' colours'
    exact ⟨last, lastColours, (congrArg (Step.afterAll · _) stepped).trans run⟩

end Screen

namespace Unchecked

open Buffer Screen

theorem effectiveColourAt_of_cell? {s : Screen} {o : Int} {cell : Cell} (found : s.buffer.cell? o = some cell) :
    effectiveColourAt s (.int o) = .ok (s.colourOf cell) := by
  rw [effectiveColourAt, cellAt_of_cell? found]
  rfl

theorem effectiveColourAt_of_outside {s : Screen} {o : Int} (outside : ¬ s.buffer.Holds o) :
    effectiveColourAt s (.int o) =
      .error (if Numeral.isShort o then .screen (.outside (.int o) s.buffer.size) else .longOffset) := by
  rw [effectiveColourAt, cellAt_of_outside outside]
  rfl

/-- The views of a screen agree on every cell and are as large as the grid, which the rows of the buffer make up
in order. There is a colour at the offsets of the grid and at no others, whatever the flags. Changes of the flags that
end where they began leave the screen as it was. -/
theorem views_exact (s : Screen) :
    (∀ x y : Nat, x < s.width → y < s.height →
      ∃ cell, cellAtXY s.buffer (.int x) (.int y) = .ok cell ∧
        effectiveColourAt s (.int (x + y * s.width)) = .ok (s.colourOf cell) ∧
        s.effectiveColourAt (x + y * s.width) = .ok (s.colourOf cell) ∧
        (∃ r, s.effectiveColourRows[y]? = some r ∧ r[x]? = some (s.colourOf cell)) ∧
        ∃ r, s.visibleRows[y]? = some r ∧ r.toList[x]? = some (s.charOf cell)) ∧
    (s.effectiveColourRows.length = s.height ∧ ∀ r ∈ s.effectiveColourRows, r.length = s.width) ∧
    (s.visibleRows.length = s.height ∧ ∀ r ∈ s.visibleRows, r.length = s.width) ∧
    (∀ o : Int, (∃ c, effectiveColourAt s (.int o) = .ok c) ↔ 0 ≤ o ∧ o < s.width * s.height) ∧
    (∀ o : Int, ¬ (0 ≤ o ∧ o < s.width * s.height) →
      effectiveColourAt s (.int o) =
        .error (if Numeral.isShort o then .screen (.outside (.int o) (s.width * s.height)) else .longOffset)) ∧
    ((s.buffer.charRows.map String.toList).flatten = s.buffer.cells.toList.map Cell.char ∧
      s.buffer.colourRows.flatten = s.buffer.cells.toList.map Cell.colour) ∧
    ∀ flips : List Flip,
      let t := Step.afterAll s (flips.map Flip.step)
      t.buffer = s.buffer ∧ (t.charsEnabled = s.charsEnabled → t.coloursEnabled = s.coloursEnabled → t = s) := by
  refine ⟨?_, ?_, ?_, ?_, ?_, ?_, ?_⟩
  · intro x y left below
    obtain ⟨cell, found⟩ := exists_cell?_offset left below
    exact ⟨cell, (cellAtXY_int ..).trans (cellAt_of_cell? found), effectiveColourAt_of_cell? found,
      Screen.effectiveColourAt_of_cell? found, getElem?_effectiveColourRows left below found,
      getElem?_visibleRows left below found⟩
  · exact ⟨s.length_effectiveColourRows, fun r listed => (mem_effectiveColourRows listed).1⟩
  · exact ⟨s.length_visibleRows, fun r listed => length_of_mem_visibleRows listed⟩
  · intro o
    rw [← holds_iff]
    constructor
    · rintro ⟨c, read⟩
      by_contra outside
      rw [effectiveColourAt_of_outside outside] at read
      cases read
    · intro inside
      obtain ⟨cell, found⟩ := exists_cell? inside
      exact ⟨_, effectiveColourAt_of_cell? found⟩
  · intro o outside
    exact effectiveColourAt_of_outside (mt holds_iff.mp outside)
  · exact ⟨s.buffer.flatten_charRows, s.buffer.flatten_colourRows⟩
  · intro flips t
    obtain ⟨chars, colours, flipped⟩ := s.afterAll_flips flips
    have same : t = (s.enableChars chars).enableColours colours := flipped
    rw [same]
    refine ⟨rfl, ?_⟩
    rintro rfl rfl
    rfl

/-- Outside the grid, with a digit too many for the message that would say so. -/
theorem effectiveColourAt_longOffset :
    let o : Int := 10 ^ Numeral.mostDigits
    ∃ s events, ofOptions { width := .int 10, height := .int 1 } = .ok (s, events) ∧
      ¬ (0 ≤ o ∧ o < s.width * s.height) ∧ effectiveColourAt s (.int o) = .error .longOffset ∧
        effectiveColourAt s (.int o) ≠ .error (.screen (.outside (.int o) (s.width * s.height))) := by
  intro o
  let s : Screen := bare { width := .int 10, height := .int 1 } defaultFontSize ⟨10, by decide⟩ ⟨1, by decide⟩
  have cells : (s.width : Int) * s.height = 10 := rfl
  have outside : ¬ (0 ≤ o ∧ o < s.width * s.height) := by
    have large : 100 ≤ o := Numeral.hundred_le_pow
    rw [cells]
    omega
  have failed : effectiveColourAt s (.int o) = .error .longOffset := by
    rw [effectiveColourAt_of_outside (mt holds_iff.mp outside), Numeral.not_isShort_pow]
    rfl
  refine ⟨s, _, rfl, outside, failed, ?_⟩
  rw [failed]
  rintro ⟨⟩

end Unchecked

end C64Screen
