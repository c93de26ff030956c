import C64Screen.Buffer

/-!
# Rows

A buffer read row by row gives its cells in the order of their offsets: the rows are as many as the buffer is
high, each is as long as the buffer is wide, and an entry is the cell in that column and row.
-/

namespace C64Screen.Buffer

theorem row_end_le {b : Buffer} {y : Nat} (below : y < b.height) :
    (y + 1) * b.width ≤ b.cells.size := by
  rw [b.size_cells, Nat.mul_comm b.width]
  exact Nat.mul_le_mul_right b.width below

theorem length_row {b : Buffer} {y : Nat} (below : y < b.height) :
    (b.row y).length = b.width := by
  rw [row, Array.length_toList, Array.size_extract, Nat.min_eq_left (row_end_le below), Nat.succ_mul,
    Nat.add_sub_cancel_left]

theorem getElem?_row {b : Buffer} {x y : Nat} (left : x < b.width) (below : y < b.height) :
    (b.row y)[x]? = b.cell? (b.offset x y) := by
  have within : x < min ((y + 1) * b.width) b.cells.size - y * b.width := by
    rw [Nat.min_eq_left (row_end_le below), Nat.succ_mul, Nat.add_sub_cancel_left]
    exact left
  have place : b.offset x y = ((y * b.width + x : Nat) : Int) := by
    rw [offset]
    push_cast
    exact Int.add_comm _ _
  rw [row, Array.getElem?_toList, Array.getElem?_extract, if_pos within, place]
  rfl

/-- Every entry of a row is a cell of the buffer. -/
theorem exists_cell?_of_mem_row {b : Buffer} {y : Nat} (below : y < b.height) {cell : Cell}
    (listed : cell ∈ b.row y) : ∃ o, b.cell? o = some cell := by
  obtain ⟨x, at_x⟩ := List.mem_iff_getElem?.mp listed
  have left : x < b.width := by
    obtain ⟨bound, -⟩ := List.getElem?_eq_some_iff.mp at_x
    rwa [length_row below] at bound
  exact ⟨b.offset x y, (getElem?_row left below).symm.trans at_x⟩

@[simp] theorem length_rows (b : Buffer) : b.rows.length = b.height := by
  rw [rows, List.length_map, List.length_range]

theorem mem_rows {b : Buffer} {r : List Cell} : r ∈ b.rows ↔ ∃ y < b.height, r = b.row y := by
  simp only [rows, List.mem_map, List.mem_range, eq_comm]

theorem length_charRows (b : Buffer) : b.charRows.length = b.height := by
  rw [charRows, List.length_map, length_rows]

theorem length_of_mem_charRows {b : Buffer} {r : String} (listed : r ∈ b.charRows) :
    r.length = b.width := by
  obtain ⟨cells, among, rfl⟩ := List.mem_map.mp listed
  obtain ⟨y, below, rfl⟩ := mem_rows.mp among
  rw [String.length_ofList, List.length_map, length_row below]

theorem length_colourRows (b : Buffer) : b.colourRows.length = b.height := by
  rw [colourRows, List.length_map, length_rows]

theorem mem_colourRows {b : Buffer} {r : List (Option Colour)} :
    r ∈ b.colourRows ↔ ∃ y < b.height, r = (b.row y).map Cell.colour := by
  rw [colourRows, List.mem_map]
  constructor
  · rintro ⟨cells, among, rfl⟩
    obtain ⟨y, below, rfl⟩ := mem_rows.mp among
    exact ⟨y, below, rfl⟩
  · rintro ⟨y, below, rfl⟩
    exact ⟨b.row y, mem_rows.mpr ⟨y, below, rfl⟩, rfl⟩

end C64Screen.Buffer
