import C64Screen.Colour
import C64Screen.Text.Single

/-!
# Buffers

A grid of cells of fixed dimensions, addressed by row-major offsets. A cell holds one character and,
once it has been coloured, a colour. A write outside the grid is dropped; a read outside it fails.
`cell?` is the view through which everything else speaks about a buffer.
-/

namespace C64Screen

structure Cell where
  char : Char
  colour : Option Colour
  deriving DecidableEq, Repr, Inhabited

def Cell.blank : Cell := ⟨' ', none⟩

def Cell.withChar (c : Char) (cell : Cell) : Cell := { cell with char := c }

def Cell.withColour (c : Colour) (cell : Cell) : Cell := { cell with colour := some c }

structure Buffer where
  width : Nat
  height : Nat
  cells : Array Cell
  width_pos : 0 < width
  height_pos : 0 < height
  size_cells : cells.size = width * height

namespace Buffer

def size (b : Buffer) : Nat := b.width * b.height

/-- The dimensions as sizes. -/
def columns (b : Buffer) : Size := ⟨b.width, b.width_pos⟩

def lines (b : Buffer) : Size := ⟨b.height, b.height_pos⟩

/-- A grid that holds the same cell everywhere. There is one for any two sizes: how many cells a machine can keep is
left out of account. -/
def filled (cell : Cell) (width height : Size) : Buffer where
  width := width.val
  height := height.val
  cells := Array.replicate (width.val * height.val) cell
  width_pos := width.pos
  height_pos := height.pos
  size_cells := Array.size_replicate

def new (width height : Size) : Buffer := filled Cell.blank width height

/-- The width is looked at before the height. -/
def ofSizes (width height : Value) : Except ScreenError Buffer := do
  let w ← Quantity.width.require width
  let h ← Quantity.height.require height
  return new w h

/-- Row-major, for any column and row, also outside the grid. -/
def offset (b : Buffer) (x y : Int) : Int := x + y * b.width

def Holds (b : Buffer) (o : Int) : Prop := 0 ≤ o ∧ o < b.size

instance (b : Buffer) (o : Int) : Decidable (b.Holds o) :=
  inferInstanceAs (Decidable (0 ≤ o ∧ o < b.size))

def cell? (b : Buffer) (o : Int) : Option Cell :=
  if 0 ≤ o then b.cells[o.toNat]? else none

theorem cell?_isSome_iff {b : Buffer} {o : Int} : (b.cell? o).isSome = true ↔ b.Holds o := by
  unfold cell? Holds size
  split
  · simp only [isSome_getElem?, b.size_cells]; omega
  · simp; omega

theorem exists_cell? {b : Buffer} {o : Int} (inside : b.Holds o) : ∃ cell, b.cell? o = some cell :=
  Option.isSome_iff_exists.mp (cell?_isSome_iff.mpr inside)

theorem cell?_eq_none_iff {b : Buffer} {o : Int} : b.cell? o = none ↔ ¬ b.Holds o := by
  rw [← cell?_isSome_iff]; cases b.cell? o <;> simp

theorem ext_cell? {a b : Buffer} (hw : a.width = b.width) (hh : a.height = b.height)
    (h : ∀ o, a.cell? o = b.cell? o) : a = b := by
  have hc : a.cells = b.cells := by
    apply Array.ext_getElem?
    intro i
    simpa [cell?] using h i
  cases a; cases b
  simp_all

def modify (b : Buffer) (o : Int) (f : Cell → Cell) : Buffer :=
  if 0 ≤ o then
    { b with cells := b.cells.modify o.toNat f, size_cells := by simp [b.size_cells] }
  else b

@[simp] theorem width_modify (b : Buffer) (o : Int) (f : Cell → Cell) :
    (b.modify o f).width = b.width := by unfold modify; split <;> rfl

@[simp] theorem height_modify (b : Buffer) (o : Int) (f : Cell → Cell) :
    (b.modify o f).height = b.height := by unfold modify; split <;> rfl

theorem cell?_modify (b : Buffer) (o p : Int) (f : Cell → Cell) :
    (b.modify o f).cell? p = if p = o then (b.cell? p).map f else b.cell? p := by
  unfold modify
  split
  · by_cases hp : 0 ≤ p
    · simp only [cell?, hp, if_true, Array.getElem?_modify]
      by_cases h : p = o
      · simp [h]
      · rw [if_neg (by omega), if_neg h]
    · simp [cell?, hp]
  · by_cases h : p = o
    · rw [if_pos h, cell?, if_neg (by omega)]; rfl
    · rw [if_neg h]

/-- Changes the cells at the offsets that satisfy a test. -/
def modifyWhere (b : Buffer) (p : Nat → Bool) (f : Cell → Cell) : Buffer :=
  { b with
    cells := b.cells.mapIdx (fun i cell => if p i then f cell else cell)
    size_cells := by simp [b.size_cells] }

@[simp] theorem width_modifyWhere (b : Buffer) (p : Nat → Bool) (f : Cell → Cell) :
    (b.modifyWhere p f).width = b.width := rfl

@[simp] theorem height_modifyWhere (b : Buffer) (p : Nat → Bool) (f : Cell → Cell) :
    (b.modifyWhere p f).height = b.height := rfl

theorem cell?_modifyWhere (b : Buffer) (p : Nat → Bool) (f : Cell → Cell) (o : Int) :
    (b.modifyWhere p f).cell? o = if p o.toNat then (b.cell? o).map f else b.cell? o := by
  unfold modifyWhere cell?
  split <;> split <;> simp_all

/-! Writes. -/

def setChar (b : Buffer) (c : Char) (o : Int) : Buffer := b.modify o (Cell.withChar c)

def setColour (b : Buffer) (c : Colour) (o : Int) : Buffer := b.modify o (Cell.withColour c)

/-- Only a text of one character is stored. -/
def putChar (b : Buffer) (char : String) (o : Int) : Buffer :=
  match Text.single? char with
  | some c => b.setChar c o
  | none => b

/-- Only a colour is stored. -/
def putColour (b : Buffer) (colour : Value) (o : Int) : Buffer :=
  match Colour.ofValue? colour with
  | some c => b.setColour c o
  | none => b

def fillCharWhere (b : Buffer) (p : Nat → Bool) (char : String) : Buffer :=
  match Text.single? char with
  | some c => b.modifyWhere p (Cell.withChar c)
  | none => b

def fillColourWhere (b : Buffer) (p : Nat → Bool) (colour : Value) : Buffer :=
  match Colour.ofValue? colour with
  | some c => b.modifyWhere p (Cell.withColour c)
  | none => b

def fillChar (b : Buffer) (char : String) : Buffer := b.fillCharWhere (fun _ => true) char

def fillColour (b : Buffer) (colour : Value) : Buffer := b.fillColourWhere (fun _ => true) colour

/-- Spaces everywhere; the colours stay. -/
def clear (b : Buffer) : Buffer := b.modifyWhere (fun _ => true) (Cell.withChar ' ')

theorem cell?_setChar (b : Buffer) (c : Char) (o p : Int) :
    (b.setChar c o).cell? p = if p = o then (b.cell? p).map (Cell.withChar c) else b.cell? p :=
  cell?_modify b o p _

theorem cell?_setColour (b : Buffer) (c : Colour) (o p : Int) :
    (b.setColour c o).cell? p = if p = o then (b.cell? p).map (Cell.withColour c) else b.cell? p :=
  cell?_modify b o p _

theorem putChar_of_single? {char : String} {c : Char} (h : Text.single? char = some c) (b : Buffer)
    (o : Int) : b.putChar char o = b.setChar c o := by simp [putChar, h]

theorem putChar_of_none {char : String} (h : Text.single? char = none) (b : Buffer) (o : Int) :
    b.putChar char o = b := by simp [putChar, h]

@[simp] theorem putColour_toValue (b : Buffer) (c : Colour) (o : Int) :
    b.putColour c.toValue o = b.setColour c o := by simp [putColour]

theorem putColour_of_none {colour : Value} (h : Colour.ofValue? colour = none) (b : Buffer) (o : Int) :
    b.putColour colour o = b := by simp [putColour, h]

@[simp] theorem width_setChar (b : Buffer) (c : Char) (o : Int) : (b.setChar c o).width = b.width :=
  width_modify ..

@[simp] theorem height_setChar (b : Buffer) (c : Char) (o : Int) : (b.setChar c o).height = b.height :=
  height_modify ..

@[simp] theorem width_setColour (b : Buffer) (c : Colour) (o : Int) :
    (b.setColour c o).width = b.width := width_modify ..

@[simp] theorem height_setColour (b : Buffer) (c : Colour) (o : Int) :
    (b.setColour c o).height = b.height := height_modify ..

@[simp] theorem width_putChar (b : Buffer) (char : String) (o : Int) :
    (b.putChar char o).width = b.width := by unfold putChar; split <;> simp

@[simp] theorem height_putChar (b : Buffer) (char : String) (o : Int) :
    (b.putChar char o).height = b.height := by unfold putChar; split <;> simp

@[simp] theorem width_putColour (b : Buffer) (colour : Value) (o : Int) :
    (b.putColour colour o).width = b.width := by unfold putColour; split <;> simp

@[simp] theorem height_putColour (b : Buffer) (colour : Value) (o : Int) :
    (b.putColour colour o).height = b.height := by unfold putColour; split <;> simp

@[simp] theorem width_clear (b : Buffer) : b.clear.width = b.width := rfl

@[simp] theorem height_clear (b : Buffer) : b.clear.height = b.height := rfl

theorem cell?_clear (b : Buffer) (o : Int) : b.clear.cell? o = (b.cell? o).map (Cell.withChar ' ') := by
  simp [clear, cell?_modifyWhere]

/-! Reads. -/

def charAt (b : Buffer) (o : Int) : Except ScreenError Char :=
  match b.cell? o with
  | some cell => .ok cell.char
  | none => .error (.outside (.int o) b.size)

def colourAt (b : Buffer) (o : Int) : Except ScreenError (Option Colour) :=
  match b.cell? o with
  | some cell => .ok cell.colour
  | none => .error (.outside (.int o) b.size)

def row (b : Buffer) (y : Nat) : List Cell :=
  (b.cells.extract (y * b.width) ((y + 1) * b.width)).toList

def rows (b : Buffer) : List (List Cell) := (List.range b.height).map b.row

def charRows (b : Buffer) : List String :=
  b.rows.map (fun row => String.ofList (row.map Cell.char))

def colourRows (b : Buffer) : List (List (Option Colour)) := b.rows.map (·.map Cell.colour)

/-- How a buffer presents itself. -/
def label (b : Buffer) : String :=
  "ScreenBuffer(width=" ++ Numeral.text b.width ++ ", height=" ++ Numeral.text b.height ++ ")"

end Buffer

end C64Screen
