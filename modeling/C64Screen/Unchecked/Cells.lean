import C64Screen.Buffer.Region
import C64Screen.Value.Number

/-!
# Cells, by values of any kind

Writing to cells and reading them where nothing is known of the arguments. A value is looked at only when
it is needed, so one that does not fit does no harm as long as the cells asked for lie outside the grid.
What was written before a value turned out not to fit stays.
-/

namespace C64Screen.Unchecked

/-- A buffer after a write, and whether all values that the write came to need did fit. -/
structure Trial where
  buffer : Buffer
  fits : Bool

def fit (b : Buffer) : Trial := ⟨b, true⟩

def unfit (b : Buffer) : Trial := ⟨b, false⟩

def Trial.andThen (t : Trial) (f : Buffer → Trial) : Trial := if t.fits then f t.buffer else t

/-- Row-major, as far as the values can be multiplied and added. -/
def offset? (b : Buffer) (x y : Value) : Option Value := (y.times? b.width).bind x.plus?

/-- Whether a value lies within the offsets of the grid. It takes a number to say. -/
def holds? (b : Buffer) (o : Value) : Option Bool := o.number?.map (Number.isBelow b.size)

/-- The cell that a value addresses. A number that is not whole lies between the cells. -/
def address? (o : Value) : Option Int :=
  match o.number? with
  | some (.whole n) => some n
  | _ => none

/-! Writes. -/

/-- What is to be done with a value in the place of a character. -/
inductive Glyph where
  | store (char : String)
  | drop
  | unfit

/-- What has several parts, or none, is dropped like a text of several characters, or of none. -/
def Glyph.ofValue (v : Value) : Glyph :=
  match v, v.parts? with
  | .text s, some [_] => .store s
  | _, some [_] => .unfit
  | _, some _ => .drop
  | _, none => .unfit

/-- Does something to a cell, if there is one. -/
def atCell (o : Value) (act : Buffer → Trial) (b : Buffer) : Trial :=
  match holds? b o with
  | none => unfit b
  | some false => fit b
  | some true => act b

def putChar (char o : Value) : Buffer → Trial :=
  atCell o fun b =>
    match Glyph.ofValue char, address? o with
    | .store s, some n => fit (b.putChar s n)
    | .drop, _ => fit b
    | _, _ => unfit b

def putColour (colour o : Value) : Buffer → Trial :=
  atCell o fun b =>
    match Colour.ofValue? colour, address? o with
    | none, _ => fit b
    | some _, some n => fit (b.putColour colour n)
    | some _, none => unfit b

def placeChar (char o colour : Value) (b : Buffer) : Trial :=
  (putChar char o b).andThen (putColour colour o)

def fillChar (char : Value) (b : Buffer) : Trial :=
  match Glyph.ofValue char with
  | .store s => fit (b.fillChar s)
  | .drop => fit b
  | .unfit => unfit b

/-- The bounds of a region are looked at row by row, so those of the columns only if there is a row. -/
def withRegion (left top right bottom : Value) (act : Region → Buffer → Trial) (b : Buffer) : Trial :=
  match address? top, address? bottom with
  | some top, some bottom =>
    if bottom < top then fit b
    else
      match address? left, address? right with
      | some left, some right => act ⟨left, top, right, bottom⟩ b
      | _, _ => unfit b
  | _, _ => unfit b

def fillCharRegion (char left top right bottom : Value) : Buffer → Trial :=
  withRegion left top right bottom fun r b =>
    match Glyph.ofValue char with
    | .store s => fit (b.fillCharRegion s r)
    | .drop => fit b
    | .unfit => if (List.range b.size).any (r.covers b.width ·) then unfit b else fit b

def fillColourRegion (colour left top right bottom : Value) : Buffer → Trial :=
  withRegion left top right bottom fun r b => fit (b.fillColourRegion colour r)

/-! Reads. -/

inductive ReadError where
  | unfit
  | screen (e : ScreenError)
  /-- The offset is outside the grid and too long to be written out. -/
  | longOffset

def isLong : Value → Bool
  | .int n => !Numeral.isShort n
  | _ => false

def cellAt (b : Buffer) (o : Value) : Except ReadError Cell :=
  match holds? b o, (address? o).bind b.cell? with
  | some true, some cell => .ok cell
  | some false, _ => .error (if isLong o then .longOffset else .screen (.outside o b.size))
  | _, _ => .error .unfit

def cellAtXY (b : Buffer) (x y : Value) : Except ReadError Cell :=
  match offset? b x y with
  | some o => cellAt b o
  | none => .error .unfit

end C64Screen.Unchecked
