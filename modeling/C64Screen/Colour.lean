import C64Screen.Error

/-!
# Colours

The sixteen colours of the display, each with a name and a red, green and blue level. Where a colour is
asked for, any value may be given, but only the integers 0 to 15 stand for one.
-/

namespace C64Screen

inductive Colour where
  | black
  | white
  | red
  | cyan
  | violet
  | green
  | blue
  | yellow
  | orange
  | brown
  | lightRed
  | grey1
  | grey2
  | lightGreen
  | lightBlue
  | grey3
  deriving DecidableEq, Repr, Inhabited

namespace Colour

/-- In the order of their codes. -/
def all : List Colour :=
  [.black, .white, .red, .cyan, .violet, .green, .blue, .yellow, .orange, .brown, .lightRed, .grey1,
   .grey2, .lightGreen, .lightBlue, .grey3]

def count : Nat := all.length

def code : Colour → Nat
  | .black => 0
  | .white => 1
  | .red => 2
  | .cyan => 3
  | .violet => 4
  | .green => 5
  | .blue => 6
  | .yellow => 7
  | .orange => 8
  | .brown => 9
  | .lightRed => 10
  | .grey1 => 11
  | .grey2 => 12
  | .lightGreen => 13
  | .lightBlue => 14
  | .grey3 => 15

def toInt (c : Colour) : Int := c.code

def toValue (c : Colour) : Value := .int c.toInt

def ofInt? (n : Int) : Option Colour := if 0 ≤ n then all[n.toNat]? else none

def ofValue? : Value → Option Colour
  | .int n => ofInt? n
  | _ => none

theorem code_lt (c : Colour) : c.code < 16 := by cases c <;> decide

@[simp] theorem ofInt?_toInt (c : Colour) : ofInt? c.toInt = some c := by cases c <;> rfl

@[simp] theorem ofValue?_toValue (c : Colour) : ofValue? c.toValue = some c := ofInt?_toInt c

theorem ofInt?_isSome_iff {n : Int} : (ofInt? n).isSome = true ↔ 0 ≤ n ∧ n < 16 := by
  have : all.length = 16 := rfl
  unfold ofInt?
  split
  · simp only [isSome_getElem?]; omega
  · simp; omega

theorem toInt_of_all {n : Nat} {c : Colour} (h : all[n]? = some c) : c.toInt = n := by
  obtain ⟨hn, rfl⟩ := List.getElem?_eq_some_iff.mp h
  have : ∀ i : Fin all.length, (all.get i).toInt = i.val := by decide
  exact this ⟨n, hn⟩

theorem ofInt?_eq_some_iff {n : Int} {c : Colour} : ofInt? n = some c ↔ n = c.toInt := by
  refine ⟨fun h => ?_, fun h => h ▸ ofInt?_toInt c⟩
  unfold ofInt? at h
  split at h
  · have := toInt_of_all h; omega
  · cases h

theorem ofValue?_eq_some_iff {v : Value} {c : Colour} : ofValue? v = some c ↔ v = c.toValue := by
  cases v <;> simp [ofValue?, toValue, ofInt?_eq_some_iff]

/-- The levels of red, green and blue. -/
def rgb : Colour → Nat × Nat × Nat
  | .black => (0x00, 0x00, 0x00)
  | .white => (0xFF, 0xFF, 0xFF)
  | .red => (0x88, 0x00, 0x00)
  | .cyan => (0xAA, 0xFF, 0xEE)
  | .violet => (0xCC, 0x44, 0xCC)
  | .green => (0x00, 0xCC, 0x55)
  | .blue => (0x00, 0x00, 0xAA)
  | .yellow => (0xEE, 0xEE, 0x77)
  | .orange => (0xDD, 0x88, 0x55)
  | .brown => (0x66, 0x44, 0x00)
  | .lightRed => (0xFF, 0x77, 0x77)
  | .grey1 => (0x33, 0x33, 0x33)
  | .grey2 => (0x77, 0x77, 0x77)
  | .lightGreen => (0xAA, 0xFF, 0x66)
  | .lightBlue => (0x00, 0x88, 0xFF)
  | .grey3 => (0xBB, 0xBB, 0xBB)

def name : Colour → String
  | .black => "black"
  | .white => "white"
  | .red => "red"
  | .cyan => "cyan"
  | .violet => "violet"
  | .green => "green"
  | .blue => "blue"
  | .yellow => "yellow"
  | .orange => "orange"
  | .brown => "brown"
  | .lightRed => "light red"
  | .grey1 => "grey 1"
  | .grey2 => "grey 2"
  | .lightGreen => "light green"
  | .lightBlue => "light blue"
  | .grey3 => "grey 3"

/-- The levels in two hexadecimal digits each, behind a number sign. -/
def hex (c : Colour) : String :=
  let (r, g, b) := c.rgb
  String.ofList ('#' :: (Text.hex 2 r ++ Text.hex 2 g ++ Text.hex 2 b))

/-- The one character that stands for a colour in a row of cells. -/
def digit (c : Colour) : Char := Text.hexDigit c.code

end Colour

/-- The cells of a row, a point for one that was never coloured. -/
def colourDigits (row : List (Option Colour)) : String :=
  String.ofList (row.map (fun cell => (cell.map Colour.digit).getD '.'))

def Colour.require (v : Value) : Except ScreenError Colour :=
  match ofValue? v with
  | some c => .ok c
  | none => .error (.notAColour v)

end C64Screen
