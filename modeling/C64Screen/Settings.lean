import C64Screen.Screen
import C64Screen.Text.Numeral
import C64Screen.Text.Order
import C64Screen.Unicode.Blank

/-!
# Settings

The settings of a screen, and how they are read from the entries of a table. Every key is optional, no
other key is allowed, and keys are looked at in a fixed order, so a table with several faults has one
definite error. A number may also be given as a text.
-/

namespace C64Screen

structure Settings where
  width : Size := Screen.defaultWidth
  height : Size := Screen.defaultHeight
  border : Colour := Screen.defaultBorder
  background : Colour := Screen.defaultBackground
  cursor : Colour := Screen.defaultCursor
  fontSize : Size := Screen.defaultFontSize
  testPicture : Bool := false
  deriving DecidableEq

namespace Settings

inductive Key where
  | width
  | height
  | fontSize
  | border
  | background
  | cursor
  | testPicture
  deriving DecidableEq, Repr

/-- In the order in which they are looked at. -/
def Key.all : List Key := [.width, .height, .fontSize, .border, .background, .cursor, .testPicture]

def Key.text : Key → String
  | .width => "width"
  | .height => "height"
  | .fontSize => "font_size"
  | .border => "border_colour"
  | .background => "background_colour"
  | .cursor => "cursor_colour"
  | .testPicture => "test_picture"

def Key.known : List String := Key.all.map Key.text

def Key.path (k : Key) : String := "screen." ++ k.text

inductive Error where
  | noSection
  | sectionNotATable
  | unknownKeys (keys : List String)
  | notAnInteger (key : Key)
  | unreadable (key : Key) (received : String)
  | notPositive (key : Key) (received : Int)
  | outOfRange (key : Key) (received : Int)
  | notABoolean (key : Key)
  deriving DecidableEq, Repr

def Error.message : Error → String
  | .noSection => "screen configuration requires a [screen] table"
  | .sectionNotATable => "[screen] section must be a mapping"
  | .unknownKeys keys => "unknown [screen] keys: " ++ ", ".intercalate keys
  | .notAnInteger key => key.path ++ " must be an integer"
  | .unreadable key received => key.path ++ " must be an integer, received " ++ Text.quoted received
  | .notPositive key received =>
    key.path ++ " must be positive, received " ++ Numeral.text received
  | .outOfRange key received =>
    key.path ++ " " ++ Numeral.text received ++ " outside supported range 0-15"
  | .notABoolean key => key.path ++ " must be a boolean"

/-- A text is read without the blanks around it. -/
def integer (key : Key) : Value → Except Error Int
  | .int n => .ok n
  | .text s =>
    match Numeral.integer? (Unicode.trim Unicode.isBlank s.toList) with
    | some n => .ok n
    | none => .error (.unreadable key s)
  | _ => .error (.notAnInteger key)

def dimension (key : Key) (v : Value) : Except Error Size := do
  let n ← integer key v
  match Size.ofInt? n with
  | some s => return s
  | none => throw (.notPositive key n)

def colour (key : Key) (v : Value) : Except Error Colour := do
  let n ← integer key v
  match Colour.ofInt? n with
  | some c => return c
  | none => throw (.outOfRange key n)

def flag (key : Key) : Value → Except Error Bool
  | .bool b => .ok b
  | _ => .error (.notABoolean key)

/-- Reads the value of a key, and takes the default where the key is absent. -/
def entry {α : Type} (read : Key → Value → Except Error α) (default : α)
    (entries : List (String × Value)) (key : Key) : Except Error α :=
  match Value.lookup key.text entries with
  | some v => read key v
  | none => .ok default

def unknownKeys (entries : List (String × Value)) : List String :=
  Text.sorted ((entries.map Prod.fst).filter (fun k => !Key.known.contains k))

def ofSection (entries : List (String × Value)) : Except Error Settings := do
  match unknownKeys entries with
  | [] => pure ()
  | unknown => throw (.unknownKeys unknown)
  let d : Settings := {}
  let width ← entry dimension d.width entries .width
  let height ← entry dimension d.height entries .height
  let fontSize ← entry dimension d.fontSize entries .fontSize
  let border ← entry colour d.border entries .border
  let background ← entry colour d.background entries .background
  let cursor ← entry colour d.cursor entries .cursor
  let testPicture ← entry flag d.testPicture entries .testPicture
  return { width, height, border, background, cursor, fontSize, testPicture }

/-- The settings in the `screen` entry of a document. -/
def ofDocument (entries : List (String × Value)) : Except Error Settings :=
  match (Value.lookup "screen" entries).getD .null with
  | .null => .error .noSection
  | .table screen => ofSection screen
  | _ => .error .sectionNotATable

def toOptions (s : Settings) : Screen.Options where
  width := s.width.toValue
  height := s.height.toValue
  border := s.border.toValue
  background := s.background.toValue
  cursor := s.cursor.toValue
  fontSize := s.fontSize.toValue
  testPicture := s.testPicture

def createScreen (s : Settings) : Except ScreenError (Screen × List Log.Event) :=
  Screen.ofOptions s.toOptions

end Settings

end C64Screen
