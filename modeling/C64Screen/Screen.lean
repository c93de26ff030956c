import C64Screen.Buffer.Write

/-!
# Screens

A buffer with what it takes to show it: the colours of border, background and cursor, the size of the
font, and whether the characters and the colours of its cells are looked at. A change of the dimensions or
of the font allocates a new buffer of spaces in the cursor colour. A value that is no colour leaves a
colour as it was; a value that is no size is refused and leaves the whole screen as it was.
-/

namespace C64Screen

structure Screen where
  buffer : Buffer
  border : Colour
  background : Colour
  cursor : Colour
  fontSize : Size
  charsEnabled : Bool
  coloursEnabled : Bool

namespace Screen

def defaultWidth : Size := ⟨40, by decide⟩
def defaultHeight : Size := ⟨25, by decide⟩
def defaultBorder : Colour := .lightBlue
def defaultBackground : Colour := .blue
def defaultCursor : Colour := .lightBlue
def defaultFontSize : Size := ⟨16, by decide⟩

def width (s : Screen) : Nat := s.buffer.width

def height (s : Screen) : Nat := s.buffer.height

/-- Spaces in one colour. -/
def blankBuffer (cursor : Colour) (width height : Size) : Buffer :=
  Buffer.filled ⟨' ', some cursor⟩ width height

def allocate (s : Screen) (width height : Size) : Screen × List Log.Event :=
  ({ s with buffer := blankBuffer s.cursor width height }, [.allocated width.val height.val])

/-- The width is looked at before the height. -/
def resize (s : Screen) (width height : Value) : Except ScreenError (Screen × List Log.Event) := do
  let w ← Quantity.width.require width
  let h ← Quantity.height.require height
  return s.allocate w h

def setWidth (s : Screen) (width : Value) : Except ScreenError (Screen × List Log.Event) :=
  s.resize width s.buffer.lines.toValue

def setHeight (s : Screen) (height : Value) : Except ScreenError (Screen × List Log.Event) :=
  s.resize s.buffer.columns.toValue height

def setFontSize (s : Screen) (size : Value) : Except ScreenError (Screen × List Log.Event) := do
  let n ← Quantity.fontSize.require size
  return { s with fontSize := n }.allocate s.buffer.columns s.buffer.lines

def setBorder (s : Screen) (colour : Value) : Screen :=
  { s with border := (Colour.ofValue? colour).getD s.border }

def setBackground (s : Screen) (colour : Value) : Screen :=
  { s with background := (Colour.ofValue? colour).getD s.background }

def setCursor (s : Screen) (colour : Value) : Screen :=
  { s with cursor := (Colour.ofValue? colour).getD s.cursor }

def enableChars (s : Screen) (on : Bool) : Screen := { s with charsEnabled := on }

def enableColours (s : Screen) (on : Bool) : Screen := { s with coloursEnabled := on }

def write (s : Screen) (w : Write) : Screen × List Log.Event :=
  let (b, events) := w.run s.buffer
  ({ s with buffer := b }, events)

/-! What is to be shown. -/

/-- With colours disabled every cell shows the cursor colour. The offset is looked at in any case. -/
def effectiveColourAt (s : Screen) (o : Int) : Except ScreenError (Option Colour) := do
  let colour ← s.buffer.colourAt o
  return if s.coloursEnabled then colour else some s.cursor

def effectiveColourRows (s : Screen) : List (List (Option Colour)) :=
  if s.coloursEnabled then s.buffer.colourRows
  else List.replicate s.height (List.replicate s.width (some s.cursor))

/-- With characters disabled every row is blank. -/
def visibleRows (s : Screen) : List String :=
  if s.charsEnabled then s.buffer.charRows
  else List.replicate s.height (String.ofList (List.replicate s.width ' '))

/-! The test picture. -/

def version : String := "1.0.0"

def banner : String := "**** PETSCII View " ++ version ++ " ****"

def uppercaseCaption : String := "CHARACTER MAP UPPERCASE:"

def lowercaseCaption : String := "CHARACTER MAP LOWERCASE:"

/-- A title and, each under a caption, the glyphs of both banks, all in the cursor colour. -/
def testPicture (b : Buffer) (colour : Value) : Buffer :=
  let b := b.placeText banner.toList (b.offset 6 1) colour
  let b := b.placeText uppercaseCaption.toList (b.offset 0 4) colour
  let b := b.placeText Bank.uppercase.glyphs (b.offset 0 6) colour
  let b := b.placeText lowercaseCaption.toList (b.offset 0 15) colour
  b.placeText Bank.lowercase.glyphs (b.offset 0 17) colour

def printTestPicture (s : Screen) : Screen :=
  { s with buffer := testPicture s.buffer s.cursor.toValue }

/-! Making a screen. -/

/-- What a screen is made from, before any of it has been checked. -/
structure Options where
  width : Value := defaultWidth.toValue
  height : Value := defaultHeight.toValue
  border : Value := defaultBorder.toValue
  background : Value := defaultBackground.toValue
  cursor : Value := defaultCursor.toValue
  fontSize : Value := defaultFontSize.toValue
  testPicture : Bool := false

/-- The font size is looked at first. A value that is no colour stands for the default. -/
def ofOptions (o : Options) : Except ScreenError (Screen × List Log.Event) := do
  let fontSize ← Quantity.fontSize.require o.fontSize
  let w ← Quantity.width.require o.width
  let h ← Quantity.height.require o.height
  let cursor := (Colour.ofValue? o.cursor).getD defaultCursor
  let s : Screen :=
    { buffer := blankBuffer cursor w h
      border := (Colour.ofValue? o.border).getD defaultBorder
      background := (Colour.ofValue? o.background).getD defaultBackground
      cursor := cursor
      fontSize := fontSize
      charsEnabled := true
      coloursEnabled := true }
  return (if o.testPicture then s.printTestPicture else s, [.allocated w.val h.val])

end Screen

end C64Screen
