import C64Screen.Settings

/-!
# Rendering

A text drawn on a new screen, either as markup or as it stands.
-/

namespace C64Screen

/-- Where and how a text is drawn. Without a colour it is drawn in the cursor colour. -/
structure Drawing where
  x : Int := 0
  y : Int := 0
  colour : Value := .null
  plain : Bool := false

namespace Drawing

def colourOn (d : Drawing) (s : Screen) : Value :=
  match d.colour with
  | .null => s.cursor.toValue
  | colour => colour

def write (d : Drawing) (text : List Char) (s : Screen) : Write :=
  let o := s.buffer.offset d.x d.y
  if d.plain then .placeText text o (d.colourOn s) else .interpret text o (d.colourOn s)

end Drawing

def render (text : List Char) (settings : Settings) (d : Drawing) :
    Except ScreenError (Screen × List Log.Event) := do
  let (s, events) ← settings.createScreen
  let (s, later) := s.write (d.write text s)
  return (s, events ++ later)

end C64Screen
