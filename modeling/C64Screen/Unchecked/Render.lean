import C64Screen.Render
import C64Screen.Unchecked.Call

/-!
# Rendering, by values of any kind

A text drawn on a new screen where neither the text nor the place need be what they should.
-/

namespace C64Screen.Unchecked

/-- Where and how something is drawn. Without a colour it is drawn in the cursor colour. -/
structure Drawing where
  text : Value
  x : Value
  y : Value
  colour : Value
  plain : Bool

def Drawing.call (d : Drawing) (s : Screen) : Call :=
  let colour := match d.colour with
    | .null => s.cursor.toValue
    | colour => colour
  if d.plain then .placeTextXY d.text d.x d.y colour else .interpretXY d.text d.x d.y colour

/-- There is no screen if a value turns out not to fit. -/
def render? (settings : Settings) (d : Drawing) :
    Except ScreenError (Option (Screen × List Log.Event)) := do
  let (s, events) ← settings.createScreen
  let outcome := (d.call s).run s.buffer
  return if outcome.fits then some ({ s with buffer := outcome.buffer }, events ++ outcome.events) else none

end C64Screen.Unchecked
