import C64Screen.Screen

/-!
# Steps of a screen

Everything that can be done to a screen, as data. A step that is refused leaves no new screen behind, so
the old one stays in force.
-/

namespace C64Screen.Screen

inductive Step where
  | setWidth (width : Value)
  | setHeight (height : Value)
  | resize (width height : Value)
  | setFontSize (size : Value)
  | setBorder (colour : Value)
  | setBackground (colour : Value)
  | setCursor (colour : Value)
  | enableChars (on : Bool)
  | enableColours (on : Bool)
  | write (w : Write)
  | print (text : List Char) (x y : Int) (colour : Value)
  | printMarkup (text : List Char) (x y : Int) (colour : Value)
  | testPicture

namespace Step

def run (s : Screen) : Step → Except ScreenError (Screen × List Log.Event)
  | .setWidth width => s.setWidth width
  | .setHeight height => s.setHeight height
  | .resize width height => s.resize width height
  | .setFontSize size => s.setFontSize size
  | .setBorder colour => .ok (s.setBorder colour, [])
  | .setBackground colour => .ok (s.setBackground colour, [])
  | .setCursor colour => .ok (s.setCursor colour, [])
  | .enableChars on => .ok (s.enableChars on, [])
  | .enableColours on => .ok (s.enableColours on, [])
  | .write w => .ok (s.write w)
  | .print text x y colour => .ok (s.write (.placeText text (s.buffer.offset x y) colour))
  | .printMarkup text x y colour => .ok (s.write (.interpret text (s.buffer.offset x y) colour))
  | .testPicture => .ok (s.printTestPicture, [])

/-- Whether a step, when it succeeds, makes a new buffer. -/
def Reallocates : Step → Prop
  | .setWidth _ | .setHeight _ | .resize .. | .setFontSize _ => True
  | _ => False

instance : DecidablePred Reallocates := fun step => by
  cases step <;> unfold Reallocates <;> infer_instance

/-- The screen after a step, whether or not the step succeeds. -/
def after (s : Screen) (step : Step) : Screen :=
  match step.run s with
  | .ok (t, _) => t
  | .error _ => s

end Step

end C64Screen.Screen
