import C64Screen.Buffer.Region
import C64Screen.Markup.Interpret

/-!
# Writes

The writes that a buffer takes, as data. A write always succeeds, and only markup and diagnostics have something to
report. A diagnostic whose position has too many digits to be named in the headline is not begun, and the buffer
stays as it was. Within a text no position is that long.
-/

namespace C64Screen

inductive Write where
  | putChar (char : String) (o : Int)
  | putCharXY (char : String) (x y : Int)
  | putColour (colour : Value) (o : Int)
  | putColourXY (colour : Value) (x y : Int)
  | fillChar (char : String)
  | fillCharRegion (char : String) (r : Region)
  | fillColour (colour : Value)
  | fillColourRegion (colour : Value) (r : Region)
  | placeChar (char : String) (o : Int) (colour : Value)
  | placeText (text : List Char) (o : Int) (colour : Value)
  | interpret (text : List Char) (o : Option Int) (colour : Value)
  | report (kind : String) (text : List Char) (position : Int)

namespace Write

def run (b : Buffer) : Write → Buffer × List Log.Event
  | .putChar char o => (b.putChar char o, [])
  | .putCharXY char x y => (b.putChar char (b.offset x y), [])
  | .putColour colour o => (b.putColour colour o, [])
  | .putColourXY colour x y => (b.putColour colour (b.offset x y), [])
  | .fillChar char => (b.fillChar char, [])
  | .fillCharRegion char r => (b.fillCharRegion char r, [])
  | .fillColour colour => (b.fillColour colour, [])
  | .fillColourRegion colour r => (b.fillColourRegion colour r, [])
  | .placeChar char o colour => (b.placeChar char o colour, [])
  | .placeText text o colour => (b.placeText text o colour, [])
  | .interpret text o colour => Markup.interpret b text o colour
  | .report kind text position =>
    if Numeral.isShort position then Markup.report b kind text position else (b, [])

/-- Runs writes one after another. -/
def runAll (b : Buffer) : List Write → Buffer × List Log.Event
  | [] => (b, [])
  | w :: rest =>
    let (b, events) := w.run b
    let (b, later) := runAll b rest
    (b, events ++ later)

end Write

end C64Screen
