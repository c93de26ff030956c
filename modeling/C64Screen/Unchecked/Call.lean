import C64Screen.Unchecked.Texts
import C64Screen.Session

/-!
# Calls

The writes that a buffer takes, with values of any kind for arguments, as data. Where all values fit, a
call is one of the writes proper.
-/

namespace C64Screen.Unchecked

inductive Call where
  | putChar (char o : Value)
  | putCharXY (char x y : Value)
  | putColour (colour o : Value)
  | putColourXY (colour x y : Value)
  | fillChar (char : Value)
  | fillCharRegion (char left top right bottom : Value)
  | fillColour (colour : Value)
  | fillColourRegion (colour left top right bottom : Value)
  | placeChar (char o colour : Value)
  | placeText (text o colour : Value)
  | placeTextXY (text x y colour : Value)
  | interpret (text o colour : Value)
  | interpretXY (text x y colour : Value)
  | report (kind text position : Value)

/-- Goes on with the offset of a column and a row, if they have one. -/
def atXY (x y : Value) (act : Value → Buffer → Outcome) (b : Buffer) : Outcome :=
  match offset? b x y with
  | some o => act o b
  | none => (unfit b).logged []

def Call.run (b : Buffer) : Call → Outcome
  | .putChar char o => (Unchecked.putChar char o b).logged []
  | .putCharXY char x y => atXY x y (fun o b => (Unchecked.putChar char o b).logged []) b
  | .putColour colour o => (Unchecked.putColour colour o b).logged []
  | .putColourXY colour x y => atXY x y (fun o b => (Unchecked.putColour colour o b).logged []) b
  | .fillChar char => (Unchecked.fillChar char b).logged []
  | .fillCharRegion char left top right bottom =>
    (Unchecked.fillCharRegion char left top right bottom b).logged []
  | .fillColour colour => (fit (b.fillColour colour)).logged []
  | .fillColourRegion colour left top right bottom =>
    (Unchecked.fillColourRegion colour left top right bottom b).logged []
  | .placeChar char o colour => (Unchecked.placeChar char o colour b).logged []
  | .placeText text o colour => (Unchecked.placeText text o colour b).logged []
  | .placeTextXY text x y colour => atXY x y (fun o b => (Unchecked.placeText text o colour b).logged []) b
  | .interpret text o colour => Unchecked.interpret text o colour b
  | .interpretXY text x y colour => atXY x y (fun o b => Unchecked.interpret text o colour b) b
  | .report kind text position => Unchecked.report kind text position b

/-- The offset is looked at even if the answer does not depend on it. -/
def effectiveColourAt (s : Screen) (o : Value) : Except ReadError (Option Colour) := do
  let cell ← cellAt s.buffer o
  return if s.coloursEnabled then cell.colour else some s.cursor

end C64Screen.Unchecked

namespace C64Screen

/-- A call on the buffer with a given number, and what came of it. There is none if no buffer has it. -/
def Session.call? (s : Session) (number : Nat) (c : Unchecked.Call) : Option (Session × Unchecked.Outcome) :=
  (s.buffer? number).map fun b =>
    let outcome := c.run b
    (s.setBuffer number outcome.buffer, outcome)

end C64Screen
