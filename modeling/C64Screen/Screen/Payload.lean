import C64Screen.Screen

/-!
# Payloads

A screen as it is handed to whoever draws it: its dimensions, the rows of characters to be seen and the
colours to see them in.
-/

namespace C64Screen

structure Payload where
  width : Nat
  height : Nat
  rows : List String
  colours : List (List (Option Colour))
  deriving DecidableEq, Repr

namespace Payload

def ofScreen (s : Screen) : Payload :=
  ⟨s.width, s.height, s.visibleRows, s.effectiveColourRows⟩

/-- A cell that was never coloured has no value. -/
def colourValue : Option Colour → Value
  | some c => c.toValue
  | none => .null

def toValue (p : Payload) : Value :=
  .table
    [("width", .int p.width),
     ("height", .int p.height),
     ("rows", .list (p.rows.map .text)),
     ("colours", .list (p.colours.map (fun row => .list (row.map colourValue))))]

/-- Each row on a line of its own. -/
def lines (p : Payload) : String := String.join (p.rows.map (· ++ "\n"))

end Payload

end C64Screen
