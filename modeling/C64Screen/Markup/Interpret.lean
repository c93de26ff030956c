import C64Screen.Log
import C64Screen.Markup.Cursor

/-!
# Interpreting markup

Markup that cannot be run to its end never fails: the run stops, and a diagnostic is written over the top
of the buffer, a line in reverse video that names the fault and its position, and from the second row on
the text itself.
-/

namespace C64Screen.Markup

def diagnosticColour : Colour := .white

/-- A diagnostic about a position that can be written out, as each one within a text can. -/
def report (b : Buffer) (kind : String) (text : List Char) (position : Int) :
    Buffer × List Log.Event :=
  let head := (headline kind position).toList.map Charset.reverse
  let b := b.placeText head 0 diagnosticColour.toValue
  (b.placeText text b.width diagnosticColour.toValue, [.diagnostic kind position text])

/-- What becomes of the buffer in which a run has stopped. -/
def conclude (text : List Char) (b : Buffer) : Option Halt → Buffer × List Log.Event
  | none => (b, [])
  | some (.broken fault position) => report b fault.kind text position
  | some (.adrift position) =>
    let (b, events) := report b Fault.parsing.kind text position
    (b, .unexpected text :: events)

def interpret (b : Buffer) (text : List Char) (offset : Option Int) (colour : Value) :
    Buffer × List Log.Event :=
  let stop := run ⟨b, .start offset colour⟩ 0 text
  conclude text stop.state.buffer stop.halt

end C64Screen.Markup
