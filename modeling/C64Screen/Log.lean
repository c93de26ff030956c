import C64Screen.Text.Numeral
import C64Screen.Text.Quoted

/-!
# The log

What a run reports besides its result. An event is what happened; its level, its source and its wording
follow from that.
-/

namespace C64Screen.Log

inductive Level where
  | debug
  | info
  | warning
  | error
  | critical
  deriving DecidableEq, Repr

def Level.all : List Level := [.debug, .info, .warning, .error, .critical]

def Level.name : Level → String
  | .debug => "DEBUG"
  | .info => "INFO"
  | .warning => "WARNING"
  | .error => "ERROR"
  | .critical => "CRITICAL"

def Level.severity : Level → Nat
  | .debug => 10
  | .info => 20
  | .warning => 30
  | .error => 40
  | .critical => 50

def Level.ofName? (name : String) : Option Level := Level.all.find? (·.name = name)

inductive Event where
  /-- A screen got a new buffer. -/
  | allocated (width height : Nat)
  /-- A run of markup stopped for a reason other than the form of its text. -/
  | unexpected (text : List Char)
  /-- A diagnostic was put on the screen. -/
  | diagnostic (kind : String) (position : Int) (text : List Char)
  /-- The same two for something that is no text, as a message shows it. -/
  | unexpectedOf (shown : String)
  | diagnosticOf (kind : String) (position : Int) (shown : String)
  | settingsLoaded (path : String)
  deriving DecidableEq, Repr

namespace Event

def level : Event → Level
  | .allocated .. => .debug
  | .unexpected .. | .unexpectedOf .. => .debug
  | .diagnostic .. | .diagnosticOf .. => .warning
  | .settingsLoaded .. => .info

def source : Event → String
  | .allocated .. => "petsciiview.screen"
  | .unexpected .. | .unexpectedOf .. => "petsciiview.formatter"
  | .diagnostic .. | .diagnosticOf .. => "petsciiview.formatter"
  | .settingsLoaded .. => "petsciiview.cli"

def unexpectedMessage (shown : String) : String := "unexpected failure interpreting " ++ shown

def diagnosticMessage (kind : String) (position : Int) (shown : String) : String :=
  kind ++ " at position " ++ Numeral.text position ++ " in formatted text " ++ shown

def message : Event → String
  | .allocated width height =>
    "allocated " ++ Numeral.text width ++ "x" ++ Numeral.text height ++ " screen buffer"
  | .unexpected text => unexpectedMessage (String.ofList (Text.quote text))
  | .diagnostic kind position text => diagnosticMessage kind position (String.ofList (Text.quote text))
  | .unexpectedOf shown => unexpectedMessage shown
  | .diagnosticOf kind position shown => diagnosticMessage kind position shown
  | .settingsLoaded path => "Loaded screen settings from " ++ path

def line (e : Event) : String := e.level.name ++ ":" ++ e.source ++ ":" ++ e.message ++ "\n"

end Event

/-- The lines of the events that reach a level. -/
def written (least : Level) (events : List Event) : String :=
  String.join ((events.filter (fun e => least.severity ≤ e.level.severity)).map Event.line)

end C64Screen.Log
