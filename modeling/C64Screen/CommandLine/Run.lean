import C64Screen.CommandLine.Request
import C64Screen.Json.Writer
import C64Screen.Screen.Payload
import C64Screen.Settings.Load
import C64Screen.Unchecked.Render

/-!
# Running a request

A request is carried out against the files as they are. The settings are looked for and loaded before the
text is looked for. The result is what is printed and what was logged, or why there is neither.
-/

namespace C64Screen.CommandLine

/-- What a path leads to, if anything. A path may also be refused, for its length or for want of
permission. -/
inductive Node where
  | directory
  | file (bytes : ByteArray)
  | refused

abbrev Files := String → Option Node

/-- Something to read that is missing. -/
inductive Missing where
  | config (path : String)
  | text (path : String)
  deriving DecidableEq, Repr

def Missing.message : Missing → String
  | .config path => "configuration file not found: " ++ path
  | .text path => "text file not found: " ++ path

inductive Failure where
  /-- An option is there, but what it was to give is needed and is not. -/
  | nothingGiven (s : Switch)
  | isDirectory
  | pathRefused
  | undecodable
  | load (e : Settings.LoadError)
  | screen (e : ScreenError)

inductive RunError where
  | refused (r : Refusal)
  | missing (m : Missing)
  | failed (f : Failure)

structure Report where
  stdout : String
  events : List Log.Event
  level : Log.Level

def Report.log (r : Report) : String := Log.written r.level r.events

def needed {α : Type} (s : Switch) : Given α → Except RunError α
  | .value a => .ok a
  | .nothing => .error (.failed (.nothingGiven s))

def loadSettings (files : Files) : Option (Given String) → Except RunError (Settings × List Log.Event)
  | none => .ok ({}, [])
  | some given => do
    let path ← needed .config given
    match files path with
    | none => .error (.missing (.config path))
    | some .directory => .error (.failed .isDirectory)
    | some .refused => .error (.failed .pathRefused)
    | some (.file bytes) =>
      match Settings.load path bytes with
      | .ok s => .ok (s, [.settingsLoaded path])
      | .error e => .error (.failed (.load e))

def loadText (files : Files) : Source → Except RunError (List Char)
  | .text s => .ok s.toList
  | .file given => do
    let path ← needed .file given
    match files path with
    | some (.file bytes) =>
      match String.fromUTF8? bytes with
      | some text => .ok (Text.unifyLineEnds text.toList)
      | none => .error (.failed .undecodable)
    | some .refused => .error (.failed .pathRefused)
    | some .directory | none => .error (.missing (.text path))

/-- Nothing is an empty list, where a value has to stand for it. -/
def Given.toValue : Given Int → Value
  | .value n => .int n
  | .nothing => .list []

/-- An option that has nothing chooses no colour that there is; one that is absent leaves the choice open. -/
def Request.colourValue (r : Request) : Value := (r.colour.map Given.toValue).getD .null

/-- A coordinate that is nothing may still turn out not to be needed. -/
def Request.draw (r : Request) (text : List Char) (settings : Settings) :
    Except RunError (Screen × List Log.Event) :=
  match r.x, r.y with
  | .value x, .value y =>
    (render text settings { x, y, colour := r.colourValue, plain := r.plain }).mapError
      (fun e => .failed (.screen e))
  | x, y =>
    match Unchecked.render? settings
        ⟨.text (String.ofList text), x.toValue, y.toValue, r.colourValue, r.plain⟩ with
    | .ok (some drawn) => .ok drawn
    | .ok none => .error (.failed (.nothingGiven (if x = .nothing then .x else .y)))
    | .error e => .error (.failed (.screen e))

def printed (json : Bool) (s : Screen) : String :=
  let p := Payload.ofScreen s
  if json then Json.line p.toValue ++ "\n" else p.lines

def Request.run (files : Files) (r : Request) : Except RunError Report := do
  let level ← needed .logLevel r.level
  let (settings, loaded) ← loadSettings files r.config
  let text ← loadText files r.source
  let (screen, events) ← r.draw text settings
  return { stdout := printed r.json screen, events := loaded ++ events, level }

def run (files : Files) (args : List String) : Except RunError Report :=
  match Request.ofArgs args with
  | .error r => .error (.refused r)
  | .ok r => r.run files

end C64Screen.CommandLine
