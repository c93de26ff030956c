import C64Screen.CommandLine.Path
import C64Screen.CommandLine.Word
import C64Screen.Log
import C64Screen.Text.Numeral
import C64Screen.Unicode.Blank

/-!
# Requests

What a command line asks for. Its words are acted upon from left to right, and the first fault met decides
the error: a value that is missing, unwanted or unreadable, or a second source of text. Only at the end it
is seen whether there is a source at all, and then whether words are left over.
-/

namespace C64Screen.CommandLine

/-- What an option is given. A separator in the place of the value is dropped, and the option is then there
but has nothing. -/
inductive Given (α : Type) where
  | value (a : α)
  | nothing
  deriving DecidableEq, Repr

namespace Given

def ofArg (arg : String) : Given String := if arg = separatorArg then .nothing else .value arg

def value? {α : Type} : Given α → Option α
  | .value a => some a
  | .nothing => none

def map {α β : Type} (f : α → β) : Given α → Given β
  | .value a => .value (f a)
  | .nothing => .nothing

def mapExcept {α β ε : Type} (f : α → Except ε β) : Given α → Except ε (Given β)
  | .value a => (f a).map .value
  | .nothing => .ok .nothing

end Given

inductive Source where
  | text (s : String)
  | file (path : Given String)
  deriving DecidableEq, Repr

structure Request where
  source : Source
  config : Option (Given String)
  plain : Bool
  x : Given Int
  y : Given Int
  colour : Option (Given Int)
  json : Bool
  level : Given Log.Level
  deriving DecidableEq, Repr

/-- The files that a request reads. -/
def Request.paths (r : Request) : List String :=
  (r.config.bind Given.value?).toList ++
    match r.source with
    | .text _ => []
    | .file path => path.value?.toList

inductive UsageError where
  | ambiguous (a : Ambiguous)
  | valueMissing (s : Switch)
  | valueUnwanted (s : Switch) (value : String)
  | notAnInteger (s : Switch) (value : String)
  | notALevel (s : Switch) (value : String)
  | textAfterFile
  | fileAfterText
  | noSource
  | unrecognized (args : List String)
  deriving DecidableEq, Repr

def textLabel : String := "text"

def UsageError.message : UsageError → String
  | .ambiguous a => "ambiguous option: " ++ a.arg ++ " could match " ++ ", ".intercalate a.candidates
  | .valueMissing s => "argument " ++ s.label ++ ": expected one argument"
  | .valueUnwanted s value =>
    "argument " ++ s.label ++ ": ignored explicit argument " ++ Text.quoted value
  | .notAnInteger s value => "argument " ++ s.label ++ ": invalid int value: " ++ Text.quoted value
  | .notALevel s value =>
    "argument " ++ s.label ++ ": invalid choice: " ++ Text.quoted value ++ " (choose from " ++
      ", ".intercalate (Log.Level.all.map (fun l => Text.quoted l.name)) ++ ")"
  | .textAfterFile =>
    "argument " ++ textLabel ++ ": not allowed with argument " ++ Switch.label .file
  | .fileAfterText =>
    "argument " ++ Switch.label .file ++ ": not allowed with argument " ++ textLabel
  | .noSource => "one of the arguments " ++ textLabel ++ " " ++ Switch.label .file ++ " is required"
  | .unrecognized args => "unrecognized arguments: " ++ " ".intercalate args

/-- Why no request comes of a command line. -/
inductive Refusal where
  | help
  | usage (e : UsageError)
  deriving DecidableEq, Repr

/-- What has been gathered from the words so far. -/
structure Draft where
  /-- Whether the place of the text has been passed. -/
  textPassed : Bool := false
  text : Option String := none
  file : Option (Given String) := none
  config : Option (Given String) := none
  plain : Bool := false
  x : Given Int := .value 0
  y : Given Int := .value 0
  colour : Option (Given Int) := none
  json : Bool := false
  level : Given Log.Level := .value .warning
  leftOver : List String := []

namespace Draft

def refuse {α : Type} (e : UsageError) : Except Refusal α := .error (.usage e)

def takeText (d : Draft) (s : String) : Except Refusal Draft :=
  if d.file.isSome then refuse .textAfterFile
  else .ok { d with textPassed := true, text := some s }

/-- Blanks around a number do no harm. -/
def integer (s : Switch) (value : String) : Except Refusal Int :=
  match Numeral.integer? (Unicode.trim Unicode.isMargin value.toList) with
  | some n => .ok n
  | none => refuse (.notAnInteger s value)

def readLevel (value : String) : Except Refusal Log.Level :=
  match Log.Level.ofName? value with
  | some level => .ok level
  | none => refuse (.notALevel .logLevel value)

def takeFlag (d : Draft) : Switch → Except Refusal Draft
  | .plain => .ok { d with plain := true }
  | .json => .ok { d with json := true }
  | .help => .error .help
  | _ => .ok d

def takeValue (d : Draft) (s : Switch) (value : String) : Except Refusal Draft :=
  let given := Given.ofArg value
  match s with
  | .file =>
    if d.text.isSome then refuse .fileAfterText
    else .ok { d with file := some (given.map normalPath) }
  | .config => .ok { d with config := some (given.map normalPath) }
  | .x => do return { d with x := ← given.mapExcept (integer s) }
  | .y => do return { d with y := ← given.mapExcept (integer s) }
  | .colour => do return { d with colour := some (← given.mapExcept (integer s)) }
  | .logLevel => do return { d with level := ← given.mapExcept readLevel }
  | .help | .plain | .json => refuse (.valueUnwanted s value)

def leave (d : Draft) (arg : String) : Draft := { d with leftOver := d.leftOver ++ [arg] }

/-- A separator next to the text belongs to it, on either side; otherwise it is left over. -/
def gather (d : Draft) : List Word → Except Refusal Draft
  | [] => .ok d
  | .switch s (some value) :: rest => (d.takeValue s value).bind (gather · rest)
  | .switch s none :: .plain value :: rest =>
    if s.takesValue then (d.takeValue s value).bind (gather · rest)
    else (d.takeFlag s).bind (gather · (.plain value :: rest))
  | .switch s none :: rest =>
    if s.takesValue then refuse (.valueMissing s) else (d.takeFlag s).bind (gather · rest)
  | .unknown arg :: rest => gather (d.leave arg) rest
  | .plain arg :: .separator :: rest =>
    if d.textPassed then gather ((d.leave arg).leave separatorArg) rest
    else (d.takeText arg).bind (gather · rest)
  | .plain arg :: rest =>
    if d.textPassed then gather (d.leave arg) rest else (d.takeText arg).bind (gather · rest)
  | .separator :: .plain arg :: rest =>
    if d.textPassed then gather (d.leave separatorArg) (.plain arg :: rest)
    else (d.takeText arg).bind (gather · rest)
  | .separator :: rest =>
    if d.textPassed then gather (d.leave separatorArg) rest else gather { d with textPassed := true } rest

def source? (d : Draft) : Option Source :=
  match d.text, d.file with
  | some s, _ => some (.text s)
  | none, some path => some (.file path)
  | none, none => none

def finish (d : Draft) : Except Refusal Request :=
  match d.source?, d.leftOver with
  | none, _ => refuse .noSource
  | some source, [] =>
    .ok { source, config := d.config, plain := d.plain, x := d.x, y := d.y, colour := d.colour,
          json := d.json, level := d.level }
  | some _, args => refuse (.unrecognized args)

end Draft

def Request.ofArgs (args : List String) : Except Refusal Request :=
  match words args with
  | .error a => Draft.refuse (.ambiguous a)
  | .ok ws => do (← Draft.gather {} ws).finish

end C64Screen.CommandLine
