import C64Screen.Unicode.DecimalDigit

/-!
# Words of a command line

What each argument is, before any of them is acted upon. A long option may be cut short as long as one
option alone begins with what is left, and a value may follow behind an equals sign. A lone hyphen,
a negative number and anything with a blank in it is plain even if it begins with a hyphen, and so is
everything behind the first `--`.
-/

namespace C64Screen.CommandLine

inductive Switch where
  | help
  | file
  | config
  | plain
  | x
  | y
  | colour
  | json
  | logLevel
  deriving DecidableEq, Repr

/-- The spellings of the options, in the order in which they are listed. -/
def spellings : List (String × Switch) :=
  [("-h", .help), ("--help", .help), ("--file", .file), ("--config", .config), ("--plain", .plain),
   ("--x", .x), ("--y", .y), ("--colour", .colour), ("--json", .json), ("--log-level", .logLevel)]

/-- How messages name an option. -/
def Switch.label : Switch → String
  | .help => "-h/--help"
  | .file => "--file"
  | .config => "--config"
  | .plain => "--plain"
  | .x => "--x"
  | .y => "--y"
  | .colour => "--colour"
  | .json => "--json"
  | .logLevel => "--log-level"

def Switch.takesValue : Switch → Bool
  | .help | .plain | .json => false
  | _ => true

inductive Word where
  | plain (arg : String)
  /-- The first `--`. -/
  | separator
  | switch (s : Switch) (attached : Option String)
  | unknown (arg : String)
  deriving DecidableEq, Repr

/-- An abbreviation of more than one option. -/
structure Ambiguous where
  arg : String
  candidates : List String
  deriving DecidableEq, Repr

def separatorArg : String := "--"

/-- The part in front of the first equals sign, and the part behind it. -/
def splitValue (arg : String) : String × Option String :=
  let cs := arg.toList
  match cs.dropWhile (· ≠ '=') with
  | _ :: value => (String.ofList (cs.takeWhile (· ≠ '=')), some (String.ofList value))
  | [] => (arg, none)

def spelled? (name : String) : Option Switch := spellings.lookup name

/-- One line feed may follow. -/
def dropLineFeed (cs : List Char) : List Char :=
  match cs.reverse with
  | '\n' :: rest => rest.reverse
  | _ => cs

/-- A hyphen and digits, with or without a point in front of the last of them. -/
def isNegativeNumber (cs : List Char) : Bool :=
  match dropLineFeed cs with
  | '-' :: body =>
    let whole := body.takeWhile Unicode.isDigit
    match body.dropWhile Unicode.isDigit with
    | [] => !whole.isEmpty
    | '.' :: decimals => !decimals.isEmpty && decimals.all Unicode.isDigit
    | _ => false
  | _ => false

/-- A value behind `-h` that is not wanted. Further letters `h` ask for help again. -/
def unwanted? : List Char → Option String
  | [] => none
  | 'h' :: rest => unwanted? rest
  | rest => some (String.ofList rest)

/-- What stands behind `-h` in one argument with it. An equals sign announces a value, be it empty. -/
def helpWord : List Char → Word
  | ['='] => .switch .help (some "")
  | '=' :: value => .switch .help (unwanted? value)
  | rest => .switch .help (unwanted? rest)

def abbreviated (name : String) : List (String × Switch) :=
  spellings.filter (fun s => name.toList.isPrefixOf s.1.toList)

/-- An argument that begins with a hyphen but with no option. -/
def leftover (arg : String) : Word :=
  if isNegativeNumber arg.toList || arg.toList.contains ' ' then .plain arg else .unknown arg

def classify (arg : String) : Except Ambiguous Word :=
  let (name, value) := splitValue arg
  match spelled? arg, spelled? name, arg.toList with
  | some s, _, _ => .ok (.switch s none)
  | none, _, ['-'] => .ok (.plain arg)
  | none, _, '-' :: 'h' :: rest => .ok (helpWord rest)
  | none, some s, _ => .ok (.switch s value)
  | none, none, '-' :: '-' :: _ =>
    match abbreviated name with
    | [] => .ok (leftover arg)
    | [(_, s)] => .ok (.switch s value)
    | several => .error ⟨arg, several.map Prod.fst⟩
  | none, none, '-' :: _ => .ok (leftover arg)
  | none, none, _ => .ok (.plain arg)

def words : List String → Except Ambiguous (List Word)
  | [] => .ok []
  | arg :: rest =>
    if arg = separatorArg then .ok (.separator :: rest.map .plain)
    else do
      let word ← classify arg
      return word :: (← words rest)

end C64Screen.CommandLine
