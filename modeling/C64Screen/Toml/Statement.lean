import C64Screen.Toml.Moment
import C64Screen.Toml.Number
import C64Screen.Toml.Table

/-!
# Statements of a document

A document is a sequence of lines; a line holds a statement, a comment, both or neither. A statement gives
a value to a key, opens a table, or adds a table to an array of tables. Nested values are read with fuel,
of which the length of the text is always enough.
-/

namespace C64Screen.Toml

/-- The line feed behind a comment, or the end of the text. -/
def skipComment : List Char → Option (List Char)
  | '#' :: rest =>
    if (rest.takeWhile (· ≠ '\n')).all isTextChar then some (rest.dropWhile (· ≠ '\n')) else none
  | cs => some cs

/-- Passes over blanks, line feeds and comments. -/
def skipLines : (inComment : Bool) → List Char → Option (List Char)
  | _, [] => some []
  | true, c :: rest =>
    if c = '\n' then skipLines false rest
    else if isTextChar c then skipLines true rest
    else none
  | false, c :: rest =>
    if isBlank c || c = '\n' then skipLines false rest
    else if c = '#' then skipLines true rest
    else some (c :: rest)

def isBareKeyChar (c : Char) : Bool :=
  ('a' ≤ c && c ≤ 'z') || ('A' ≤ c && c ≤ 'Z') || ('0' ≤ c && c ≤ '9') || c = '-' || c = '_'

/-- A key is bare or quoted; a quoted key is a text of one line. -/
def keyPart? : List Char → Reading String
  | '"' :: rest => (basic rest).map (fun (k, rest) => (String.ofList k, rest))
  | '\'' :: rest => (literal rest).map (fun (k, rest) => (String.ofList k, rest))
  | cs =>
    let bare := cs.takeWhile isBareKeyChar
    if bare.isEmpty then none else some (String.ofList bare, cs.dropWhile isBareKeyChar)

def pathFrom? : Nat → List Char → Reading Path
  | 0, _ => none
  | fuel + 1, cs =>
    match keyPart? cs with
    | none => none
    | some (k, rest) =>
      match skipBlanks rest with
      | '.' :: rest => (pathFrom? fuel (skipBlanks rest)).map (fun (ks, rest) => (k :: ks, rest))
      | rest => some ([k], rest)

/-- Keys with points between them, and the blanks behind the last one. -/
def path? (cs : List Char) : Reading Path := pathFrom? (cs.length + 1) cs

def startsWith (word : String) (cs : List Char) : Bool := word.toList.isPrefixOf cs

/-- A value that holds no other value. -/
def scalarValue (cs : List Char) : Attempt Value :=
  if cs.head? = some '"' ∨ cs.head? = some '\'' then
    Reading.orMalformed ((text? cs).map (fun (s, rest) => (.text (String.ofList s), rest)))
  else if startsWith "true" cs then .ok (.bool true, cs.drop 4)
  else if startsWith "false" cs then .ok (.bool false, cs.drop 5)
  else
    match moment cs with
    | .found v rest => .ok (v, rest)
    | .invalid => .error .malformed
    | .none => number cs

mutual

def value : Nat → List Char → Attempt Value
  | 0, _ => .error .malformed
  | fuel + 1, cs =>
    match cs with
    | '[' :: rest =>
      match skipLines false rest with
      | none => .error .malformed
      | some (']' :: rest) => .ok (.list [], rest)
      | some rest => (items fuel rest).map (fun (vs, rest) => (.list vs, rest))
    | '{' :: rest =>
      match skipBlanks rest with
      | '}' :: rest => .ok (.table [], rest)
      | rest => (pairs fuel .empty rest).map (fun (t, rest) => (.table t.entries, rest))
    | _ => scalarValue cs

/-- The items of an array up to its closing bracket. A comma may follow the last. -/
def items : Nat → List Char → Attempt (List Value)
  | 0, _ => .error .malformed
  | fuel + 1, cs =>
    match value fuel cs with
    | .error fault => .error fault
    | .ok (v, rest) =>
      match skipLines false rest with
      | some (']' :: rest) => .ok ([v], rest)
      | some (',' :: rest) =>
        match skipLines false rest with
        | none => .error .malformed
        | some (']' :: rest) => .ok ([v], rest)
        | some rest => (items fuel rest).map (fun (vs, rest) => (v :: vs, rest))
      | _ => .error .malformed

/-- Adds the pairs up to the closing brace to a table. No comma may follow the last. -/
def pairs : Nat → Inline → List Char → Attempt Inline
  | 0, _, _ => .error .malformed
  | fuel + 1, t, cs =>
    match path? cs with
    | some (path, '=' :: rest) =>
      match value fuel (skipBlanks rest) with
      | .error fault => .error fault
      | .ok (v, rest) =>
        match t.add? path v, skipBlanks rest with
        | some t, '}' :: rest => .ok (t, rest)
        | some t, ',' :: rest => pairs fuel t (skipBlanks rest)
        | _, _ => .error .malformed
    | _ => .error .malformed

end

inductive Statement where
  | assign (path : Path) (v : Value)
  | table (path : Path)
  | arrayItem (path : Path)

def statement (cs : List Char) : Attempt Statement :=
  match cs with
  | '[' :: '[' :: rest =>
    match path? (skipBlanks rest) with
    | some (path, ']' :: ']' :: rest) => .ok (.arrayItem path, rest)
    | _ => .error .malformed
  | '[' :: rest =>
    match path? (skipBlanks rest) with
    | some (path, ']' :: rest) => .ok (.table path, rest)
    | _ => .error .malformed
  | _ =>
    match path? cs with
    | some (path, '=' :: rest) =>
      (value (2 * rest.length + 1) (skipBlanks rest)).map (fun (v, rest) => (.assign path v, rest))
    | _ => .error .malformed

/-- The rest behind the end of a line. -/
def endLine? (cs : List Char) : Option (List Char) :=
  match skipComment (skipBlanks cs) with
  | some [] => some []
  | some ('\n' :: rest) => some rest
  | _ => none

end C64Screen.Toml
