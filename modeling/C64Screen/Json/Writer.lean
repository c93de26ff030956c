import C64Screen.Value.Shown

/-!
# Writing JSON

On one line, with a blank behind every comma and colon. In a text only the quote, the backslash and the
control characters below U+0020 are escaped. Floats without digits are written as words.
-/

namespace C64Screen.Json

def escape (c : Char) : List Char :=
  if c = '"' then ['\\', '"']
  else if c = '\\' then ['\\', '\\']
  else if c = '\n' then ['\\', 'n']
  else if c = '\r' then ['\\', 'r']
  else if c = '\t' then ['\\', 't']
  else if c = '\x08' then ['\\', 'b']
  else if c = '\x0c' then ['\\', 'f']
  else if c.toNat < 0x20 then '\\' :: 'u' :: Text.hex 4 c.toNat
  else [c]

def writeText (s : String) : List Char := '"' :: (s.toList.flatMap escape ++ ['"'])

def writeFloat (x : Float) : List Char :=
  if x.isNaN then "NaN".toList
  else if x.isInf then (if x < 0 then "-Infinity" else "Infinity").toList
  else (Decimal.ofFloat Decimal.quoted x).toList

mutual

def write : Value → List Char
  | .null => ['n', 'u', 'l', 'l']
  | .bool true => ['t', 'r', 'u', 'e']
  | .bool false => ['f', 'a', 'l', 's', 'e']
  | .int n => Numeral.written n
  | .float x => writeFloat x
  | .text s => writeText s
  | .list items => '[' :: (writeItems items ++ [']'])
  | .table entries => '{' :: (writeEntries entries ++ ['}'])
  | .moment written => writeText written

def writeItems : List Value → List Char
  | [] => []
  | [v] => write v
  | v :: rest => write v ++ ',' :: ' ' :: writeItems rest

def writeEntries : List (String × Value) → List Char
  | [] => []
  | [(k, v)] => writeText k ++ ':' :: ' ' :: write v
  | (k, v) :: rest => writeText k ++ ':' :: ' ' :: (write v ++ ',' :: ' ' :: writeEntries rest)

end

def line (v : Value) : String := String.ofList (write v)

end C64Screen.Json
