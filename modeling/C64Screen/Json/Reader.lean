import C64Screen.Decimal.Reading
import C64Screen.Text.Hex
import C64Screen.Value

/-!
# Reading JSON

A number without fraction and exponent is an integer of any size, every other number a float. The words
`Infinity`, with or without a hyphen, and `NaN` stand for the floats that no digits denote. Of entries with
one key the last gives the value. A reader returns what it has read together with the rest of the text.
-/

namespace C64Screen.Json

open Decimal (isDigit digitValues)

def isSpace (c : Char) : Bool := c = ' ' || c = '\t' || c = '\n' || c = '\r'

def skipSpace (cs : List Char) : List Char := cs.dropWhile isSpace

/-- The character of two halves in the surrogate ranges. -/
def joinSurrogates? (high low : Nat) : Option Char :=
  if 0xD800 ≤ high ∧ high < 0xDC00 ∧ 0xDC00 ≤ low ∧ low < 0xE000 then
    some (Char.ofNat (0x10000 + (high - 0xD800) * 0x400 + (low - 0xDC00)))
  else none

def simpleEscape? : Char → Option Char
  | '"' => some '"'
  | '\\' => some '\\'
  | '/' => some '/'
  | 'b' => some '\x08'
  | 'f' => some '\x0c'
  | 'n' => some '\n'
  | 'r' => some '\r'
  | 't' => some '\t'
  | _ => none

def consText (c : Char) : Option (List Char × List Char) → Option (List Char × List Char)
  | some (text, rest) => some (c :: text, rest)
  | none => none

/-- Reads a text behind its opening quote. -/
def textTail : List Char → Option (List Char × List Char)
  | [] => none
  | '"' :: rest => some ([], rest)
  | '\\' :: 'u' :: a :: b :: c :: d :: rest =>
    match Text.hexNumber? [a, b, c, d] with
    | none => none
    | some n =>
      if n < 0xD800 ∨ 0xE000 ≤ n then consText (Char.ofNat n) (textTail rest)
      else
        match rest with
        | '\\' :: 'u' :: e :: f :: g :: h :: more =>
          match (Text.hexNumber? [e, f, g, h]).bind (joinSurrogates? n) with
          | some c => consText c (textTail more)
          | none => none
        | _ => none
  | '\\' :: e :: rest =>
    match simpleEscape? e with
    | some c => consText c (textTail rest)
    | none => none
  | c :: rest => if c.toNat < 0x20 then none else consText c (textTail rest)

def natural (cs : List Char) : Nat := Numeral.ofDigits (digitValues cs)

/-- Reads the exponent behind the digits of a number. -/
def exponent? : List Char → Option (Int × List Char)
  | e :: rest =>
    if e = 'e' ∨ e = 'E' then
      let (negative, rest) :=
        match rest with
        | '-' :: more => (true, more)
        | '+' :: more => (false, more)
        | _ => (false, rest)
      let digits := rest.takeWhile isDigit
      if digits.isEmpty then none
      else
        let n : Int := natural digits
        some (if negative then -n else n, rest.dropWhile isDigit)
    else none
  | [] => none

def number? (negative : Bool) (cs : List Char) : Option (Value × List Char) :=
  let whole := cs.takeWhile isDigit
  let rest := cs.dropWhile isDigit
  if whole.isEmpty || (whole.length > 1 && whole.head? = some '0') then none
  else
    let (fraction, rest) :=
      match rest with
      | '.' :: more =>
        if (more.takeWhile isDigit).isEmpty then ([], rest)
        else (more.takeWhile isDigit, more.dropWhile isDigit)
      | _ => ([], rest)
    match exponent? rest with
    | some (e, rest) =>
      some (.float (Decimal.nearest negative (digitValues (whole ++ fraction)) (e - fraction.length)), rest)
    | none =>
      if fraction.isEmpty then
        let n : Int := natural whole
        some (.int (if negative then -n else n), rest)
      else
        some (.float (Decimal.nearest negative (digitValues (whole ++ fraction)) (-fraction.length)), rest)

def signedNumber? : List Char → Option (Value × List Char)
  | '-' :: rest => number? true rest
  | cs => number? false cs

def dropPrefix? (word : List Char) (cs : List Char) : Option (List Char) :=
  if word.isPrefixOf cs then some (cs.drop word.length) else none

def infinity : Float := 1.0 / 0.0

/-- The values that have words of their own. -/
def words : List (List Char × Value) :=
  [("null".toList, .null), ("true".toList, .bool true), ("false".toList, .bool false),
   ("NaN".toList, .float (0.0 / 0.0)), ("Infinity".toList, .float infinity),
   ("-Infinity".toList, .float (-infinity))]

def word? (cs : List Char) : Option (Value × List Char) :=
  words.findSome? (fun (word, v) => (dropPrefix? word cs).map (v, ·))

def assignAll (entries : List (String × Value)) : List (String × Value) :=
  entries.foldl (fun seen e => Value.assign e.1 e.2 seen) []

mutual

/-- Reads a value. Every call on the way to a part of a text takes one unit of fuel, and no character is
the first of more than two such calls. -/
def value : Nat → List Char → Option (Value × List Char)
  | 0, _ => none
  | fuel + 1, cs =>
    match skipSpace cs with
    | '"' :: rest => (textTail rest).map (fun (s, rest) => (.text (String.ofList s), rest))
    | '[' :: rest =>
      match skipSpace rest with
      | ']' :: rest => some (.list [], rest)
      | rest => (items fuel rest).map (fun (vs, rest) => (.list vs, rest))
    | '{' :: rest =>
      match skipSpace rest with
      | '}' :: rest => some (.table [], rest)
      | rest => (members fuel rest).map (fun (es, rest) => (.table (assignAll es), rest))
    | rest => (word? rest).or (signedNumber? rest)

/-- Reads the items of a list up to its closing bracket. -/
def items : Nat → List Char → Option (List Value × List Char)
  | 0, _ => none
  | fuel + 1, cs =>
    match value fuel cs with
    | none => none
    | some (v, rest) =>
      match skipSpace rest with
      | ',' :: rest => (items fuel rest).map (fun (vs, rest) => (v :: vs, rest))
      | ']' :: rest => some ([v], rest)
      | _ => none

/-- Reads the entries of a table up to its closing brace. -/
def members : Nat → List Char → Option (List (String × Value) × List Char)
  | 0, _ => none
  | fuel + 1, cs =>
    match skipSpace cs with
    | '"' :: rest =>
      match textTail rest with
      | none => none
      | some (k, rest) =>
        match skipSpace rest with
        | ':' :: rest =>
          match value fuel rest with
          | none => none
          | some (v, rest) =>
            match skipSpace rest with
            | ',' :: rest =>
              (members fuel rest).map (fun (es, rest) => ((String.ofList k, v) :: es, rest))
            | '}' :: rest => some ([(String.ofList k, v)], rest)
            | _ => none
        | _ => none
    | _ => none

end

/-- Reads a text that holds one value and nothing else but white space. -/
def read? (cs : List Char) : Option Value :=
  match value (2 * cs.length + 1) cs with
  | some (v, rest) => if (skipSpace rest).isEmpty then some v else none
  | none => none

end C64Screen.Json
