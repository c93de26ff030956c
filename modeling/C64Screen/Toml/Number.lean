import C64Screen.Decimal.Reading
import C64Screen.Toml.Text
import C64Screen.Value

/-!
# Numbers of a document

Integers are decimal, without leading zeros, or without a sign in base 16, 8 or 2. A fraction or an
exponent makes a number a float. Single underscores may stand between digits. The digits of a decimal
integer are limited in number, and a longer one puts an end to the reading where it stands.
-/

namespace C64Screen.Toml

open Decimal (isDigit digitValues)

def isDigitOf (base : Nat) (c : Char) : Bool := (Text.baseNumber? base [c]).isSome

def Reading.consBoth (c : Char) (r : List Char × List Char) : List Char × List Char := (c :: r.1, r.2)

/-- The digits that continue a run, without the underscores, and the rest. -/
def moreDigits (p : Char → Bool) : List Char → List Char × List Char
  | [] => ([], [])
  | '_' :: c :: rest =>
    if p c then Reading.consBoth c (moreDigits p rest) else ([], '_' :: c :: rest)
  | c :: rest => if p c then Reading.consBoth c (moreDigits p rest) else ([], c :: rest)

/-- A run of at least one digit. -/
def digits? (p : Char → Bool) : List Char → Reading (List Char)
  | c :: rest => if p c then some (Reading.consBoth c (moreDigits p rest)) else none
  | [] => none

/-- The base that a letter behind a leading zero announces. -/
def base? : Char → Option Nat
  | 'x' => some 16
  | 'o' => some 8
  | 'b' => some 2
  | _ => none

def basedInteger? : List Char → Reading Value
  | '0' :: letter :: rest =>
    match base? letter with
    | none => none
    | some base =>
      match digits? (isDigitOf base) rest with
      | some (digits, rest) => (Text.baseNumber? base digits).map (fun (n : Nat) => (.int n, rest))
      | none => none
  | _ => none

def takeSign : List Char → Bool × List Char
  | '-' :: rest => (true, rest)
  | '+' :: rest => (false, rest)
  | cs => (false, cs)

/-- The digits in front of the point. A zero stands alone. -/
def whole? : List Char → Reading (List Char)
  | '0' :: rest => some (['0'], rest)
  | cs => digits? isDigit cs

def fraction : List Char → List Char × List Char
  | '.' :: rest => (digits? isDigit rest).getD ([], '.' :: rest)
  | cs => ([], cs)

def exponent? : List Char → Reading Int
  | e :: rest =>
    if e = 'e' ∨ e = 'E' then
      let (negative, rest) := takeSign rest
      (digits? isDigit rest).map fun (digits, rest) =>
        let n : Int := Numeral.ofDigits (digitValues digits)
        (if negative then -n else n, rest)
    else none
  | [] => none

/-- Why a document cannot be read. -/
inductive Fault where
  | malformed
  | tooManyDigits (count : Nat)
  deriving DecidableEq, Repr

/-- A reader that tells why it fails. -/
abbrev Attempt (α : Type) := Except Fault (α × List Char)

def Reading.orMalformed {α : Type} : Reading α → Attempt α
  | some r => .ok r
  | none => .error .malformed

def decimalInteger (negative : Bool) (digits : List Nat) : Except Fault Value :=
  if digits.length ≤ Numeral.mostDigits then
    let n : Int := Numeral.ofDigits digits
    .ok (.int (if negative then -n else n))
  else .error (.tooManyDigits digits.length)

/-- There is no answer where no decimal number begins. -/
def decimalNumber? (cs : List Char) : Option (Attempt Value) :=
  let (negative, unsigned) := takeSign cs
  match whole? unsigned with
  | none => none
  | some (whole, rest) =>
    let (decimals, rest) := fraction rest
    let digits := digitValues (whole ++ decimals)
    match exponent? rest with
    | some (e, rest) => some (.ok (.float (Decimal.nearest negative digits (e - decimals.length)), rest))
    | none =>
      if decimals.isEmpty then some ((decimalInteger negative digits).map (·, rest))
      else some (.ok (.float (Decimal.nearest negative digits (-decimals.length)), rest))

/-- Infinity and what is not a number, either with or without a sign. -/
def special? (cs : List Char) : Reading Value :=
  let (negative, rest) := takeSign cs
  let signed (x : Float) : Value := .float (if negative then -x else x)
  match rest with
  | 'i' :: 'n' :: 'f' :: rest => some (signed (1.0 / 0.0), rest)
  | 'n' :: 'a' :: 'n' :: rest => some (signed (0.0 / 0.0), rest)
  | _ => none

def number (cs : List Char) : Attempt Value :=
  match basedInteger? cs, decimalNumber? cs with
  | some r, _ => .ok r
  | none, some r => r
  | none, none => (special? cs).orMalformed

end C64Screen.Toml
