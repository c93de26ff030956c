import C64Screen.Text.Numeral

/-!
# Reading decimals

The digits of a data format, which are those of ASCII alone, and the float nearest to a decimal.
-/

namespace C64Screen.Decimal

def isDigit (c : Char) : Bool := '0' ≤ c && c ≤ '9'

def digit? (c : Char) : Option Nat := if isDigit c then some (c.toNat - 48) else none

/-- The values of characters that are digits. -/
def digitValues (cs : List Char) : List Nat := cs.map (fun c => c.toNat - 48)

/-- An exponent beyond those of any float makes no difference, so it is cut down before it is used. -/
def nearest (negative : Bool) (digits : List Nat) (exponent : Int) : Float :=
  let least : Int := -400 - (digits.length : Int)
  let e := max least (min 400 exponent)
  let x := Float.ofScientific (Numeral.ofDigits digits) (e < 0) e.natAbs
  if negative then -x else x

end C64Screen.Decimal
