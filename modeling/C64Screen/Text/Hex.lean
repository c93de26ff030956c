/-!
# Hexadecimal digits

Written in lower case, read in either case.
-/

namespace C64Screen.Text

def hexDigit (n : Nat) : Char := if n < 10 then Char.ofNat (48 + n) else Char.ofNat (87 + n)

/-- The last `places` hexadecimal digits of a number. -/
def hex : Nat → Nat → List Char
  | 0, _ => []
  | places + 1, n => hex places (n / 16) ++ [hexDigit (n % 16)]

def hexValue? (c : Char) : Option Nat :=
  if '0' ≤ c && c ≤ '9' then some (c.toNat - 48)
  else if 'a' ≤ c && c ≤ 'f' then some (c.toNat - 87)
  else if 'A' ≤ c && c ≤ 'F' then some (c.toNat - 55)
  else none

/-- The number that digits denote in a base; a digit that is too large for the base denotes none. -/
def baseNumber? (base : Nat) (cs : List Char) : Option Nat :=
  cs.foldlM (fun n c => (hexValue? c).bind (fun d => if d < base then some (base * n + d) else none)) 0

def hexNumber? (cs : List Char) : Option Nat := baseNumber? 16 cs

end C64Screen.Text
