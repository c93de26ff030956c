import C64Screen.Decimal.Shortest

/-!
# Decimal notation of floats

How a float is written where a message quotes one: with the fewest digits that read back, positionally
within a range of exponents and in scientific notation outside it.
-/

namespace C64Screen.Decimal

/-- Which leading exponents are written positionally, and the least number of digits of the exponent in
scientific notation. -/
structure Notation where
  least : Int
  most : Int
  exponentDigits : Nat

/-- From `0.0001` up to below `10^16` positionally; `1e-05` and `1e+16` beyond. -/
def quoted : Notation := ⟨-4, 15, 2⟩

def zeros (n : Nat) : List Char := List.replicate n '0'

/-- Digits around the point; `before` of them stand to its left. A whole number keeps one zero behind
the point. -/
def positional (digits : List Char) (before : Int) : List Char :=
  if before ≤ 0 then '0' :: '.' :: (zeros (-before).toNat ++ digits)
  else
    let n := before.toNat
    if digits.length ≤ n then digits ++ zeros (n - digits.length) ++ ['.', '0']
    else digits.take n ++ '.' :: digits.drop n

def scientific (f : Notation) (digits : List Char) (exponent : Int) : List Char :=
  let size := Nat.toDigits 10 exponent.natAbs
  let mantissa :=
    match digits with
    | d :: rest@(_ :: _) => d :: '.' :: rest
    | _ => digits
  mantissa ++ 'e' :: (if exponent < 0 then '-' else '+') ::
    (zeros (f.exponentDigits - size.length) ++ size)

def written (f : Notation) (d : Decimal) : List Char :=
  let digits := Nat.toDigits 10 d.digits
  let lead := d.exponent + digits.length - 1
  if f.least ≤ lead ∧ lead ≤ f.most then positional digits (lead + 1) else scientific f digits lead

/-- The magnitude that a bit pattern without its sign encodes. -/
def magnitude (f : Notation) (bits : Nat) : List Char :=
  let e : Nat := bits / twoTo 52
  let m : Nat := bits % twoTo 52
  if e = 2047 then if m = 0 then ['i', 'n', 'f'] else ['n', 'a', 'n']
  else if e = 0 ∧ m = 0 then ['0', '.', '0']
  else if e = 0 then (shortest m (-1074)).written f
  else (shortest (m + twoTo 52) ((e : Int) - 1075)).written f

/-- A zero keeps its sign; what is not a number has none. -/
def ofFloat (f : Notation) (x : Float) : String :=
  let bits := x.toBits.toNat
  let body := magnitude f (bits % twoTo 63)
  String.ofList (if twoTo 63 ≤ bits ∧ !x.isNaN then '-' :: body else body)

end C64Screen.Decimal
