/-!
# Shortest decimals

Of the decimals that read back as a given binary fraction, the one with the fewest digits, and of those
the nearest. All arithmetic is exact: the value and the two ends of the interval that rounds to it are
natural numbers over one denominator. On a decimal grid only the two neighbours of the value need to be
tested, because a point of the grid inside the interval leaves one of them inside.
-/

namespace C64Screen

/-- The decimal `digits * 10 ^ exponent`. -/
structure Decimal where
  digits : Nat
  exponent : Int
  deriving DecidableEq, Repr

namespace Decimal

def twoTo (n : Nat) : Nat := Nat.pow 2 n

def tenTo (n : Nat) : Nat := Nat.pow 10 n

/-- The fraction `middle / unit` and the interval of what rounds to it. -/
structure Interval where
  low : Nat
  middle : Nat
  high : Nat
  unit : Nat
  /-- The ends round to the value too. -/
  closed : Bool

/-- The interval around `m * 2 ^ q`. The next value below a least mantissa is only half a step away,
unless the exponent is already least. -/
def Interval.around (m : Nat) (q : Int) : Interval :=
  let below := if m = twoTo 52 ∧ -1074 < q then 1 else 2
  let scale := twoTo (q - 2).toNat
  { low := (4 * m - below) * scale
    middle := 4 * m * scale
    high := (4 * m + 2) * scale
    unit := twoTo (2 - q).toNat
    closed := m % 2 = 0 }

/-- The same interval in units of `10 ^ p`. -/
def Interval.inUnitsOf (i : Interval) (p : Int) : Interval :=
  let up := tenTo (-p).toNat
  { i with low := i.low * up, middle := i.middle * up, high := i.high * up, unit := i.unit * tenTo p.toNat }

def Interval.contains (i : Interval) (n : Nat) : Bool :=
  if i.closed then i.low ≤ n * i.unit && n * i.unit ≤ i.high
  else i.low < n * i.unit && n * i.unit < i.high

/-- The neighbour of the value on the grid of whole units that lies in the interval, the nearer if both
do, and of two equally near the even one. -/
def Interval.gridPoint? (i : Interval) : Option Nat :=
  let floor := i.middle / i.unit
  match i.contains floor, i.contains (floor + 1) with
  | false, false => none
  | true, false => some floor
  | false, true => some (floor + 1)
  | true, true =>
    let rest := 2 * (i.middle % i.unit)
    if rest < i.unit then some floor
    else if i.unit < rest then some (floor + 1)
    else if floor % 2 = 0 then some floor else some (floor + 1)

def digitCount (n : Nat) : Nat := (Nat.toDigits 10 n).length

/-- The exponent of the leading digit of a positive fraction. -/
def leadingExponent (numerator denominator : Nat) : Int :=
  if denominator ≤ numerator then (digitCount (numerator / denominator) : Int) - 1
  else
    let places := digitCount (denominator / numerator)
    if denominator ≤ numerator * tenTo (places - 1) then 1 - (places : Int) else -(places : Int)

def dropZeros (d : Decimal) : Nat → Decimal
  | 0 => d
  | fuel + 1 => if d.digits % 10 = 0 then dropZeros ⟨d.digits / 10, d.exponent + 1⟩ fuel else d

/-- Seventeen digits always suffice for a 53-bit mantissa. -/
def mostDigits : Nat := 17

def shortest (m : Nat) (q : Int) : Decimal :=
  let i := Interval.around m q
  let lead := leadingExponent i.middle i.unit
  let onGrid (n : Nat) : Option Decimal :=
    let p := lead - n
    ((i.inUnitsOf p).gridPoint?).map (⟨·, p⟩)
  match (List.range mostDigits).findSome? onGrid with
  | some d => dropZeros d mostDigits
  | none => ⟨0, 0⟩

end Decimal

end C64Screen
