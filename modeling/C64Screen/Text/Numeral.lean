import C64Screen.Unicode.DecimalDigit

/-!
# Integer numerals

An integer as it is written in a settings text or on a command line: an optional sign, then decimal
digits of any script, which single underscores may separate. A numeral is read whole or not at all.
-/

namespace C64Screen.Numeral

open Unicode

/-- The values of the digits. An underscore stands between two digits, never at an end and never next to
another. -/
def digits? : List Char → Option (List Nat)
  | [] => none
  | c :: rest =>
    match digitValue? c with
    | none => none
    | some d =>
      match rest with
      | [] => some [d]
      | '_' :: more => (digits? more).map (d :: ·)
      | more => (digits? more).map (d :: ·)

def ofDigits (ds : List Nat) : Nat := ds.foldl (fun n d => 10 * n + d) 0

/-- Longer numerals are refused. -/
def mostDigits : Nat := 4300

def natural? (cs : List Char) : Option Nat :=
  match digits? cs with
  | some ds => if ds.length ≤ mostDigits then some (ofDigits ds) else none
  | none => none

def integer? : List Char → Option Int
  | '-' :: body => (natural? body).map (fun n => -(n : Int))
  | '+' :: body => (natural? body).map Int.ofNat
  | body => (natural? body).map Int.ofNat

/-- Plain decimal, with a sign only below zero. -/
def written : Int → List Char
  | .ofNat n => Nat.toDigits 10 n
  | .negSucc n => '-' :: Nat.toDigits 10 (n + 1)

def text (n : Int) : String := String.ofList (written n)

/-- Longer numbers are not written out in messages either. -/
def isShort (n : Int) : Bool := (Nat.toDigits 10 n.natAbs).length ≤ mostDigits

/-- What is said in place of a message that would hold a longer number. -/
def tooLong : String :=
  "Exceeds the limit (" ++ text mostDigits ++ " digits) for integer string conversion; " ++
    "use sys.set_int_max_str_digits() to increase the limit"

/-- What is said of a numeral with too many digits where such a one is no fault of form. -/
def tooManyDigits (count : Nat) : String :=
  "Exceeds the limit (" ++ text mostDigits ++ " digits) for integer string conversion: value has " ++
    text count ++ " digits; use sys.set_int_max_str_digits() to increase the limit"

@[simp] theorem digits?_nil : digits? [] = none := rfl

@[simp] theorem ofDigits_nil : ofDigits [] = 0 := rfl

theorem ofDigits_append (ds : List Nat) (d : Nat) : ofDigits (ds ++ [d]) = 10 * ofDigits ds + d := by
  simp [ofDigits]

end C64Screen.Numeral
