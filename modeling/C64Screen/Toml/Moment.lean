import C64Screen.Decimal.Reading
import C64Screen.Toml.Text
import C64Screen.Value

/-!
# Dates and times

A date, a time of day, or both with or without an offset. What looks like a date has to be one of the
calendar.
-/

namespace C64Screen.Toml

open Decimal (digit? isDigit)

/-- Two digits whose value lies in a range. -/
def twoDigits? (least most : Nat) : List Char → Reading Nat
  | a :: b :: rest =>
    match digit? a, digit? b with
    | some m, some n =>
      let value := 10 * m + n
      if least ≤ value ∧ value ≤ most then some (value, rest) else none
    | _, _ => none
  | _ => none

def expect? (c : Char) : List Char → Option (List Char)
  | d :: rest => if d = c then some rest else none
  | [] => none

structure Date where
  year : Nat
  month : Nat
  day : Nat
  deriving DecidableEq, Repr

def isLeapYear (year : Nat) : Bool := year % 4 = 0 && (year % 100 ≠ 0 || year % 400 = 0)

def daysOf (year month : Nat) : Nat :=
  if month = 2 then (if isLeapYear year then 29 else 28)
  else if month = 4 ∨ month = 6 ∨ month = 9 ∨ month = 11 then 30
  else 31

/-- Years are counted from 1. -/
def Date.isValid (d : Date) : Bool := 1 ≤ d.year && d.day ≤ daysOf d.year d.month

def date? (cs : List Char) : Option (Date × List Char) := do
  let (century, rest) ← twoDigits? 0 99 cs
  let (year, rest) ← twoDigits? 0 99 rest
  let rest ← expect? '-' rest
  let (month, rest) ← twoDigits? 1 12 rest
  let rest ← expect? '-' rest
  let (day, rest) ← twoDigits? 1 31 rest
  return (⟨100 * century + year, month, day⟩, rest)

/-- Decimals of a second, if there are any. -/
def skipDecimals : List Char → List Char
  | '.' :: rest =>
    if rest.head?.any isDigit then rest.dropWhile isDigit
    else '.' :: rest
  | cs => cs

/-- The rest behind a time of day. -/
def time? (cs : List Char) : Option (List Char) := do
  let (_, rest) ← twoDigits? 0 23 cs
  let rest ← expect? ':' rest
  let (_, rest) ← twoDigits? 0 59 rest
  let rest ← expect? ':' rest
  let (_, rest) ← twoDigits? 0 59 rest
  return skipDecimals rest

/-- The rest behind an offset from universal time. -/
def offset? : List Char → Option (List Char)
  | 'Z' :: rest => some rest
  | 'z' :: rest => some rest
  | c :: rest =>
    if c = '+' ∨ c = '-' then do
      let (_, rest) ← twoDigits? 0 23 rest
      let rest ← expect? ':' rest
      let (_, rest) ← twoDigits? 0 59 rest
      return rest
    else none
  | [] => none

/-- The rest behind the time of day that may follow a date. -/
def timeOfDate (cs : List Char) : List Char :=
  match cs with
  | c :: rest =>
    if c = 'T' ∨ c = 't' ∨ c = ' ' then
      match time? rest with
      | some rest => (offset? rest).getD rest
      | none => cs
    else cs
  | [] => cs

inductive MomentReading where
  | none
  | invalid
  | found (v : Value) (rest : List Char)

def moment (cs : List Char) : MomentReading :=
  let written (rest : List Char) : Value := .moment (String.ofList (cs.take (cs.length - rest.length)))
  match date? cs with
  | some (d, rest) =>
    if d.isValid then
      let rest := timeOfDate rest
      .found (written rest) rest
    else .invalid
  | none =>
    match time? cs with
    | some rest => .found (written rest) rest
    | none => .none

end C64Screen.Toml
