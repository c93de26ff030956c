import C64Screen.Text.Hex
import C64Screen.Unicode.Printable

/-!
# Quoted text

A text as messages quote it: between apostrophes, or between double quotes if it holds an apostrophe and
no double quote. What cannot be printed is written as an escape of two, four or eight hexadecimal digits.
-/

namespace C64Screen.Text

def codeEscape (n : Nat) : List Char :=
  if n < 0x100 then '\\' :: 'x' :: hex 2 n
  else if n < 0x10000 then '\\' :: 'u' :: hex 4 n
  else '\\' :: 'U' :: hex 8 n

def escapeChar (quote c : Char) : List Char :=
  if c = '\\' ∨ c = quote then ['\\', c]
  else if c = '\n' then ['\\', 'n']
  else if c = '\r' then ['\\', 'r']
  else if c = '\t' then ['\\', 't']
  else if Unicode.isPrintable c then [c]
  else codeEscape c.toNat

def quoteMark (cs : List Char) : Char :=
  if cs.contains '\'' && !cs.contains '"' then '"' else '\''

def quote (cs : List Char) : List Char :=
  let mark := quoteMark cs
  mark :: (cs.flatMap (escapeChar mark) ++ [mark])

def quoted (s : String) : String := String.ofList (quote s.toList)

end C64Screen.Text
