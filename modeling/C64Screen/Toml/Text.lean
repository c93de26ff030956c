import C64Screen.Text.Hex

/-!
# Texts of a document

A text is basic, with escapes, or literal, without; either may extend over several lines between triple
quotes. A reader takes the characters behind the opening quotes and returns the text and what follows the
closing ones. Control characters may not stand in a text, a tab and the line feeds of a text of several
lines excepted.
-/

namespace C64Screen.Toml

def isBlank (c : Char) : Bool := c = ' ' || c = '\t'

def skipBlanks (cs : List Char) : List Char := cs.dropWhile isBlank

/-- What may stand in a text of one line and in a comment. -/
def isTextChar (c : Char) : Bool := c = '\t' || (0x20 ≤ c.toNat && c.toNat ≠ 0x7F)

def isLineChar (c : Char) : Bool := c = '\n' || isTextChar c

abbrev Reading (α : Type) := Option (α × List Char)

def Reading.cons (c : Char) : Reading (List Char) → Reading (List Char)
  | some (text, rest) => some (c :: text, rest)
  | none => none

def simpleEscape? : Char → Option Char
  | 'b' => some '\x08'
  | 't' => some '\t'
  | 'n' => some '\n'
  | 'f' => some '\x0c'
  | 'r' => some '\r'
  | '"' => some '"'
  | '\\' => some '\\'
  | _ => none

/-- Surrogates are not characters. -/
def scalar? (n : Nat) : Option Char :=
  if n < 0xD800 ∨ (0xE000 ≤ n ∧ n < 0x110000) then some (Char.ofNat n) else none

/-- The character that an escape denotes, and the number of characters behind the backslash. -/
def escape? : List Char → Option (Char × Nat)
  | 'u' :: rest =>
    if 4 ≤ rest.length then
      ((Text.hexNumber? (rest.take 4)).bind scalar?).map (·, 5)
    else none
  | 'U' :: rest =>
    if 8 ≤ rest.length then
      ((Text.hexNumber? (rest.take 8)).bind scalar?).map (·, 9)
    else none
  | c :: _ => (simpleEscape? c).map (·, 1)
  | [] => none

/-- Reads a basic text of one line; `skip` characters belong to an escape already read. -/
def basicFrom : (skip : Nat) → List Char → Reading (List Char)
  | _, [] => none
  | skip + 1, _ :: rest => basicFrom skip rest
  | 0, '"' :: rest => some ([], rest)
  | 0, '\\' :: rest =>
    match escape? rest with
    | some (c, n) => (basicFrom n rest).cons c
    | none => none
  | 0, c :: rest => if isTextChar c then (basicFrom 0 rest).cons c else none

def basic (cs : List Char) : Reading (List Char) := basicFrom 0 cs

def literal : List Char → Reading (List Char)
  | [] => none
  | '\'' :: rest => some ([], rest)
  | c :: rest => if isTextChar c then (literal rest).cons c else none

/-- Up to two quotes in front of the closing three belong to the text. -/
def closing (quote : Char) : List Char → List Char × List Char
  | c :: rest =>
    if c = quote then
      match rest with
      | d :: more => if d = quote then ([quote, quote], more) else ([quote], rest)
      | [] => ([quote], [])
    else ([], c :: rest)
  | [] => ([], [])

/-- A backslash at the end of a line takes the line end with it and all blanks and line ends that
follow. -/
def endsLine (cs : List Char) : Bool := (skipBlanks cs).head? = some '\n'

/-- What is still to be passed over. -/
inductive Skip where
  | nothing
  | escape (n : Nat)
  | gap

def basicLinesFrom : Skip → List Char → Reading (List Char)
  | _, [] => none
  | .escape (n + 1), _ :: rest => basicLinesFrom (.escape n) rest
  | skip, c :: rest =>
    let inGap := match skip with
      | .gap => isBlank c || c = '\n'
      | _ => false
    if inGap then basicLinesFrom .gap rest
    else if c = '"' then
      match rest with
      | '"' :: '"' :: more => some (closing '"' more)
      | _ => (basicLinesFrom .nothing rest).cons c
    else if c = '\\' then
      if endsLine rest then basicLinesFrom .gap rest
      else
        match escape? rest with
        | some (d, n) => (basicLinesFrom (.escape n) rest).cons d
        | none => none
    else if isLineChar c then (basicLinesFrom .nothing rest).cons c
    else none

def literalLines : List Char → Reading (List Char)
  | [] => none
  | '\'' :: '\'' :: '\'' :: rest => some (closing '\'' rest)
  | c :: rest => if isLineChar c then (literalLines rest).cons c else none

/-- A line feed right behind the opening quotes is not part of the text. -/
def skipFirstLineFeed : List Char → List Char
  | '\n' :: rest => rest
  | cs => cs

/-- Reads a text with its quotes. -/
def text? : List Char → Reading (List Char)
  | '"' :: '"' :: '"' :: rest => basicLinesFrom .nothing (skipFirstLineFeed rest)
  | '"' :: rest => basic rest
  | '\'' :: '\'' :: '\'' :: rest => literalLines (skipFirstLineFeed rest)
  | '\'' :: rest => literal rest
  | _ => none

end C64Screen.Toml
