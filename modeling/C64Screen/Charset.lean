import C64Screen.Text.Single

/-!
# Character banks

The two banks of 256 glyphs of the character generator, each indexed by screen code. A code below 128
shows a glyph and the code 128 above it the same glyph reversed, so reversing is a half turn of the bank.
A glyph without a character of its own is shown by one of the private use area. A character found in
both banks belongs to the uppercase bank.
-/

namespace C64Screen

abbrev ScreenCode := Fin 256

inductive Bank where
  | uppercase
  | lowercase
  deriving DecidableEq, Repr

namespace Bank

def privateBase : Bank → Nat
  | .uppercase => 0xE000
  | .lowercase => 0xE100

/-- The letter that code 1 shows; the other twenty-five follow it. -/
def firstLetter : Bank → Char
  | .uppercase => 'A'
  | .lowercase => 'a'

/-- The character that a code shows, where there is one outside the private use area. -/
def natural? (b : Bank) (code : Nat) : Option Char :=
  if code = 0x00 then some '@'
  else if code ≤ 0x1A then some (Char.ofNat (b.firstLetter.toNat + (code - 1)))
  else if code = 0x1B then some '['
  else if code = 0x1C then some '£'
  else if code = 0x1D then some ']'
  else if code = 0x1E then some '↑'
  else if code = 0x1F then some '←'
  else if code < 0x40 then some (Char.ofNat code)
  else if b = .lowercase ∧ 0x41 ≤ code ∧ code ≤ 0x5A then some (Char.ofNat code)
  else none

def glyph (b : Bank) (code : ScreenCode) : Char :=
  (b.natural? code).getD (Char.ofNat (b.privateBase + code))

def glyphs (b : Bank) : List Char := (List.finRange 256).map b.glyph

@[simp] theorem length_glyphs (b : Bank) : b.glyphs.length = 256 := by simp [glyphs]

def code? (b : Bank) (c : Char) : Option ScreenCode :=
  (List.finRange 256).find? (fun k => b.glyph k == c)

theorem glyph_of_code? {b : Bank} {c : Char} {k : ScreenCode} (h : b.code? c = some k) :
    b.glyph k = c := by
  simpa using List.find?_some h

theorem code?_eq_none_iff {b : Bank} {c : Char} : b.code? c = none ↔ ∀ k, b.glyph k ≠ c := by
  simp [code?, List.find?_eq_none]

end Bank

namespace Charset

/-- A glyph and its reversed form are this many codes apart. -/
def reverseBit : Nat := 128

def screenCode? (c : Char) : Option ScreenCode :=
  match Bank.uppercase.code? c with
  | some k => some k
  | none => Bank.lowercase.code? c

def reverse (c : Char) : Char :=
  match Bank.uppercase.code? c with
  | some k => Bank.uppercase.glyph (k + 128)
  | none =>
    match Bank.lowercase.code? c with
    | some k => Bank.lowercase.glyph (k + 128)
    | none => c

def isReversed (c : Char) : Bool :=
  match screenCode? c with
  | some k => reverseBit ≤ k
  | none => false

theorem reverse_eq_self {c : Char} (h : screenCode? c = none) : reverse c = c := by
  unfold screenCode? at h
  unfold reverse
  split at h <;> simp_all

def screenCodeOf? (s : String) : Option ScreenCode := (Text.single? s).bind screenCode?

def reverseOf (s : String) : String :=
  match Text.single? s with
  | some c => String.singleton (reverse c)
  | none => s

def isReversedText (s : String) : Bool := (Text.single? s).any isReversed

end Charset

end C64Screen
