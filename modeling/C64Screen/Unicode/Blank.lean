/-!
# Blank characters

The characters of white space: those of bidirectional class B, S or WS or of category Zs. The four
information separators are among them, but they do not separate a numeral on a command line from
what surrounds it.
-/

namespace C64Screen.Unicode

def blankCodes : List Nat :=
  [0x09, 0x0A, 0x0B, 0x0C, 0x0D, 0x1C, 0x1D, 0x1E, 0x1F, 0x20, 0x85, 0xA0, 0x1680, 0x2000, 0x2001,
   0x2002, 0x2003, 0x2004, 0x2005, 0x2006, 0x2007, 0x2008, 0x2009, 0x200A, 0x2028, 0x2029, 0x202F,
   0x205F, 0x3000]

def isBlank (c : Char) : Bool := blankCodes.contains c.toNat

def isInformationSeparator (c : Char) : Bool := 0x1C ≤ c.toNat && c.toNat ≤ 0x1F

def isMargin (c : Char) : Bool := isBlank c && !isInformationSeparator c

/-- The text between the leading and the trailing run of characters in a class. -/
def trim (p : Char → Bool) (cs : List Char) : List Char :=
  ((cs.dropWhile p).reverse.dropWhile p).reverse

theorem trim_eq_self {p : Char → Bool} {cs : List Char} (h : ∀ c ∈ cs, p c = false) :
    trim p cs = cs := by
  have drop : ∀ l : List Char, (∀ c ∈ l, p c = false) → l.dropWhile p = l := by
    intro l hl
    cases l with
    | nil => rfl
    | cons a l => simp [hl a (by simp)]
  rw [trim, drop cs h, drop cs.reverse (fun c hc => h c (by simpa using hc)), List.reverse_reverse]

end C64Screen.Unicode
