import C64Screen.Buffer.Placement
import C64Screen.Charset

/-!
# Turning glyphs over

No bank shows a character at two codes, so what stands at a code is found again at that code. A glyph that no
character outside the private use area stands for has a private character of its own; the whole reversed half of
either bank is of this kind. So a character of the other half, turned over, is found again at the code that it was
turned to, and comes back when it is turned once more. Turning over only ever gives glyphs, so a character that is
none, such as a line feed, comes from nothing but itself.
-/

namespace C64Screen

namespace ScreenCode

/-- Two half turns of a bank are a whole one. -/
theorem half_turn_twice (k : ScreenCode) : k + 128 + 128 = k := by
  have once : (k + 128 : ScreenCode).val = (k.val + 128) % 256 := Fin.val_add k 128
  have twice : (k + 128 + 128 : ScreenCode).val = ((k + 128 : ScreenCode).val + 128) % 256 := Fin.val_add _ 128
  exact Fin.ext (by omega)

theorem reversed_half_turn (k : ScreenCode) : Charset.reverseBit ≤ (k + 128 : ScreenCode) ↔ k < Charset.reverseBit := by
  have once : (k + 128 : ScreenCode).val = (k.val + 128) % 256 := Fin.val_add k 128
  have bit : Charset.reverseBit = 128 := rfl
  omega

end ScreenCode

namespace Bank

variable {b : Bank} {c : Char} {k : ScreenCode}

theorem natural?_lt {x : Char} (natural : b.natural? k = some x) : x.toNat < 0xE000 := by
  have each : ∀ k : ScreenCode, ((b.natural? k).all fun x => x.toNat < 0xE000) = true := by
    cases b <;> decide +kernel
  have below := each k
  rw [natural] at below
  exact of_decide_eq_true below

theorem toNat_private (b : Bank) (k : ScreenCode) : (Char.ofNat (b.privateBase + k)).toNat = b.privateBase + k := by
  have valid : (b.privateBase + k).isValidChar := by
    right
    cases b <;> simp only [privateBase] <;> omega
  rw [Char.ofNat, dif_pos valid]
  rfl

theorem glyph_of_private (hidden : b.natural? k = none) : b.glyph k = Char.ofNat (b.privateBase + k) := by
  rw [glyph, hidden, Option.getD_none]

theorem natural?_reversed (reversed : Charset.reverseBit ≤ k) : b.natural? k = none := by
  have each : ∀ k : ScreenCode, Charset.reverseBit ≤ k → b.natural? k = none := by
    cases b <;> decide +kernel
  exact each k reversed

theorem toNat_glyph_reversed (reversed : Charset.reverseBit ≤ k) : (b.glyph k).toNat = b.privateBase + k := by
  rw [glyph_of_private (natural?_reversed reversed), toNat_private]

/-- The code at which a bank shows a character, read off the number of the character. -/
def number (b : Bank) (c : Char) : Nat :=
  if b.privateBase ≤ c.toNat then c.toNat - b.privateBase
  else if b.firstLetter ≤ c ∧ c.toNat < b.firstLetter.toNat + 26 then c.toNat - b.firstLetter.toNat + 1
  else if c = '£' then 0x1C
  else if c = '↑' then 0x1E
  else if c = '←' then 0x1F
  else if c = '@' ∨ c = '[' ∨ c = ']' then c.toNat - 0x40
  else c.toNat

theorem number_glyph (b : Bank) (k : ScreenCode) : b.number (b.glyph k) = k := by
  have each : ∀ k : ScreenCode, b.number (b.glyph k) = k := by cases b <;> decide +kernel
  exact each k

theorem glyph_inj {i : ScreenCode} : b.glyph i = b.glyph k ↔ i = k := by
  constructor
  · intro same
    apply Fin.ext
    rw [← b.number_glyph i, same, number_glyph]
  · rintro rfl
    rfl

theorem code?_glyph (b : Bank) (k : ScreenCode) : b.code? (b.glyph k) = some k := by
  cases found : b.code? (b.glyph k) with
  | none => exact absurd rfl (code?_eq_none_iff.mp found k)
  | some i => rw [glyph_inj.mp (glyph_of_code? found)]

end Bank

namespace Charset

open Bank

variable {c : Char} {k : ScreenCode}

/-- A character of the half that is not reversed. -/
theorem turns_of_code? (found : uppercase.code? c = some k) (plain : k < reverseBit) :
    isReversed (reverse c) = true ∧ reverse (reverse c) = c := by
  have turned : reverse c = uppercase.glyph (k + 128) := by rw [reverse, found]
  have found_again : uppercase.code? (reverse c) = some (k + 128) := by
    rw [turned]
    exact uppercase.code?_glyph (k + 128)
  constructor
  · rw [isReversed, screenCode?, found_again]
    exact decide_eq_true (k.reversed_half_turn.mpr plain)
  · calc
      reverse (reverse c) = uppercase.glyph (k + 128 + 128) := by rw [reverse, found_again]
      _ = uppercase.glyph k := by rw [k.half_turn_twice]
      _ = c := glyph_of_code? found

/-! What is no glyph. -/

theorem code?_eq_none_of_screenCode? (foreign : screenCode? c = none) (b : Bank) : b.code? c = none := by
  rw [screenCode?] at foreign
  split at foreign
  · cases foreign
  · next other =>
    cases b with
    | uppercase => exact other
    | lowercase => exact foreign

theorem reverse_ne {x : Char} (foreign : screenCode? x = none) (other : c ≠ x) : reverse c ≠ x := by
  have glyph_ne (b : Bank) : ∀ k, b.glyph k ≠ x := code?_eq_none_iff.mp (code?_eq_none_of_screenCode? foreign b)
  rw [reverse]
  split
  · exact glyph_ne _ _
  · split
    · exact glyph_ne _ _
    · exact other

theorem reverse_ne_lineFeed (other : c ≠ lineFeed) : reverse c ≠ lineFeed :=
  reverse_ne (by decide +kernel) other

end Charset

end C64Screen
