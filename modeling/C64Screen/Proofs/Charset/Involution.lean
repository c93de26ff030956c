import C64Screen.Proofs.Charset.Reversal

/-!
# Turning a glyph over twice

A character is looked up in the uppercase bank and, if it is not there, in the lowercase one. There it has its home,
and to turn it over is to go half way round the bank from there. So a second turn brings it back, unless it was in
the lowercase bank and was turned to a character that the uppercase bank has as well, whose home is there. Such a
character is not reversed, so it is the reversed glyphs that do not come back, and the second turn leads from them to
the reversed half of the uppercase bank.
-/

namespace C64Screen

namespace Bank

variable {b : Bank} {c : Char} {k : ScreenCode}

theorem mem_glyphs_iff : c ∈ b.glyphs ↔ ∃ k, b.glyph k = c := by
  simp [glyphs]

theorem code?_eq_none_iff_notMem : b.code? c = none ↔ c ∉ b.glyphs := by
  rw [code?_eq_none_iff, mem_glyphs_iff, not_exists]

theorem glyph_half_turn (b : Bank) (plain : k < Charset.reverseBit) :
    b.glyph (k + 128) = Char.ofNat (b.privateBase + 0x80 + k) := by
  have beyond : Charset.reverseBit ≤ (k + 128 : ScreenCode).val := k.reversed_half_turn.mpr plain
  have code : (k + 128 : ScreenCode).val = 0x80 + k := by
    have around : (k + 128 : ScreenCode).val = (k.val + 128) % 256 := Fin.val_add k 128
    have bit : Charset.reverseBit = 128 := rfl
    omega
  rw [glyph_of_private (natural?_reversed beyond), code, Nat.add_assoc]

theorem toNat_glyph (b : Bank) (k : ScreenCode) :
    (b.glyph k).toNat < 0xE000 ∨ (b.glyph k).toNat = b.privateBase + k := by
  cases shown : b.natural? k with
  | none =>
    right
    rw [glyph_of_private shown, toNat_private]
  | some x =>
    left
    rw [glyph, shown, Option.getD_some]
    exact natural?_lt shown

/-- What both banks have is reversed in neither. -/
theorem plain_of_shared {j : ScreenCode} (shared : uppercase.glyph j = lowercase.glyph k) :
    j < Charset.reverseBit ∧ k < Charset.reverseBit := by
  have number : (uppercase.glyph j).toNat = (lowercase.glyph k).toNat := congrArg Char.toNat shared
  have upper : uppercase.privateBase = 0xE000 := rfl
  have lower : lowercase.privateBase = 0xE100 := rfl
  constructor
  · apply Nat.lt_of_not_le
    intro reversed
    rw [toNat_glyph_reversed reversed] at number
    have other := lowercase.toNat_glyph k
    omega
  · apply Nat.lt_of_not_le
    intro reversed
    rw [toNat_glyph_reversed reversed] at number
    have other := uppercase.toNat_glyph j
    omega

end Bank

namespace Charset

open Bank

variable {c : Char} {b : Bank} {k j : ScreenCode}

/-! Homes. -/

/-- The bank and the code at which a character is found. -/
inductive Home (c : Char) : Bank → ScreenCode → Prop where
  | first {k : ScreenCode} (found : uppercase.code? c = some k) : Home c .uppercase k
  | second {k : ScreenCode} (missing : uppercase.code? c = none) (found : lowercase.code? c = some k) :
    Home c .lowercase k

theorem Home.glyph_eq (home : Home c b k) : b.glyph k = c := by
  cases home with
  | first found => exact glyph_of_code? found
  | second _ found => exact glyph_of_code? found

theorem Home.reverse_eq (home : Home c b k) : reverse c = b.glyph (k + 128) := by
  cases home with
  | first found => rw [reverse, found]
  | second missing found => rw [reverse, missing, found]

theorem Home.isReversed_eq (home : Home c b k) : isReversed c = decide (reverseBit ≤ k) := by
  cases home with
  | first found => rw [isReversed, screenCode?, found]
  | second missing found => rw [isReversed, screenCode?, missing, found]

theorem exists_home (listed : ∃ b : Bank, c ∈ b.glyphs) : ∃ b k, Home c b k := by
  cases upper : uppercase.code? c with
  | some k => exact ⟨.uppercase, k, .first upper⟩
  | none =>
    cases lower : lowercase.code? c with
    | some k => exact ⟨.lowercase, k, .second upper lower⟩
    | none =>
      obtain ⟨b, there⟩ := listed
      cases b with
      | uppercase => exact absurd there (code?_eq_none_iff_notMem.mp upper)
      | lowercase => exact absurd there (code?_eq_none_iff_notMem.mp lower)

theorem screenCode?_of_foreign (foreign : ∀ b : Bank, c ∉ b.glyphs) : screenCode? c = none := by
  rw [screenCode?, code?_eq_none_iff_notMem.mpr (foreign .uppercase)]
  exact code?_eq_none_iff_notMem.mpr (foreign .lowercase)

/-- What is turned over stays at home in its bank, or it leaves the lowercase bank for a glyph that both banks have. -/
theorem Home.turn (home : Home c b k) :
    Home (reverse c) b (k + 128) ∨
      ∃ j, b = .lowercase ∧ uppercase.glyph j = lowercase.glyph (k + 128) ∧ Home (reverse c) .uppercase j := by
  rw [home.reverse_eq]
  cases home with
  | first => exact .inl (.first (uppercase.code?_glyph (k + 128)))
  | second =>
    cases upper : uppercase.code? (lowercase.glyph (k + 128)) with
    | none => exact .inl (.second upper (lowercase.code?_glyph (k + 128)))
    | some j => exact .inr ⟨j, rfl, glyph_of_code? upper, .first upper⟩

theorem Home.isReversed_turn (home : Home c b k) : isReversed (reverse c) = !isReversed c := by
  rcases home.turn with stays | ⟨j, -, shared, away⟩
  · rw [stays.isReversed_eq, home.isReversed_eq, ← decide_not]
    exact decide_eq_decide.mpr (k.reversed_half_turn.trans Nat.not_le.symm)
  · obtain ⟨plain, turned⟩ := plain_of_shared shared
    have reversed : reverseBit ≤ k := by
      apply Nat.le_of_not_lt
      intro unturned
      exact Nat.not_lt_of_le (k.reversed_half_turn.mpr unturned) turned
    rw [away.isReversed_eq, home.isReversed_eq, decide_eq_false (Nat.not_le_of_lt plain), decide_eq_true reversed]
    rfl

/-! Glyphs that do not come back. -/

/-- A reversed glyph of the lowercase bank whose plain form has the code `k` there and the code `j` in the uppercase
bank. -/
structure Strays (c : Char) (k j : ScreenCode) : Prop where
  plain : k < reverseBit
  reversed : c = Char.ofNat (0xE180 + k)
  shared : uppercase.glyph j = lowercase.glyph k

theorem Strays.eq_glyph (strays : Strays c k j) : c = lowercase.glyph (k + 128) := by
  rw [strays.reversed, lowercase.glyph_half_turn strays.plain]
  rfl

theorem ne_of_reversed {i : ScreenCode} (reversed : reverseBit ≤ k) : uppercase.glyph i ≠ lowercase.glyph k := by
  intro shared
  exact Nat.not_lt_of_le reversed (plain_of_shared shared).2

theorem Strays.home (strays : Strays c k j) : Home c .lowercase (k + 128) := by
  rw [strays.eq_glyph]
  refine .second ?_ (lowercase.code?_glyph (k + 128))
  rw [code?_eq_none_iff]
  intro i
  exact ne_of_reversed (k.reversed_half_turn.mpr strays.plain)

theorem Strays.reverse_reverse (strays : Strays c k j) : reverse (reverse c) = uppercase.glyph (j + 128) := by
  have turned : reverse c = uppercase.glyph j := by
    rw [strays.home.reverse_eq, k.half_turn_twice, strays.shared]
  have home : Home (reverse c) .uppercase j := by
    rw [turned]
    exact .first (uppercase.code?_glyph j)
  exact home.reverse_eq

theorem Home.reverse_reverse_or_strays (home : Home c b k) :
    reverse (reverse c) = c ∨ ∃ k j, Strays c k j := by
  rcases home.turn with stays | ⟨j, rfl, shared, -⟩
  · left
    rw [stays.reverse_eq, k.half_turn_twice, home.glyph_eq]
  · right
    obtain ⟨-, plain⟩ := plain_of_shared shared
    refine ⟨k + 128, j, plain, ?_, shared⟩
    rw [← home.glyph_eq, ← k.half_turn_twice, lowercase.glyph_half_turn plain, k.half_turn_twice]
    rfl

/-- A character of neither bank is left alone and counts as not reversed. A glyph is turned to a glyph that is reversed
if it is not, and comes back when it is turned again, but for the reversed glyphs of the lowercase bank whose plain
form is in the uppercase bank as well. Those go over to the uppercase bank. -/
theorem reverse_twice (c : Char) :
    ((∀ b : Bank, c ∉ b.glyphs) → reverse c = c ∧ isReversed c = false) ∧
    ((∃ b : Bank, c ∈ b.glyphs) →
      (∃ b : Bank, reverse c ∈ b.glyphs) ∧ isReversed (reverse c) = !isReversed c) ∧
    (reverse (reverse c) = c ↔ ¬ ∃ k j, Strays c k j) ∧
    ∀ k j, Strays c k j →
      reverse (reverse c) = uppercase.glyph (j + 128) ∧ uppercase.glyph (j + 128) = Char.ofNat (0xE080 + j) := by
  refine ⟨?_, ?_, ?_, ?_⟩
  · intro foreign
    have nowhere := screenCode?_of_foreign foreign
    refine ⟨reverse_eq_self nowhere, ?_⟩
    rw [isReversed, nowhere]
  · intro listed
    obtain ⟨b, k, home⟩ := exists_home listed
    refine ⟨⟨b, ?_⟩, home.isReversed_turn⟩
    rw [home.reverse_eq]
    exact mem_glyphs_iff.mpr ⟨k + 128, rfl⟩
  · constructor
    · rintro back ⟨k, j, strays⟩
      rw [strays.reverse_reverse, strays.eq_glyph] at back
      exact ne_of_reversed (k.reversed_half_turn.mpr strays.plain) back
    · intro none
      by_cases listed : ∃ b : Bank, c ∈ b.glyphs
      · obtain ⟨b, k, home⟩ := exists_home listed
        exact home.reverse_reverse_or_strays.resolve_right none
      · have alone := reverse_eq_self (screenCode?_of_foreign (not_exists.mp listed))
        rw [alone, alone]
  · intro k j strays
    refine ⟨strays.reverse_reverse, ?_⟩
    rw [uppercase.glyph_half_turn (plain_of_shared strays.shared).1]
    rfl

/-- The letter A that the lowercase bank has reversed. -/
example : reverse '\ue1c1' = 'A' ∧ reverse 'A' = '\ue081' := by decide +kernel

end Charset

end C64Screen
