import C64Screen.Text.Numeral
import C64Screen.Unicode.Blank

/-!
# Numbers written and read

A number that is written out is a numeral and is read as the number it is, unless it has too many digits to be
read at all. It has no underscores, so its digits are read one after another, and no blanks, so there is nothing
to cut off around it. In front of something else its digits are a run that ends there.
-/

namespace C64Screen

open Unicode

/-! Runs. -/

namespace Text

variable {p : Char → Bool} {run rest : List Char}

theorem ne_of_class {c d : Char} (inside : p c = true) (outside : p d = false) : c ≠ d := by
  rintro rfl
  rw [inside] at outside
  cases outside

theorem takeWhile_run (inside : ∀ c ∈ run, p c = true) (stops : ∀ c ∈ rest.head?, p c = false) :
    (run ++ rest).takeWhile p = run := by
  rw [List.takeWhile_append_of_pos inside]
  cases rest with
  | nil => exact List.append_nil run
  | cons c rest =>
    rw [List.takeWhile_cons, stops c rfl]
    exact List.append_nil run

theorem dropWhile_run (inside : ∀ c ∈ run, p c = true) (stops : ∀ c ∈ rest.head?, p c = false) :
    (run ++ rest).dropWhile p = rest := by
  rw [List.dropWhile_append_of_pos inside]
  cases rest with
  | nil => rfl
  | cons c rest =>
    rw [List.dropWhile_cons, stops c rfl]
    rfl

end Text

/-! Characters. -/

namespace Unicode

theorem range_of_isDigit {c : Char} (digit : c.isDigit = true) : 48 ≤ c.toNat ∧ c.toNat ≤ 57 := by
  simpa [Char.isDigit, UInt32.le_iff_toNat_le] using digit

theorem digitValue?_of_isDigit {c : Char} (digit : c.isDigit = true) : digitValue? c = some (c.toNat - 48) := by
  obtain ⟨low, high⟩ := range_of_isDigit digit
  have first : (decide (0x30 ≤ c.toNat) && decide (c.toNat < 0x30 + 10)) = true := by
    simp only [Bool.and_eq_true, decide_eq_true_iff]
    omega
  have found : digitZeros.find? (fun z => z ≤ c.toNat && c.toNat < z + 10) = some 0x30 :=
    List.find?_cons_of_pos first
  rw [digitValue?, found]
  rfl

theorem isBlank_eq_false {c : Char} (above : 0x20 < c.toNat) (below : c.toNat < 0x85) : isBlank c = false := by
  rw [isBlank, List.contains_eq_mem, decide_eq_false_iff_not, blankCodes]
  simp only [List.mem_cons, List.not_mem_nil, or_false]
  omega

theorem isMargin_eq_false {c : Char} (above : 0x20 < c.toNat) (below : c.toNat < 0x85) : isMargin c = false := by
  rw [isMargin, isBlank_eq_false above below, Bool.false_and]

end Unicode

namespace Numeral

theorem digits?_singleton {c : Char} {d : Nat} (h : digitValue? c = some d) : digits? [c] = some [d] := by
  rw [digits?, h]

theorem ne_underscore {c : Char} {d : Nat} (h : digitValue? c = some d) : c ≠ '_' :=
  Text.ne_of_class (isDigit_iff.mpr ⟨d, h⟩) (by decide)

/-- In front of another digit a digit is just read. -/
theorem digits?_cons {c next : Char} {d e : Nat} {rest : List Char} (value : digitValue? c = some d)
    (following : digitValue? next = some e) :
    digits? (c :: next :: rest) = (digits? (next :: rest)).map (d :: ·) := by
  rw [digits?]
  simp only [value]
  split
  · next same => cases same
  · next same => exact absurd (List.cons.inj same).1 (ne_underscore following)
  · rfl

theorem digits?_of_isDigit {cs : List Char} (nonempty : cs ≠ []) (digits : ∀ c ∈ cs, c.isDigit = true) :
    digits? cs = some (cs.map fun c => c.toNat - 48) := by
  induction cs with
  | nil => exact absurd rfl nonempty
  | cons c rest ih =>
    rw [List.forall_mem_cons] at digits
    have value := digitValue?_of_isDigit digits.1
    cases rest with
    | nil => exact digits?_singleton value
    | cons next rest =>
      have following := digitValue?_of_isDigit (digits.2 next List.mem_cons_self)
      rw [digits?_cons value following, ih (List.cons_ne_nil next rest) digits.2]
      rfl

theorem ofDigits_eq_ofDigitChars (cs : List Char) :
    ofDigits (cs.map fun c => c.toNat - 48) = Nat.ofDigitChars 10 cs 0 := by
  rw [ofDigits, List.foldl_map, Nat.ofDigitChars_eq_foldl]
  rfl

theorem natural?_toDigits {n : Nat} (short : (Nat.toDigits 10 n).length ≤ mostDigits) :
    natural? (Nat.toDigits 10 n) = some n := by
  have digits := digits?_of_isDigit Nat.toDigits_ne_nil
    fun c listed => Nat.isDigit_of_mem_toDigits (b := 10) (n := n) (by decide) (by decide) listed
  rw [natural?, digits]
  simp only [List.length_map]
  rw [if_pos short, ofDigits_eq_ofDigitChars, Nat.ofDigitChars_toDigits (by decide) (by decide)]

/-- A digit is no sign. -/
theorem integer?_of_isDigit {cs : List Char} (digits : ∀ c ∈ cs, c.isDigit = true) :
    integer? cs = (natural? cs).map Int.ofNat := by
  unfold integer?
  split
  · next body => exact absurd (digits '-' List.mem_cons_self) (by decide)
  · next body => exact absurd (digits '+' List.mem_cons_self) (by decide)
  · rfl

theorem integer?_written {n : Int} (short : isShort n = true) : integer? (written n) = some n := by
  cases n with
  | ofNat n =>
    have digits : ∀ c ∈ Nat.toDigits 10 n, c.isDigit = true :=
      fun c listed => Nat.isDigit_of_mem_toDigits (by decide) (by decide) listed
    have read : natural? (Nat.toDigits 10 n) = some n := natural?_toDigits (of_decide_eq_true short)
    rw [written, integer?_of_isDigit digits, read]
    rfl
  | negSucc n =>
    have read : natural? (Nat.toDigits 10 (n + 1)) = some (n + 1) := natural?_toDigits (of_decide_eq_true short)
    rw [written, integer?, read]
    rfl

theorem mem_written {n : Int} {c : Char} (listed : c ∈ written n) : c = '-' ∨ c.isDigit = true := by
  cases n with
  | ofNat n => exact .inr (Nat.isDigit_of_mem_toDigits (by decide) (by decide) listed)
  | negSucc n =>
    rcases List.mem_cons.mp listed with sign | digit
    · exact .inl sign
    · exact .inr (Nat.isDigit_of_mem_toDigits (by decide) (by decide) digit)

theorem trim_written (n : Int) : trim isMargin (written n) = written n := by
  apply trim_eq_self
  intro c listed
  rcases mem_written listed with rfl | digit
  · decide
  · obtain ⟨low, high⟩ := range_of_isDigit digit
    exact isMargin_eq_false (by omega) (by omega)

end Numeral

end C64Screen
