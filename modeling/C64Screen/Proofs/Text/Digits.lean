import C64Screen.Proofs.Text.Written
import Mathlib.Data.List.DropRight
import Mathlib.Data.Nat.Digits.Defs

/-!
# What a numeral is

A numeral begins and ends with a digit, and between its digits there may be single underscores. It denotes the number
that the digits make in the decimal system, whatever script they are of, and a sign in front of it may turn the number
over. The reader of numerals accepts this and nothing else. White space around a numeral can always be told from it,
since no digit, sign or underscore is blank.
-/

namespace C64Screen

open Unicode

namespace Unicode

section Padding

variable {p : Char → Bool} {core letters : List Char}

/-- A text with characters of a class around its core. -/
def Padded (p : Char → Bool) (core letters : List Char) : Prop :=
  ∃ left right, letters = left ++ (core ++ right) ∧ (∀ c ∈ left, p c = true) ∧ ∀ c ∈ right, p c = true

theorem padded_trim (p : Char → Bool) (letters : List Char) : Padded p (trim p letters) letters := by
  refine ⟨letters.takeWhile p, (letters.dropWhile p).rtakeWhile p, ?_, ?_, ?_⟩
  · calc
      letters = letters.takeWhile p ++ letters.dropWhile p := List.takeWhile_append_dropWhile.symm
      _ = letters.takeWhile p ++ (trim p letters ++ (letters.dropWhile p).rtakeWhile p) :=
        congrArg _ (List.rdropWhile_append_rtakeWhile ..).symm
  · intro c listed
    exact List.mem_takeWhile_imp listed
  · intro c listed
    exact List.mem_rtakeWhile_imp listed

/-- A core that neither begins nor ends with a character of the class is all that is left. -/
theorem Padded.trim_eq (padded : Padded p core letters) (first : ∃ c ∈ core.head?, p c = false)
    (last : ∃ c ∈ core.getLast?, p c = false) : trim p letters = core := by
  obtain ⟨left, right, rfl, before, behind⟩ := padded
  obtain ⟨a, first, begins⟩ := first
  obtain ⟨b, last, ends⟩ := last
  have left_gone : (left ++ (core ++ right)).dropWhile p = core ++ right := by
    apply Text.dropWhile_run before
    rw [List.head?_append, first]
    rintro c ⟨⟩
    exact begins
  have right_gone : (right.reverse ++ core.reverse).dropWhile p = core.reverse := by
    apply Text.dropWhile_run
    · intro c listed
      exact behind c (List.mem_reverse.mp listed)
    · rw [List.head?_reverse, last]
      rintro c ⟨⟩
      exact ends
  rw [trim, left_gone, List.reverse_append, right_gone, List.reverse_reverse]

end Padding

theorem isBlank_eq_false_of_isDigit {c : Char} (digit : isDigit c = true) : isBlank c = false := by
  have apart : ∀ n ∈ blankCodes, ∀ z ∈ digitZeros, ¬ (z ≤ n ∧ n < z + 10) := by decide +kernel
  rw [Bool.eq_false_iff]
  intro blank
  obtain ⟨d, value⟩ := isDigit_iff.mp digit
  obtain ⟨z, found, -⟩ := Option.map_eq_some_iff.mp value
  have within := List.find?_some found
  rw [Bool.and_eq_true, decide_eq_true_iff, decide_eq_true_iff] at within
  exact apart c.toNat (List.contains_iff_mem.mp blank) z (List.mem_of_find?_eq_some found) within

theorem isMargin_eq_false_of_isDigit {c : Char} (digit : isDigit c = true) : isMargin c = false := by
  rw [isMargin, isBlank_eq_false_of_isDigit digit, Bool.false_and]

end Unicode

namespace Numeral

/-- Digits, of which any two next to each other may be set apart by an underscore. -/
structure Spaced (cs : List Char) : Prop where
  letters : ∀ c ∈ cs, isDigit c = true ∨ c = '_'
  first : ∃ c ∈ cs.head?, isDigit c = true
  last : ∃ c ∈ cs.getLast?, isDigit c = true
  single : cs.IsChain fun c d => isDigit c = true ∨ isDigit d = true

/-- The values of the digits. -/
def values (cs : List Char) : List Nat := cs.filterMap digitValue?

/-- The digits are not too many, and this is their number. -/
structure Counts (cs : List Char) (n : Nat) : Prop where
  spaced : Spaced cs
  short : (values cs).length ≤ mostDigits
  number : n = Nat.ofDigits 10 (values cs).reverse

/-- The integer that a numeral with or without a sign stands for. -/
inductive Denotes : List Char → Int → Prop where
  | bare {cs : List Char} {n : Nat} (counts : Counts cs n) : Denotes cs n
  | plus {cs : List Char} {n : Nat} (counts : Counts cs n) : Denotes ('+' :: cs) n
  | minus {cs : List Char} {n : Nat} (counts : Counts cs n) : Denotes ('-' :: cs) (-n)

section Digits

variable {c : Char} {cs : List Char} {d : Nat} {ds : List Nat} {n : Nat}

theorem isDigit_underscore : isDigit '_' = false := by decide

theorem not_spaced_nil : ¬ Spaced [] := by
  rintro ⟨-, ⟨c, ⟨⟩, -⟩, -, -⟩

theorem Spaced.isDigit_head (spaced : Spaced (c :: cs)) : isDigit c = true := by
  obtain ⟨d, ⟨⟩, digit⟩ := spaced.first
  exact digit

theorem spaced_singleton (digit : isDigit c = true) : Spaced [c] where
  letters := List.forall_mem_singleton.mpr (.inl digit)
  first := ⟨c, rfl, digit⟩
  last := ⟨c, rfl, digit⟩
  single := .singleton c

theorem spaced_cons {next : Char} (digit : isDigit c = true) (other : next ≠ '_') :
    Spaced (c :: next :: cs) ↔ Spaced (next :: cs) := by
  constructor
  · rintro ⟨letters, -, last, single⟩
    have later := (List.forall_mem_cons.mp letters).2
    exact
      { letters := later
        first := ⟨next, rfl, (later next List.mem_cons_self).resolve_right other⟩
        last := by rwa [List.getLast?_cons_cons] at last
        single := (List.isChain_cons_cons.mp single).2 }
  · rintro ⟨letters, -, last, single⟩
    exact
      { letters := List.forall_mem_cons.mpr ⟨.inl digit, letters⟩
        first := ⟨c, rfl, digit⟩
        last := by rwa [List.getLast?_cons_cons]
        single := List.isChain_cons_cons.mpr ⟨.inl digit, single⟩ }

theorem spaced_apart (digit : isDigit c = true) : Spaced (c :: '_' :: cs) ↔ Spaced cs := by
  have noDigit : ¬ isDigit '_' = true := Bool.eq_false_iff.mp isDigit_underscore
  cases cs with
  | nil =>
    refine iff_of_false ?_ not_spaced_nil
    rintro ⟨-, -, ⟨d, ⟨⟩, last⟩, -⟩
    exact noDigit last
  | cons next cs =>
    constructor
    · rintro ⟨letters, -, last, single⟩
      rw [List.isChain_cons_cons, List.isChain_cons_cons] at single
      obtain ⟨-, apart, single⟩ := single
      simp only [List.forall_mem_cons] at letters
      exact
        { letters := List.forall_mem_cons.mpr letters.2.2
          first := ⟨next, rfl, apart.resolve_left noDigit⟩
          last := by rwa [List.getLast?_cons_cons, List.getLast?_cons_cons] at last
          single := single }
    · intro spaced
      have first := spaced.isDigit_head
      obtain ⟨letters, -, last, single⟩ := spaced
      exact
        { letters := List.forall_mem_cons.mpr ⟨.inl digit, List.forall_mem_cons.mpr ⟨.inr rfl, letters⟩⟩
          first := ⟨c, rfl, digit⟩
          last := by rwa [List.getLast?_cons_cons, List.getLast?_cons_cons]
          single := by
            rw [List.isChain_cons_cons, List.isChain_cons_cons]
            exact ⟨.inl digit, .inr first, single⟩ }

theorem values_cons (value : digitValue? c = some d) : values (c :: cs) = d :: values cs :=
  List.filterMap_cons_some value

theorem values_underscore : values ('_' :: cs) = values cs :=
  List.filterMap_cons_none (by decide)

/-- The first digit in front of what has been read of the others. -/
theorem map_digits?_eq_some_iff (others : ∀ ds, digits? cs = some ds ↔ Spaced cs ∧ values cs = ds) :
    (digits? cs).map (d :: ·) = some ds ↔ Spaced cs ∧ d :: values cs = ds := by
  rw [Option.map_eq_some_iff]
  constructor
  · rintro ⟨rest, read, rfl⟩
    obtain ⟨spaced, rfl⟩ := (others rest).mp read
    exact ⟨spaced, rfl⟩
  · rintro ⟨spaced, rfl⟩
    exact ⟨values cs, (others _).mpr ⟨spaced, rfl⟩, rfl⟩

theorem digits?_eq_some_iff : digits? cs = some ds ↔ Spaced cs ∧ values cs = ds := by
  fun_induction digits? cs generalizing ds with
  | case1 => exact iff_of_false nofun fun accepted => not_spaced_nil accepted.1
  | case2 c rest missing =>
    refine iff_of_false nofun fun accepted => ?_
    obtain ⟨d, value⟩ := isDigit_iff.mp accepted.1.isDigit_head
    rw [missing] at value
    cases value
  | case3 c d value =>
    rw [values_cons value, and_iff_right (spaced_singleton (isDigit_iff.mpr ⟨d, value⟩)), Option.some.injEq]
    rfl
  | case4 c d value more ih =>
    rw [map_digits?_eq_some_iff fun _ => ih, spaced_apart (isDigit_iff.mpr ⟨d, value⟩), values_cons value,
      values_underscore]
  | case5 c d value more nonempty other ih =>
    rw [map_digits?_eq_some_iff fun _ => ih, values_cons value]
    obtain ⟨next, rest, rfl⟩ := List.exists_cons_of_ne_nil nonempty
    have plain : next ≠ '_' := by
      rintro rfl
      exact other rest rfl
    rw [spaced_cons (isDigit_iff.mpr ⟨d, value⟩) plain]

theorem ofDigits_eq (ds : List Nat) : ofDigits ds = Nat.ofDigits 10 ds.reverse := by
  rw [Nat.ofDigits_eq_foldr, List.foldr_reverse, ofDigits]
  simp only [Nat.cast_id, Nat.add_comm]

theorem natural?_eq_some_iff : natural? cs = some n ↔ Counts cs n := by
  rw [natural?]
  constructor
  · intro read
    split at read
    · next ds found =>
      obtain ⟨spaced, rfl⟩ := digits?_eq_some_iff.mp found
      obtain ⟨short, number⟩ := Option.ite_none_right_eq_some.mp read
      exact ⟨spaced, short, by rw [← ofDigits_eq, Option.some.inj number]⟩
    · cases read
  · rintro ⟨spaced, short, rfl⟩
    rw [digits?_eq_some_iff.mpr ⟨spaced, rfl⟩]
    simp only [if_pos short, ofDigits_eq]

theorem Counts.exists_cons (counts : Counts cs n) : ∃ c rest, cs = c :: rest ∧ isDigit c = true := by
  obtain ⟨c, first, digit⟩ := counts.spaced.first
  obtain ⟨rest, rfl⟩ := List.head?_eq_some_iff.mp first
  exact ⟨c, rest, rfl, digit⟩

theorem integer?_minus : integer? ('-' :: cs) = (natural? cs).map fun m : Nat => -(m : Int) := by
  rw [integer?]
  cases natural? cs <;> rfl

theorem integer?_plus : integer? ('+' :: cs) = (natural? cs).map Int.ofNat := rfl

theorem integer?_of_isDigit_head (digit : isDigit c = true) :
    integer? (c :: cs) = (natural? (c :: cs)).map Int.ofNat := by
  unfold integer?
  split
  · next same => exact absurd (List.cons.inj same).1 (Text.ne_of_class digit (by decide))
  · next same => exact absurd (List.cons.inj same).1 (Text.ne_of_class digit (by decide))
  · rfl

theorem integer?_eq_some_iff {n : Int} : integer? cs = some n ↔ Denotes cs n := by
  constructor
  · intro read
    unfold integer? at read
    split at read
    · next body =>
      have minus : integer? ('-' :: body) = some n := read
      rw [integer?_minus] at minus
      obtain ⟨m, found, rfl⟩ := Option.map_eq_some_iff.mp minus
      exact .minus (natural?_eq_some_iff.mp found)
    · obtain ⟨m, found, rfl⟩ := Option.map_eq_some_iff.mp read
      exact .plus (natural?_eq_some_iff.mp found)
    · obtain ⟨m, found, rfl⟩ := Option.map_eq_some_iff.mp read
      exact .bare (natural?_eq_some_iff.mp found)
  · intro denotes
    cases denotes with
    | bare counts =>
      obtain ⟨c, rest, rfl, digit⟩ := counts.exists_cons
      rw [integer?_of_isDigit_head digit, natural?_eq_some_iff.mpr counts]
      rfl
    | plus counts =>
      rw [integer?_plus, natural?_eq_some_iff.mpr counts]
      rfl
    | minus counts =>
      rw [integer?_minus, natural?_eq_some_iff.mpr counts]
      rfl

theorem Counts.isBlank_getLast (counts : Counts cs n) (front : List Char) :
    ∃ c ∈ (front ++ cs).getLast?, isBlank c = false := by
  obtain ⟨c, last, digit⟩ := counts.spaced.last
  refine ⟨c, ?_, isBlank_eq_false_of_isDigit digit⟩
  rw [List.getLast?_append, last]
  rfl

/-- No numeral begins or ends with a blank. -/
theorem Denotes.edges {n : Int} (denotes : Denotes cs n) :
    (∃ c ∈ cs.head?, isBlank c = false) ∧ ∃ c ∈ cs.getLast?, isBlank c = false := by
  cases denotes with
  | bare counts =>
    obtain ⟨c, first, digit⟩ := counts.spaced.first
    exact ⟨⟨c, first, isBlank_eq_false_of_isDigit digit⟩, counts.isBlank_getLast []⟩
  | plus counts => exact ⟨⟨'+', rfl, by decide⟩, counts.isBlank_getLast ['+']⟩
  | minus counts => exact ⟨⟨'-', rfl, by decide⟩, counts.isBlank_getLast ['-']⟩

/-- A text is read, without the blanks around it, as what its core denotes. -/
theorem integer?_trim_eq_some_iff {n : Int} :
    integer? (trim isBlank cs) = some n ↔ ∃ core, Padded isBlank core cs ∧ Denotes core n := by
  rw [integer?_eq_some_iff]
  constructor
  · intro denotes
    exact ⟨trim isBlank cs, padded_trim isBlank cs, denotes⟩
  · rintro ⟨core, padded, denotes⟩
    rwa [padded.trim_eq denotes.edges.1 denotes.edges.2]

end Digits

end Numeral

end C64Screen
