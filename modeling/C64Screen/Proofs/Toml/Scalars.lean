import C64Screen.Proofs.Json.Grammar
import C64Screen.Toml.Statement

/-!
# Plain values at the end of a line

An integer in plain decimal, or a truth value, in front of the end of a line or of the text. Such digits are read
to their end and are no date and no time of day, which have a hyphen or a colon among them; they are not in
another base, as a zero stands alone; and neither a fraction nor an exponent follows.
-/

namespace C64Screen.Toml

open Decimal (isDigit digitValues)

/-- Nothing is left of a line. -/
inductive AtLineEnd : List Char → Prop where
  | text : AtLineEnd []
  | line (rest : List Char) : AtLineEnd ('\n' :: rest)

/-- What is written for an integer from zero on, or for a truth value. -/
inductive Plain : List Char → Value → Prop where
  | natural {cs : List Char} {n : Nat} (number : Json.Natural cs n) (short : cs.length ≤ Numeral.mostDigits) :
      Plain cs (.int n)
  | yes : Plain ['t', 'r', 'u', 'e'] (.bool true)
  | no : Plain ['f', 'a', 'l', 's', 'e'] (.bool false)

theorem endLine?_of_atLineEnd {rest : List Char} (ended : AtLineEnd rest) : endLine? rest = some rest.tail := by
  cases ended with
  | text => rfl
  | line => rfl

/-! Runs of digits. -/

section Digits

variable {cs rest : List Char}

theorem AtLineEnd.not_digit (ended : AtLineEnd rest) : ∀ c ∈ rest.head?, isDigit c = false := by
  cases ended with
  | text => exact nofun
  | line =>
    rintro _ ⟨⟩
    rfl

theorem moreDigits_digits (digits : ∀ c ∈ cs, isDigit c = true) (ended : AtLineEnd rest) :
    moreDigits isDigit (cs ++ rest) = (cs, rest) := by
  induction cs with
  | nil =>
    cases ended with
    | text => rfl
    | line => rfl
  | cons c cs ih =>
    rw [List.forall_mem_cons] at digits
    have next : moreDigits isDigit (c :: (cs ++ rest)) =
        if isDigit c then Reading.consBoth c (moreDigits isDigit (cs ++ rest)) else ([], c :: (cs ++ rest)) := by
      rw [moreDigits]
      rintro _ _ rfl
      cases digits.1
    rw [List.cons_append, next, if_pos digits.1, ih digits.2]
    rfl

theorem digits?_digits (nonempty : cs ≠ []) (digits : ∀ c ∈ cs, isDigit c = true) (ended : AtLineEnd rest) :
    digits? isDigit (cs ++ rest) = some (cs, rest) := by
  obtain ⟨c, more, rfl⟩ := List.exists_cons_of_ne_nil nonempty
  rw [List.forall_mem_cons] at digits
  rw [List.cons_append, digits?, if_pos digits.1, moreDigits_digits digits.2 ended]
  rfl

end Digits

/-! Dates and times have other characters among their digits. -/

section Moments

variable {cs rest : List Char}

theorem eq_of_expect? {c : Char} (read : expect? c cs = some rest) : cs = c :: rest := by
  cases cs with
  | nil => cases read
  | cons d more =>
    rw [expect?] at read
    split at read
    · next same =>
      cases read
      rw [same]
    · cases read

theorem isDigit_of_digit? {c : Char} {n : Nat} (read : Decimal.digit? c = some n) : isDigit c = true := by
  rw [Decimal.digit?] at read
  split at read
  · assumption
  · cases read

theorem dropWhile_of_twoDigits? {least most v : Nat} (read : twoDigits? least most cs = some (v, rest)) :
    cs.dropWhile isDigit = rest.dropWhile isDigit := by
  unfold twoDigits? at read
  split at read
  · next a b more =>
    split at read
    · next first second =>
      simp only at read
      split at read
      · cases read
        rw [List.dropWhile_cons_of_pos (isDigit_of_digit? first),
          List.dropWhile_cons_of_pos (isDigit_of_digit? second)]
      · cases read
    · cases read
  · cases read

theorem dropWhile_of_date? {d : Date} (read : date? cs = some (d, rest)) :
    ∃ more, cs.dropWhile isDigit = '-' :: more := by
  obtain ⟨⟨_, afterCentury⟩, century, read⟩ := Option.bind_eq_some_iff.mp read
  obtain ⟨⟨_, afterYear⟩, year, read⟩ := Option.bind_eq_some_iff.mp read
  obtain ⟨afterHyphen, hyphen, -⟩ := Option.bind_eq_some_iff.mp read
  refine ⟨afterHyphen, ?_⟩
  rw [dropWhile_of_twoDigits? century, dropWhile_of_twoDigits? year, eq_of_expect? hyphen]
  rfl

theorem dropWhile_of_time? (read : time? cs = some rest) : ∃ more, cs.dropWhile isDigit = ':' :: more := by
  obtain ⟨⟨_, afterHour⟩, hour, read⟩ := Option.bind_eq_some_iff.mp read
  obtain ⟨afterColon, colon, -⟩ := Option.bind_eq_some_iff.mp read
  refine ⟨afterColon, ?_⟩
  rw [dropWhile_of_twoDigits? hour, eq_of_expect? colon]
  rfl

theorem moment_digits (digits : ∀ c ∈ cs, isDigit c = true) (ended : AtLineEnd rest) :
    moment (cs ++ rest) = .none := by
  have stops := Text.dropWhile_run digits ended.not_digit
  have no_date : date? (cs ++ rest) = none := by
    rw [Option.eq_none_iff_forall_ne_some]
    rintro ⟨d, behind⟩ read
    obtain ⟨more, hyphen⟩ := dropWhile_of_date? read
    rw [stops] at hyphen
    subst hyphen
    cases ended
  have no_time : time? (cs ++ rest) = none := by
    rw [Option.eq_none_iff_forall_ne_some]
    intro behind read
    obtain ⟨more, colon⟩ := dropWhile_of_time? read
    rw [stops] at colon
    subst colon
    cases ended
  rw [moment, no_date, no_time]

end Moments

/-! Numbers. -/

section Numbers

variable {cs rest : List Char} {n : Nat}

theorem takeSign_digit {c : Char} (digit : isDigit c = true) (more : List Char) :
    takeSign (c :: more) = (false, c :: more) := by
  unfold takeSign
  split
  · next same => exact absurd (List.cons.inj same).1 (Text.ne_of_class digit (by decide))
  · next same => exact absurd (List.cons.inj same).1 (Text.ne_of_class digit (by decide))
  · rfl

/-- A zero in front stands alone. -/
theorem rest_of_zero {more : List Char} (number : Json.Natural cs n) (zero : cs ++ rest = '0' :: more) :
    cs = ['0'] ∧ rest = more := by
  have lead : cs.head? = some '0' := by
    rw [← List.head?_append_of_ne_nil _ number.nonempty, zero]
    rfl
  have alone := number.lead lead
  rw [alone] at zero
  exact ⟨alone, (List.cons.inj zero).2⟩

theorem whole?_natural (number : Json.Natural cs n) (ended : AtLineEnd rest) :
    whole? (cs ++ rest) = some (cs, rest) := by
  unfold whole?
  split
  · next more zero =>
    obtain ⟨rfl, rfl⟩ := rest_of_zero number zero
    rfl
  · exact digits?_digits number.nonempty number.digits ended

theorem fraction_of_atLineEnd (ended : AtLineEnd rest) : fraction rest = ([], rest) := by
  cases ended with
  | text => rfl
  | line => rfl

theorem exponent?_of_atLineEnd (ended : AtLineEnd rest) : exponent? rest = none := by
  cases ended with
  | text => rfl
  | line => rfl

theorem basedInteger?_natural (number : Json.Natural cs n) (ended : AtLineEnd rest) :
    basedInteger? (cs ++ rest) = none := by
  unfold basedInteger?
  split
  · next letter more zero =>
    obtain ⟨-, rfl⟩ := rest_of_zero number zero
    cases ended
    rfl
  · rfl

theorem number_natural (numeral : Json.Natural cs n) (short : cs.length ≤ Numeral.mostDigits)
    (ended : AtLineEnd rest) : number (cs ++ rest) = .ok (.int n, rest) := by
  obtain ⟨c, more, rfl⟩ := List.exists_cons_of_ne_nil numeral.nonempty
  have sign := takeSign_digit (numeral.digits c List.mem_cons_self) (more ++ rest)
  have whole := whole?_natural numeral ended
  have count : (digitValues (c :: more)).length ≤ Numeral.mostDigits := by rwa [digitValues, List.length_map]
  rw [number, basedInteger?_natural numeral ended]
  rw [List.cons_append] at whole ⊢
  simp only [decimalNumber?, sign, whole, fraction_of_atLineEnd ended, exponent?_of_atLineEnd ended,
    List.append_nil, List.isEmpty_nil, if_true, decimalInteger, count, numeral.ofDigits]
  rfl

end Numbers

/-! Values. -/

theorem value_of_no_bracket {c : Char} (bracket : c ≠ '[') (brace : c ≠ '\x7b') (fuel : Nat) (more : List Char) :
    value (fuel + 1) (c :: more) = scalarValue (c :: more) := by
  rw [value.eq_def]
  simp only
  split
  · next same => exact absurd (List.cons.inj same).1 bracket
  · next same => exact absurd (List.cons.inj same).1 brace
  · rfl

theorem scalarValue_digit {c : Char} (digit : isDigit c = true) (more : List Char) :
    scalarValue (c :: more) =
      match moment (c :: more) with
      | .found v rest => .ok (v, rest)
      | .invalid => .error .malformed
      | .none => number (c :: more) := by
  have other {d : Char} (none : isDigit d = false) : c ≠ d := Text.ne_of_class digit none
  have quotes : ¬ ((c :: more).head? = some '"' ∨ (c :: more).head? = some '\'') := by
    rintro (quote | quote)
    · exact other (by decide) (Option.some.inj quote)
    · exact other (by decide) (Option.some.inj quote)
  have yes : startsWith "true" (c :: more) = false :=
    Bool.and_eq_false_iff.mpr (.inl (beq_false_of_ne (other (by decide)).symm))
  have no : startsWith "false" (c :: more) = false :=
    Bool.and_eq_false_iff.mpr (.inl (beq_false_of_ne (other (by decide)).symm))
  rw [scalarValue, if_neg quotes, yes, no]
  rfl

/-- A plain value is read as the value that it is. -/
theorem value_plain {cs rest : List Char} {v : Value} (plain : Plain cs v) (ended : AtLineEnd rest) (fuel : Nat) :
    value (fuel + 1) (cs ++ rest) = .ok (v, rest) := by
  cases plain with
  | natural numeral short =>
    obtain ⟨c, more, rfl⟩ := List.exists_cons_of_ne_nil numeral.nonempty
    have digit : isDigit c = true := numeral.digits c List.mem_cons_self
    have bracket : c ≠ '[' := Text.ne_of_class digit (by decide)
    have brace : c ≠ '\x7b' := Text.ne_of_class digit (by decide)
    have no_moment := moment_digits numeral.digits ended
    have read := number_natural numeral short ended
    rw [List.cons_append] at no_moment read ⊢
    rw [value_of_no_bracket bracket brace, scalarValue_digit digit, no_moment]
    exact read
  | yes => rfl
  | no => rfl

/-! In front of a value and behind it. -/

theorem Plain.closes {cs : List Char} {v : Value} (plain : Plain cs v) : closes v = false := by
  cases plain <;> rfl

theorem Plain.return_not_mem {cs : List Char} {v : Value} (plain : Plain cs v) : '\r' ∉ cs := by
  cases plain with
  | natural numeral => exact fun listed => absurd (numeral.digits '\r' listed) (by decide)
  | yes => decide
  | no => decide

theorem isBlank_of_class {p : Char → Bool} {c : Char} (inside : p c = true) (space : p ' ' = false)
    (tab : p '\t' = false) : isBlank c = false := by
  rw [isBlank, Bool.or_eq_false_iff, decide_eq_false_iff_not, decide_eq_false_iff_not]
  exact ⟨Text.ne_of_class inside space, Text.ne_of_class inside tab⟩

theorem Plain.exists_cons {cs : List Char} {v : Value} (plain : Plain cs v) :
    ∃ c more, cs = c :: more ∧ isBlank c = false := by
  cases plain with
  | natural numeral =>
    obtain ⟨c, more, rfl⟩ := List.exists_cons_of_ne_nil numeral.nonempty
    have digit : isDigit c = true := numeral.digits c List.mem_cons_self
    exact ⟨c, more, rfl, isBlank_of_class digit (by decide) (by decide)⟩
  | yes => exact ⟨'t', _, rfl, rfl⟩
  | no => exact ⟨'f', _, rfl, rfl⟩

theorem Plain.skipBlanks {cs : List Char} {v : Value} (plain : Plain cs v) (rest : List Char) :
    skipBlanks (' ' :: (cs ++ rest)) = cs ++ rest := by
  obtain ⟨c, more, rfl, printed⟩ := plain.exists_cons
  change ((c :: more) ++ rest).dropWhile isBlank = _
  rw [List.cons_append, List.dropWhile_cons, printed]
  rfl

end C64Screen.Toml
