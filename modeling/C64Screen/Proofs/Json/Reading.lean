import C64Screen.Proofs.Json.Grammar
import Mathlib.Data.List.DropRight

/-!
# Reading JSON texts

The reader takes every text of the grammar and gives the value that the text stands for, so no text stands for
two values. The induction is on how a text is made up, and it speaks of what is read in front of any rest that
closes the text, for any fuel of at least twice the length. That is what each part of a text leaves for its
own parts once it has spent a unit on itself.
-/

namespace C64Screen.Json

/-- What may follow on a value without becoming part of it. -/
def Closed (rest : List Char) : Prop :=
  ∀ c, rest.head? = some c → isSpace c = true ∨ c = ',' ∨ c = ']' ∨ c = '}'

theorem closed_nil : Closed [] := nofun

theorem Closed.cons {c : Char} (closing : isSpace c = true ∨ c = ',' ∨ c = ']' ∨ c = '}') (rest : List Char) :
    Closed (c :: rest) := by
  rintro _ ⟨⟩
  exact closing

theorem Closed.append {ws rest : List Char} (blank : Blank ws) (closed : Closed rest) :
    Closed (ws ++ rest) := by
  cases ws with
  | nil => exact closed
  | cons c ws => exact .cons (.inl (blank c List.mem_cons_self)) (ws ++ rest)

/-! Blanks. -/

theorem skipSpace_append {ws : List Char} (blank : Blank ws) (cs : List Char) :
    skipSpace (ws ++ cs) = skipSpace cs := List.dropWhile_append_of_pos blank

theorem skipSpace_cons {c : Char} (other : isSpace c = false) (cs : List Char) :
    skipSpace (c :: cs) = c :: cs := by
  rw [skipSpace, List.dropWhile_cons, other]
  rfl

/-- Blanks in front of what comes next. -/
theorem skipSpace_append_cons {ws : List Char} (blank : Blank ws) {c : Char} (other : isSpace c = false)
    (cs : List Char) : skipSpace (ws ++ c :: cs) = c :: cs := by
  rw [skipSpace_append blank, skipSpace_cons other]

theorem skipSpace_skipSpace (cs : List Char) : skipSpace (skipSpace cs) = skipSpace cs :=
  List.dropWhile_idempotent isSpace cs

theorem value_skipSpace (fuel : Nat) (cs : List Char) : value fuel (skipSpace cs) = value fuel cs := by
  cases fuel with
  | zero => rw [value, value]
  | succ fuel => rw [value, value, skipSpace_skipSpace]

theorem items_skipSpace (fuel : Nat) (cs : List Char) : items fuel (skipSpace cs) = items fuel cs := by
  cases fuel with
  | zero => rw [items, items]
  | succ fuel => rw [items, items, value_skipSpace]

theorem members_skipSpace (fuel : Nat) (cs : List Char) : members fuel (skipSpace cs) = members fuel cs := by
  cases fuel with
  | zero => rw [members, members]
  | succ fuel => rw [members, members, skipSpace_skipSpace]

/-! Characters. -/

theorem simpleEscape?_of_listed {e c : Char} (listed : (e, c) ∈ shortEscapes) : simpleEscape? e = some c := by
  have each : ∀ x ∈ shortEscapes, simpleEscape? x.1 = some x.2 := by decide
  exact each (e, c) listed

theorem textTail_plain {c : Char} (quote : c ≠ '"') (backslash : c ≠ '\\') (printed : 0x20 ≤ c.toNat)
    (cs : List Char) : textTail (c :: cs) = consText c (textTail cs) := by
  rw [textTail.eq_def]
  split
  · next same => cases same
  · next same => exact absurd (List.cons.inj same).1 quote
  · next same => exact absurd (List.cons.inj same).1 backslash
  · next same => exact absurd (List.cons.inj same).1 backslash
  · next same =>
    cases same
    rw [if_neg (Nat.not_lt.mpr printed)]

theorem textTail_short {e c : Char} (listed : (e, c) ∈ shortEscapes) (cs : List Char) :
    textTail ('\\' :: e :: cs) = consText c (textTail cs) := by
  have each : ∀ x ∈ shortEscapes, x.1 ≠ 'u' := by decide
  have other : e ≠ 'u' := each (e, c) listed
  rw [textTail.eq_def]
  split
  · next same => cases same
  · next same => cases same
  · next same => exact absurd (List.cons.inj (List.cons.inj same).2).1 other
  · next same =>
    cases same
    rw [simpleEscape?_of_listed listed]
  · next unescaped same =>
    obtain ⟨rfl, rfl⟩ := List.cons.inj same
    exact (unescaped e cs rfl rfl).elim

theorem high_of_joinSurrogates? {m n : Nat} {c : Char} (joined : joinSurrogates? m n = some c) :
    ¬ (m < 0xD800 ∨ 0xE000 ≤ m) := by
  unfold joinSurrogates? at joined
  split at joined
  · omega
  · cases joined

theorem textTail_of_characters {cs s : List Char} (h : Characters cs s) (rest : List Char) :
    textTail (cs ++ '"' :: rest) = some (s, rest) := by
  induction h with
  | nil => rfl
  | plain quote backslash printed _ ih =>
    rw [List.cons_append, textTail_plain quote backslash printed, ih]
    rfl
  | short listed _ ih =>
    rw [List.cons_append, List.cons_append, textTail_short listed, ih]
    rfl
  | code number whole _ ih =>
    simp only [List.cons_append]
    rw [textTail, number]
    simp only [whole, if_true, ih]
    rfl
  | halves high low joined _ ih =>
    simp only [List.cons_append]
    have half := high_of_joinSurrogates? joined
    rw [textTail, high]
    simp only [half, if_false, low, Option.bind_some, joined, ih]
    rfl

/-! Numbers. -/

theorem Closed.not_digit {rest : List Char} (closed : Closed rest) {c : Char} (first : rest.head? = some c) :
    Decimal.isDigit c = false ∧ c ≠ '.' ∧ c ≠ 'e' ∧ c ≠ 'E' := by
  rcases closed c first with blank | rfl | rfl | rfl
  · simp only [isSpace, Bool.or_eq_true, decide_eq_true_eq] at blank
    rcases blank with ((rfl | rfl) | rfl) | rfl <;> decide
  · decide
  · decide
  · decide

theorem takeWhile_digits {cs rest : List Char} {n : Nat} (h : Natural cs n) (closed : Closed rest) :
    (cs ++ rest).takeWhile Decimal.isDigit = cs ∧ (cs ++ rest).dropWhile Decimal.isDigit = rest := by
  have stops : ∀ c ∈ rest.head?, Decimal.isDigit c = false := fun _ first => (closed.not_digit first).1
  exact ⟨Text.takeWhile_run h.digits stops, Text.dropWhile_run h.digits stops⟩

theorem exponent?_of_closed {rest : List Char} (closed : Closed rest) : exponent? rest = none := by
  cases rest with
  | nil => rfl
  | cons c rest =>
    obtain ⟨-, -, lower, upper⟩ := closed.not_digit rfl
    simp [exponent?, lower, upper]

theorem number?_of_natural {cs rest : List Char} {n : Nat} (h : Natural cs n) (closed : Closed rest)
    (negative : Bool) :
    number? negative (cs ++ rest) = some (.int (if negative then -n else n), rest) := by
  obtain ⟨taken, dropped⟩ := takeWhile_digits h closed
  have accepted : (cs.isEmpty || (decide (cs.length > 1) && decide (cs.head? = some '0'))) = false := by
    rw [Bool.or_eq_false_iff]
    refine ⟨List.isEmpty_eq_false_iff.mpr h.nonempty, ?_⟩
    by_cases zero : cs.head? = some '0'
    · rw [h.lead zero]
      rfl
    · simp [zero]
  have no_exponent := exponent?_of_closed closed
  unfold number?
  simp only [taken, dropped, accepted]
  cases rest with
  | nil => simp [no_exponent, natural, h.ofDigits]
  | cons c rest =>
    obtain ⟨-, point, -⟩ := closed.not_digit rfl
    simp [point, no_exponent, natural, h.ofDigits]

theorem digit_not_space {c : Char} (digit : c.isDigit = true) : isSpace c = false := by
  rw [Bool.eq_false_iff]
  intro blank
  simp only [isSpace, Bool.or_eq_true, decide_eq_true_eq] at blank
  rcases blank with ((rfl | rfl) | rfl) | rfl <;> cases digit

/-- No digit is one of some characters if none of them is a digit. -/
theorem digit_not_mem {c : Char} (digit : c.isDigit = true) {others : List Char}
    (none : ∀ x ∈ others, x.isDigit = false) : c ∉ others := by
  intro listed
  rw [none c listed] at digit
  cases digit

theorem Natural.exists_cons {cs : List Char} {n : Nat} (h : Natural cs n) :
    ∃ c tail, cs = c :: tail ∧ c.isDigit = true := by
  obtain ⟨c, tail, rfl⟩ := List.exists_cons_of_ne_nil h.nonempty
  exact ⟨c, tail, rfl, h.digits c List.mem_cons_self⟩

/-- A number begins with a digit or a hyphen, and is no word. -/
theorem Whole.exists_cons {cs : List Char} {n : Int} (h : Whole cs n) :
    ∃ c tail, cs = c :: tail ∧
      (c.isDigit = true ∨ c = '-' ∧ ∃ d more, tail = d :: more ∧ d.isDigit = true) := by
  cases h with
  | natural h =>
    obtain ⟨c, tail, rfl, digit⟩ := h.exists_cons
    exact ⟨c, tail, rfl, .inl digit⟩
  | negative h =>
    obtain ⟨d, more, rfl, digit⟩ := h.exists_cons
    exact ⟨'-', d :: more, rfl, .inr ⟨rfl, d, more, rfl, digit⟩⟩

theorem signedNumber?_of_whole {cs rest : List Char} {n : Int} (h : Whole cs n) (closed : Closed rest) :
    signedNumber? (cs ++ rest) = some (.int n, rest) := by
  cases h with
  | natural h =>
    obtain ⟨c, tail, same, digit⟩ := h.exists_cons
    have read := number?_of_natural h closed false
    rw [same] at read ⊢
    rw [List.cons_append] at read ⊢
    unfold signedNumber?
    split
    · next hyphen =>
      obtain ⟨rfl, -⟩ := List.cons.inj hyphen
      cases digit
    · exact read
  | negative h => exact number?_of_natural h closed true

/-- A word begins with a letter, or with a hyphen and a letter. -/
theorem spelled_of_mem_words {x : List Char × Value} (listed : x ∈ words) :
    (∃ l ∈ ['n', 't', 'f', 'N', 'I'], ∃ more, x.1 = l :: more) ∨ ∃ more, x.1 = '-' :: 'I' :: more := by
  have heads : ∀ w ∈ words.map Prod.fst, (∃ l ∈ ['n', 't', 'f', 'N', 'I'], w = l :: w.tail) ∨
      w = '-' :: 'I' :: w.tail.tail := by simp [words]
  rcases heads x.1 (List.mem_map_of_mem listed) with ⟨l, letter, same⟩ | same
  · exact .inl ⟨l, letter, _, same⟩
  · exact .inr ⟨_, same⟩

theorem word?_of_whole {cs : List Char} {n : Int} (h : Whole cs n) (rest : List Char) :
    word? (cs ++ rest) = none := by
  rw [word?, List.findSome?_eq_none_iff]
  intro x listed
  rw [Option.map_eq_none_iff, dropPrefix?, if_neg]
  rw [List.isPrefixOf_iff_prefix]
  rintro ⟨later, same⟩
  obtain ⟨c, tail, rfl, first⟩ := h.exists_cons
  rcases spelled_of_mem_words listed with ⟨l, letter, more, spelled⟩ | ⟨more, spelled⟩
  · rw [spelled] at same
    obtain ⟨rfl, -⟩ := List.cons.inj same
    rcases first with digit | ⟨rfl, -⟩
    · exact digit_not_mem digit (by simp) letter
    · exact absurd letter (by decide)
  · rw [spelled] at same
    rcases first with digit | ⟨rfl, d, digits, rfl, digit⟩
    · obtain ⟨rfl, -⟩ := List.cons.inj same
      cases digit
    · obtain ⟨-, tails⟩ := List.cons.inj same
      obtain ⟨rfl, -⟩ := List.cons.inj tails
      cases digit

/-! Values. -/

theorem value_other {c : Char} (space : isSpace c = false) (other : c ∉ ['"', '[', '{']) (fuel : Nat)
    (tail : List Char) :
    value (fuel + 1) (c :: tail) = (word? (c :: tail)).or (signedNumber? (c :: tail)) := by
  rw [value, skipSpace_cons space]
  split
  · next same =>
    cases same
    exact absurd (by decide) other
  · next same =>
    cases same
    exact absurd (by decide) other
  · next same =>
    cases same
    exact absurd (by decide) other
  · rfl

theorem value_of_whole {cs rest : List Char} {n : Int} (h : Whole cs n) (closed : Closed rest) (fuel : Nat) :
    value (fuel + 1) (cs ++ rest) = some (.int n, rest) := by
  have number := signedNumber?_of_whole h closed
  have no_word := word?_of_whole h rest
  obtain ⟨c, tail, rfl, first⟩ := h.exists_cons
  have begins : isSpace c = false ∧ c ∉ ['"', '[', '{'] := by
    rcases first with digit | ⟨rfl, -⟩
    · exact ⟨digit_not_space digit, digit_not_mem digit (by simp)⟩
    · decide
  rw [List.cons_append] at number no_word ⊢
  rw [value_other begins.1 begins.2, no_word, number]
  rfl

theorem value_append {ws : List Char} (blank : Blank ws) (fuel : Nat) (cs : List Char) :
    value fuel (ws ++ cs) = value fuel cs := by
  rw [← value_skipSpace, skipSpace_append blank, value_skipSpace]

theorem value_text {cs s : List Char} (h : Characters cs s) (fuel : Nat) (rest : List Char) :
    value (fuel + 1) ('"' :: (cs ++ '"' :: rest)) = some (.text (String.ofList s), rest) := by
  rw [value, skipSpace_cons rfl]
  simp only [textTail_of_characters h]
  rfl

theorem value_emptyList {ws : List Char} (blank : Blank ws) (fuel : Nat) (rest : List Char) :
    value (fuel + 1) ('[' :: (ws ++ ']' :: rest)) = some (.list [], rest) := by
  rw [value, skipSpace_cons rfl]
  simp only [skipSpace_append_cons blank (by decide : isSpace ']' = false)]

theorem value_emptyTable {ws : List Char} (blank : Blank ws) (fuel : Nat) (rest : List Char) :
    value (fuel + 1) ('{' :: (ws ++ '}' :: rest)) = some (.table [], rest) := by
  rw [value, skipSpace_cons rfl]
  simp only [skipSpace_append_cons blank (by decide : isSpace '}' = false)]

theorem value_list {c : Char} {rest tail : List Char} (first : skipSpace rest = c :: tail) (other : c ≠ ']')
    (fuel : Nat) :
    value (fuel + 1) ('[' :: rest) = (items fuel rest).map fun (vs, rest) => (.list vs, rest) := by
  rw [value, skipSpace_cons rfl, ← items_skipSpace fuel rest]
  simp only
  split
  · next same =>
    cases first.symm.trans same
    exact absurd rfl other
  · rfl

theorem value_table {c : Char} {rest tail : List Char} (first : skipSpace rest = c :: tail) (other : c ≠ '}')
    (fuel : Nat) :
    value (fuel + 1) ('{' :: rest) =
      (members fuel rest).map fun (es, rest) => (.table (assignAll es), rest) := by
  rw [value, skipSpace_cons rfl, ← members_skipSpace fuel rest]
  simp only
  split
  · next same =>
    cases first.symm.trans same
    exact absurd rfl other
  · rfl

/-- The reader takes the text off the front of whatever closes it, and gives the value. -/
def Reads (cs : List Char) (v : Value) : Prop :=
  ∀ (fuel : Nat) (rest : List Char), 2 * cs.length ≤ fuel → Closed rest →
    value fuel (cs ++ rest) = some (v, rest)

theorem Reads.piece {p : Piece} (reads : Reads p.text p.value) (padded : p.Padded) {fuel : Nat}
    (enough : 2 * p.spelled.length ≤ fuel) {rest : List Char} (closed : Closed rest) :
    value fuel (p.spelled ++ rest) = some (p.value, p.after ++ rest) := by
  have long : 2 * p.text.length ≤ fuel := by
    rw [Piece.spelled, List.length_append, List.length_append] at enough
    omega
  rw [Piece.spelled, List.append_assoc, List.append_assoc, value_append padded.before]
  exact reads fuel (p.after ++ rest) long (closed.append padded.after)

/-! Items. -/

section Items

variable {fuel : Nat} {cs ws rest : List Char} {v : Value}

theorem items_last (read : value fuel cs = some (v, ws ++ ']' :: rest)) (blank : Blank ws) :
    items (fuel + 1) cs = some ([v], rest) := by
  rw [items, read]
  simp only [skipSpace_append_cons blank (by decide : isSpace ']' = false)]

theorem items_more (read : value fuel cs = some (v, ws ++ ',' :: rest)) (blank : Blank ws) :
    items (fuel + 1) cs = (items fuel rest).map fun (vs, rest) => (v :: vs, rest) := by
  rw [items, read]
  simp only [skipSpace_append_cons blank (by decide : isSpace ',' = false)]

end Items

theorem intercalate_more (cs ds : List Char) (more : List (List Char)) :
    [','].intercalate (cs :: ds :: more) = cs ++ ',' :: [','].intercalate (ds :: more) := by
  rw [List.intercalate_cons_cons, List.append_assoc]
  rfl

theorem intercalate_begins (cs : List Char) (more : List (List Char)) :
    ∃ later, [','].intercalate (cs :: more) = cs ++ later := by
  cases more with
  | nil => exact ⟨[], by rw [List.intercalate_singleton, List.append_nil]⟩
  | cons ds more => exact ⟨_, intercalate_more cs ds more⟩

theorem items_of_pieces {pieces : List Piece} (nonempty : pieces ≠ []) (padded : ∀ p ∈ pieces, p.Padded)
    (each : ∀ p ∈ pieces, Reads p.text p.value) {fuel : Nat}
    (enough : 2 * ([','].intercalate (pieces.map Piece.spelled)).length + 1 ≤ fuel) (rest : List Char) :
    items fuel ([','].intercalate (pieces.map Piece.spelled) ++ ']' :: rest) =
      some (pieces.map Piece.value, rest) := by
  induction pieces generalizing fuel with
  | nil => exact absurd rfl nonempty
  | cons p more ih =>
    rw [List.forall_mem_cons] at padded each
    obtain ⟨fuel, rfl⟩ : ∃ f, fuel = f + 1 := ⟨fuel - 1, by omega⟩
    cases more with
    | nil =>
      rw [List.map_singleton, List.intercalate_singleton] at enough ⊢
      have read := each.1.piece padded.1 (by omega : _ ≤ fuel) (.cons (c := ']') (by decide) rest)
      exact items_last read padded.1.after
    | cons q more =>
      have split : [','].intercalate ((p :: q :: more).map Piece.spelled) =
          p.spelled ++ ',' :: [','].intercalate ((q :: more).map Piece.spelled) := intercalate_more ..
      rw [split, List.length_append, List.length_cons] at enough
      rw [split, List.append_assoc]
      have read (rest : List Char) :=
        each.1.piece padded.1 (by omega : _ ≤ fuel) (.cons (c := ',') (by decide) rest)
      rw [List.cons_append, items_more (read _) padded.1.after,
        ih (List.cons_ne_nil q more) padded.2 each.2 (by omega)]
      rfl

/-! Entries. -/

section Entries

variable {e : Entry} {fuel : Nat} {ws tail rest : List Char}

/-- A key and the value behind its colon, in front of what goes on with the entries. -/
theorem members_entry (padded : e.Padded)
    (read : value fuel (e.piece.spelled ++ tail) = some (e.piece.value, ws ++ rest)) (blank : Blank ws) :
    members (fuel + 1) (e.spelled ++ tail) =
      match skipSpace rest with
      | ',' :: rest => (members fuel rest).map fun (es, rest) => (e.assigned :: es, rest)
      | '}' :: rest => some ([e.assigned], rest)
      | _ => none := by
  have spelled : e.spelled ++ tail =
      e.before ++ '"' :: (e.name ++ '"' :: (e.after ++ ':' :: (e.piece.spelled ++ tail))) := by
    simp [Entry.spelled]
  rw [members, spelled, skipSpace_append_cons padded.before (by decide : isSpace '"' = false)]
  simp only [textTail_of_characters padded.name,
    skipSpace_append_cons padded.after (by decide : isSpace ':' = false), read, skipSpace_append blank]
  rfl

theorem members_last (padded : e.Padded)
    (read : value fuel (e.piece.spelled ++ '}' :: rest) = some (e.piece.value, ws ++ '}' :: rest))
    (blank : Blank ws) : members (fuel + 1) (e.spelled ++ '}' :: rest) = some ([e.assigned], rest) := by
  rw [members_entry padded read blank, skipSpace_cons (by decide)]
  rfl

theorem members_more (padded : e.Padded)
    (read : value fuel (e.piece.spelled ++ ',' :: rest) = some (e.piece.value, ws ++ ',' :: rest))
    (blank : Blank ws) :
    members (fuel + 1) (e.spelled ++ ',' :: rest) =
      (members fuel rest).map fun (es, rest) => (e.assigned :: es, rest) := by
  rw [members_entry padded read blank, skipSpace_cons (by decide)]
  rfl

end Entries

theorem members_of_entries {entries : List Entry} (nonempty : entries ≠ []) (padded : ∀ e ∈ entries, e.Padded)
    (each : ∀ e ∈ entries, Reads e.piece.text e.piece.value) {fuel : Nat}
    (enough : 2 * ([','].intercalate (entries.map Entry.spelled)).length + 1 ≤ fuel) (rest : List Char) :
    members fuel ([','].intercalate (entries.map Entry.spelled) ++ '}' :: rest) =
      some (entries.map Entry.assigned, rest) := by
  induction entries generalizing fuel with
  | nil => exact absurd rfl nonempty
  | cons e more ih =>
    rw [List.forall_mem_cons] at padded each
    obtain ⟨fuel, rfl⟩ : ∃ f, fuel = f + 1 := ⟨fuel - 1, by omega⟩
    have shorter : e.piece.spelled.length ≤ e.spelled.length := by
      simp only [Entry.spelled, List.length_append, List.length_cons]
      omega
    cases more with
    | nil =>
      rw [List.map_singleton, List.intercalate_singleton] at enough ⊢
      have read := each.1.piece padded.1.piece (by omega : _ ≤ fuel) (.cons (c := '}') (by decide) rest)
      exact members_last padded.1 read padded.1.piece.after
    | cons f more =>
      have split : [','].intercalate ((e :: f :: more).map Entry.spelled) =
          e.spelled ++ ',' :: [','].intercalate ((f :: more).map Entry.spelled) := intercalate_more ..
      rw [split, List.length_append, List.length_cons] at enough
      rw [split, List.append_assoc]
      have read (rest : List Char) :=
        each.1.piece padded.1.piece (by omega : _ ≤ fuel) (.cons (c := ',') (by decide) rest)
      rw [List.cons_append, members_more padded.1 (read _) padded.1.piece.after,
        ih (List.cons_ne_nil f more) padded.2 each.2 (by omega)]
      rfl

/-! Texts. -/

/-- A text for a value begins with what begins no blank and closes nothing. -/
theorem Denotes.exists_cons {cs : List Char} {v : Value} (h : Denotes cs v) :
    ∃ c tail, cs = c :: tail ∧ isSpace c = false ∧ c ≠ ']' := by
  cases h with
  | whole h =>
    obtain ⟨c, tail, rfl, digit | ⟨rfl, -⟩⟩ := h.exists_cons
    · have other : c ∉ [']'] := digit_not_mem digit (by simp)
      exact ⟨c, tail, rfl, digit_not_space digit, by simpa using other⟩
    · exact ⟨'-', tail, rfl, by decide, by decide⟩
  | _ => exact ⟨_, _, rfl, by decide, by decide⟩

theorem skipSpace_pieces {p : Piece} (padded : p.Padded) (denotes : Denotes p.text p.value) (more : List Piece)
    (rest : List Char) :
    ∃ c tail, skipSpace ([','].intercalate ((p :: more).map Piece.spelled) ++ rest) = c :: tail ∧ c ≠ ']' := by
  obtain ⟨c, tail, text, space, other⟩ := denotes.exists_cons
  obtain ⟨later, begins⟩ := intercalate_begins p.spelled (more.map Piece.spelled)
  refine ⟨c, tail ++ p.after ++ later ++ rest, ?_, other⟩
  rw [List.map_cons, begins, Piece.spelled, text, List.append_assoc, List.append_assoc,
    skipSpace_append padded.before]
  simp only [List.cons_append, List.append_assoc, skipSpace_cons space]

theorem skipSpace_entries {e : Entry} (padded : e.Padded) (more : List Entry) (rest : List Char) :
    ∃ tail, skipSpace ([','].intercalate ((e :: more).map Entry.spelled) ++ rest) = '"' :: tail := by
  obtain ⟨later, begins⟩ := intercalate_begins e.spelled (more.map Entry.spelled)
  rw [List.map_cons, begins, Entry.spelled, List.append_assoc, List.append_assoc,
    skipSpace_append padded.before]
  exact ⟨_, skipSpace_cons (by decide) _⟩

theorem reads_of_fuel {cs : List Char} {v : Value} (nonempty : cs ≠ [])
    (read : ∀ (fuel : Nat) (rest : List Char), 2 * cs.length ≤ fuel + 1 → Closed rest →
      value (fuel + 1) (cs ++ rest) = some (v, rest)) : Reads cs v := by
  intro fuel rest enough closed
  have long : 0 < cs.length := List.length_pos_iff.mpr nonempty
  obtain ⟨fuel, rfl⟩ : ∃ f, fuel = f + 1 := ⟨fuel - 1, by omega⟩
  exact read fuel rest enough closed

/-- The reader takes every text of the grammar. -/
theorem Denotes.reads {cs : List Char} {v : Value} (h : Denotes cs v) : Reads cs v := by
  induction h with
  | null | yes | no =>
    refine reads_of_fuel nofun fun fuel rest _ _ => ?_
    exact value_other (by decide) (by decide) fuel _
  | whole h =>
    obtain ⟨c, tail, same, -⟩ := h.exists_cons
    refine reads_of_fuel (by rw [same]; exact nofun) fun fuel rest _ closed => ?_
    exact value_of_whole h closed fuel
  | text h =>
    refine reads_of_fuel nofun fun fuel rest _ _ => ?_
    rw [List.cons_append, List.append_assoc]
    exact value_text h fuel rest
  | emptyList blank =>
    refine reads_of_fuel nofun fun fuel rest _ _ => ?_
    rw [List.cons_append, List.append_assoc]
    exact value_emptyList blank fuel rest
  | @list pieces nonempty padded each ih =>
    refine reads_of_fuel nofun fun fuel rest enough _ => ?_
    simp only [List.length_cons, List.length_append, List.length_nil] at enough
    obtain ⟨p, more, rfl⟩ := List.exists_cons_of_ne_nil nonempty
    obtain ⟨c, tail, first, other⟩ := skipSpace_pieces (padded p List.mem_cons_self)
      (each p List.mem_cons_self) more (']' :: rest)
    rw [List.cons_append, List.append_assoc]
    refine (value_list first other fuel).trans ?_
    rw [items_of_pieces nonempty padded ih (by omega) rest]
    rfl
  | emptyTable blank =>
    refine reads_of_fuel nofun fun fuel rest _ _ => ?_
    rw [List.cons_append, List.append_assoc]
    exact value_emptyTable blank fuel rest
  | @table entries nonempty padded each ih =>
    refine reads_of_fuel nofun fun fuel rest enough _ => ?_
    simp only [List.length_cons, List.length_append, List.length_nil] at enough
    obtain ⟨e, more, rfl⟩ := List.exists_cons_of_ne_nil nonempty
    obtain ⟨tail, first⟩ := skipSpace_entries (padded e List.mem_cons_self) more ('}' :: rest)
    rw [List.cons_append, List.append_assoc]
    refine (value_table first (by decide) fuel).trans ?_
    rw [members_of_entries nonempty padded ih (by omega) rest]
    rfl

theorem read?_of_isText {cs : List Char} {v : Value} (h : IsText cs v) : read? cs = some v := by
  obtain ⟨p, padded, denotes, rfl, rfl⟩ := h
  have read := denotes.reads.piece padded (Nat.le_succ (2 * p.spelled.length)) closed_nil
  rw [List.append_nil] at read
  have nothing_left : skipSpace (p.after ++ []) = [] := by
    rw [skipSpace_append padded.after]
    rfl
  rw [read?, read]
  simp only [nothing_left]
  rfl

/-- A text stands for one value only. -/
theorem IsText.unique {cs : List Char} {v w : Value} (first : IsText cs v) (second : IsText cs w) : v = w := by
  have read := read?_of_isText first
  rw [read?_of_isText second] at read
  exact (Option.some.inj read).symm

/-- What was written is read back. -/
theorem read?_write {v : Value} (exact_v : Exact v) : read? (write v) = some v :=
  read?_of_isText (isText_write exact_v)

end C64Screen.Json
