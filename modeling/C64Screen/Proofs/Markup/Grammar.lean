import C64Screen.Proofs.Markup.Spelling

/-!
# The grammar of markup

Which texts are markup, and what is wrong with those that are not, said of the characters alone. A text is
markup if it is a concatenation of items. Any other text falls apart, in one way only, into markup and a
rest that has a brace in front but no item, and the first characters and the length of that rest settle
the fault and where it is found.
-/

namespace C64Screen.Markup

open Unicode

/-- The names of the tokens that stand alone. -/
def bareNames : List (List Char) :=
  [['C', 'L', 'R'], ['H', 'O', 'M'], ['R', 'O', 'N'], ['R', 'O', 'F']]

/-- The names of the tokens that take a number. -/
def numericNames : List (List Char) :=
  [['C', 'U', 'P'], ['C', 'D', 'N'], ['C', 'L', 'T'], ['C', 'R', 'T'], ['C', 'O', 'L']]

def IsField (cs : List Char) : Prop :=
  ∃ lead last, cs = [lead, last] ∧ (lead = '+' ∨ lead = '-' ∨ isDigit lead) ∧ isDigit last

inductive IsItem : List Char → Prop
  | character {c : Char} (h : c ≠ tokenStart) : IsItem [c]
  | bare {name : List Char} {closing : Char} (h : name ∈ bareNames) :
      IsItem (tokenStart :: (name ++ [closing]))
  | numeric {name field : List Char} {separator closing : Char} (hn : name ∈ numericNames)
      (hf : IsField field) : IsItem (tokenStart :: (name ++ separator :: (field ++ [closing])))

def IsMarkup (text : List Char) : Prop :=
  ∃ parts : List (List Char), (∀ part ∈ parts, IsItem part) ∧ parts.flatten = text

/-- A text comes apart into markup and a rest that has a brace in front but no item. -/
structure Breaks (text valid rest : List Char) : Prop where
  split : text = valid ++ rest
  markup : IsMarkup valid
  brace : rest.head? = some tokenStart
  noItem : ∀ part, IsItem part → ¬ part <+: rest

/-- The name of a numeric token is there, but its field is cut off by the end of the text. -/
def FieldCut (rest : List Char) : Prop := (rest.drop 1).take 3 ∈ numericNames ∧ rest.length < 7

/-- Nothing but the closing character of a token is missing. -/
def Unclosed (rest : List Char) : Prop :=
  (rest.drop 1).take 3 ∈ bareNames ∧ rest.length = 4 ∨
    (rest.drop 1).take 3 ∈ numericNames ∧ rest.length = 7 ∧ IsField ((rest.drop 5).take 2)

/-- What is wrong with a rest that has a brace in front but no item, and how far behind the brace that is
reported. -/
inductive Fails (rest : List Char) : Fault → (ahead : Nat) → Prop
  | unknown (h : (rest.drop 1).take 3 ∉ bareNames ++ numericNames) :
      Fails rest .unknownFormatter 1
  | cut (h : FieldCut rest) : Fails rest .parsing 0
  | field (hn : (rest.drop 1).take 3 ∈ numericNames) (hl : 7 ≤ rest.length)
      (hf : ¬ IsField ((rest.drop 5).take 2)) : Fails rest .numberFormat 5
  | unclosed (h : Unclosed rest) : Fails rest .parsing (rest.length + 1)

theorem bareNames_disjoint {name : List Char} (h : name ∈ bareNames) : name ∉ numericNames := by
  have : ∀ name ∈ bareNames, name ∉ numericNames := by decide
  exact this name h

theorem Fails.unique {rest : List Char} {f g : Fault} {m n : Nat} (hf : Fails rest f m)
    (hg : Fails rest g n) : f = g ∧ m = n := by
  cases hf <;> cases hg <;>
    grind [FieldCut, Unclosed, bareNames_disjoint]

theorem Unclosed.not_fieldCut {rest : List Char} (h : Unclosed rest) : ¬ FieldCut rest := by
  intro cut
  cases (Fails.unique (.cut cut) (.unclosed h)).2

theorem Fails.parsing_iff {rest : List Char} {fault : Fault} {ahead : Nat}
    (h : Fails rest fault ahead) : fault = .parsing ↔ FieldCut rest ∨ Unclosed rest := by
  constructor
  · rintro rfl
    cases h with
    | cut cut => exact .inl cut
    | unclosed unclosed => exact .inr unclosed
  · rintro (cut | unclosed)
    · exact (h.unique (.cut cut)).1
    · exact (h.unique (.unclosed unclosed)).1

theorem Fails.not_unclosed {rest : List Char} {fault : Fault} {ahead : Nat} (h : Fails rest fault ahead)
    (kind : fault = .unknownFormatter ∨ fault = .numberFormat ∨ FieldCut rest) : ¬ Unclosed rest := by
  intro unclosed
  obtain ⟨rfl, -⟩ := h.unique (.unclosed unclosed)
  rcases kind with other | other | cut
  · cases other
  · cases other
  · exact unclosed.not_fieldCut cut

/-! The names, fields and items of the library are those of the grammar. -/

theorem mem_bareNames_iff {cs : List Char} : cs ∈ bareNames ↔ ∃ name : Bare, cs = name.letters := by
  constructor
  · intro h
    simp only [bareNames, List.mem_cons, List.not_mem_nil, or_false] at h
    rcases h with rfl | rfl | rfl | rfl
    · exact ⟨.clear, rfl⟩
    · exact ⟨.home, rfl⟩
    · exact ⟨.reverseOn, rfl⟩
    · exact ⟨.reverseOff, rfl⟩
  · rintro ⟨name, rfl⟩
    cases name <;> decide

theorem mem_numericNames_iff {cs : List Char} :
    cs ∈ numericNames ↔ ∃ name : Numeric, cs = name.letters := by
  constructor
  · intro h
    simp only [numericNames, List.mem_cons, List.not_mem_nil, or_false] at h
    rcases h with rfl | rfl | rfl | rfl | rfl
    · exact ⟨.up, rfl⟩
    · exact ⟨.down, rfl⟩
    · exact ⟨.forward, rfl⟩
    · exact ⟨.back, rfl⟩
    · exact ⟨.colour, rfl⟩
  · rintro ⟨name, rfl⟩
    cases name <;> decide

theorem Name.ofLetters?_eq_none_iff {cs : List Char} :
    Name.ofLetters? cs = none ↔ cs ∉ bareNames ++ numericNames := by
  rw [List.mem_append, mem_bareNames_iff, mem_numericNames_iff]
  constructor
  · rintro h (⟨name, rfl⟩ | ⟨name, rfl⟩)
    · cases (Name.ofLetters?_eq_some_iff (n := .bare name)).mpr rfl ▸ h
    · cases (Name.ofLetters?_eq_some_iff (n := .numeric name)).mpr rfl ▸ h
  · intro h
    cases hn : Name.ofLetters? cs with
    | none => rfl
    | some name =>
      have spelled := Name.ofLetters?_eq_some_iff.mp hn
      cases name with
      | bare name => exact absurd (.inl ⟨name, spelled⟩) h
      | numeric name => exact absurd (.inr ⟨name, spelled⟩) h

theorem isField_iff {lead last : Char} :
    IsField [lead, last] ↔ ∃ n, fieldValue? lead last = some n := by
  constructor
  · rintro ⟨lead, last, heq, hlead, hlast⟩
    cases heq
    obtain ⟨d, hd⟩ := isDigit_iff.mp hlast
    rw [fieldValue?, hd]
    rcases hlead with rfl | rfl | hlead
    · exact ⟨d, rfl⟩
    · exact ⟨-d, rfl⟩
    · obtain ⟨tens, ht⟩ := isDigit_iff.mp hlead
      dsimp only
      split
      · exact ⟨d, rfl⟩
      · split
        · exact ⟨-d, rfl⟩
        · exact ⟨_, by rw [ht]; rfl⟩
  · rintro ⟨n, hn⟩
    unfold fieldValue? at hn
    split at hn
    · cases hn
    · next d hd =>
      refine ⟨lead, last, rfl, ?_, isDigit_iff.mpr ⟨d, hd⟩⟩
      by_cases plus : lead = '+'
      · exact .inl plus
      · by_cases minus : lead = '-'
        · exact .inr (.inl minus)
        · rw [if_neg plus, if_neg minus] at hn
          obtain ⟨tens, ht, -⟩ := Option.map_eq_some_iff.mp hn
          exact .inr (.inr (isDigit_iff.mpr ⟨tens, ht⟩))

theorem isItem_iff {cs : List Char} : IsItem cs ↔ ∃ i : Item, i.letters = cs := by
  constructor
  · rintro (h | h | ⟨hn, hf⟩)
    · exact ⟨.plain _ h, rfl⟩
    · obtain ⟨name, rfl⟩ := mem_bareNames_iff.mp h
      exact ⟨.bare name _, rfl⟩
    · obtain ⟨name, rfl⟩ := mem_numericNames_iff.mp hn
      obtain ⟨lead, last, rfl, hlead, hlast⟩ := hf
      obtain ⟨n, hn⟩ := isField_iff.mp ⟨lead, last, rfl, hlead, hlast⟩
      exact ⟨.numeric name _ ⟨lead, last, n, hn⟩ _, rfl⟩
  · rintro ⟨i, rfl⟩
    cases i with
    | plain c h => exact .character h
    | bare name closing => exact .bare (mem_bareNames_iff.mpr ⟨name, rfl⟩)
    | numeric name separator field closing =>
      exact .numeric (mem_numericNames_iff.mpr ⟨name, rfl⟩)
        (isField_iff.mpr ⟨field.value, field.reads⟩)

theorem isMarkup_iff {text : List Char} : IsMarkup text ↔ ∃ items, spell items = text := by
  constructor
  · rintro ⟨parts, hparts, rfl⟩
    induction parts with
    | nil => exact ⟨[], rfl⟩
    | cons part parts ih =>
      obtain ⟨i, hi⟩ := isItem_iff.mp (hparts part (by simp))
      obtain ⟨items, hitems⟩ := ih (fun p hp => hparts p (List.mem_cons_of_mem _ hp))
      exact ⟨i :: items, by rw [spell_cons, hi, hitems]; rfl⟩
  · rintro ⟨items, rfl⟩
    refine ⟨items.map Item.letters, ?_, List.flatMap_def.symm⟩
    intro part hpart
    obtain ⟨i, -, hi⟩ := List.mem_map.mp hpart
    exact isItem_iff.mpr ⟨i, hi⟩

theorem isMarkup_spell (items : List Item) : IsMarkup (spell items) :=
  isMarkup_iff.mpr ⟨items, rfl⟩

/-! Reading ends where the grammar says. -/

/-- The fault in an ending, and how far behind its brace it is reported. -/
def Ending.fault? : Ending → Option (Fault × Nat)
  | .complete => none
  | .broken fault ahead => some (fault, ahead)
  | .unclosed _ ahead => some (.parsing, ahead)

/-- All the ways in which reading ends at a rest that has a brace in front. -/
inductive Stuck (rest : List Char) : Ending → Prop
  | unknown (h : (rest.drop 1).take 3 ∉ bareNames ++ numericNames) :
      Stuck rest (.broken .unknownFormatter 1)
  | cut (h : FieldCut rest) : Stuck rest (.broken .parsing 0)
  | field (hn : (rest.drop 1).take 3 ∈ numericNames) (hl : 7 ≤ rest.length)
      (hf : ¬ IsField ((rest.drop 5).take 2)) : Stuck rest (.broken .numberFormat 5)
  | unclosed {effect : Effect} (h : Unclosed rest)
      (closes : ∀ closing, ∃ i : Item, i.letters = rest ++ [closing] ∧ i.effect = effect) :
      Stuck rest (.unclosed effect (rest.length + 1))

theorem Stuck.fails {rest : List Char} {e : Ending} (h : Stuck rest e) :
    ∃ fault ahead, e.fault? = some (fault, ahead) ∧ Fails rest fault ahead := by
  cases h with
  | unknown h => exact ⟨_, _, rfl, .unknown h⟩
  | cut h => exact ⟨_, _, rfl, .cut h⟩
  | field hn hl hf => exact ⟨_, _, rfl, .field hn hl hf⟩
  | unclosed h => exact ⟨_, _, rfl, .unclosed h⟩

theorem Stuck.exists_unclosed {rest : List Char} {e : Ending} (h : Stuck rest e)
    (unclosed : Unclosed rest) :
    ∃ effect, e = .unclosed effect (rest.length + 1) ∧
      ∀ closing, ∃ i : Item, i.letters = rest ++ [closing] ∧ i.effect = effect := by
  cases h with
  | unclosed _ closes => exact ⟨_, rfl, closes⟩
  | unknown unknown => cases (Fails.unique (.unclosed unclosed) (.unknown unknown)).1
  | cut cut => exact absurd cut unclosed.not_fieldCut
  | field known long illegal => cases (Fails.unique (.unclosed unclosed) (.field known long illegal)).1

theorem Stuck.exists_broken {rest : List Char} {e : Ending} (h : Stuck rest e)
    (closed : ¬ Unclosed rest) : ∃ fault ahead, e = .broken fault ahead := by
  cases h with
  | unclosed unclosed => exact absurd unclosed closed
  | _ => exact ⟨_, _, rfl⟩

namespace Script

theorem bareName_mem (name : Bare) (cs : List Char) :
    ((tokenStart :: (name.letters ++ cs)).drop 1).take 3 ∈ bareNames :=
  mem_bareNames_iff.mpr ⟨name, take_letters (.bare name) cs⟩

theorem numericName_mem (name : Numeric) (cs : List Char) :
    ((tokenStart :: (name.letters ++ cs)).drop 1).take 3 ∈ numericNames :=
  mem_numericNames_iff.mpr ⟨name, take_letters (.numeric name) cs⟩

theorem field_of_token (name : Numeric) (separator lead last : Char) (cs : List Char) :
    ((tokenStart :: (name.letters ++ separator :: lead :: last :: cs)).drop 5).take 2 =
      [lead, last] := by
  cases name <;> rfl

theorem stuck_of_token {cs : List Char} {e : Ending} (h : token cs = .ending e) :
    Stuck (tokenStart :: cs) e := by
  cases fragment_of_token h with
  | unknown unknown => exact .unknown (Name.ofLetters?_eq_none_iff.mp unknown)
  | bare name =>
    have known := bareName_mem name []
    rw [List.append_nil] at known
    have length : (tokenStart :: name.letters).length = 4 := by simp
    have stuck : Stuck (tokenStart :: name.letters) (.unclosed name.effect (_ + 1)) :=
      .unclosed (.inl ⟨known, length⟩) fun closing => ⟨.bare name closing, rfl, rfl⟩
    rw [length] at stuck
    exact stuck
  | short name short =>
    refine .cut ⟨numericName_mem name _, ?_⟩
    rw [List.length_cons, List.length_append, name.length_letters]
    omega
  | illegal name separator tail illegal =>
    refine .field (numericName_mem name _) (by simp; omega) ?_
    rw [field_of_token, isField_iff, illegal]
    rintro ⟨n, hn⟩
    cases hn
  | numeric name separator field =>
    have legal : IsField [field.lead, field.last] := isField_iff.mpr ⟨field.value, field.reads⟩
    have length : (tokenStart :: (name.letters ++ [separator, field.lead, field.last])).length = 7 := by
      simp
    have stuck : Stuck (tokenStart :: (name.letters ++ [separator, field.lead, field.last]))
        (.unclosed (name.effect field.value) (_ + 1)) :=
      .unclosed (.inr ⟨numericName_mem name _, length, by rwa [field_of_token]⟩) fun closing =>
        ⟨.numeric name separator field closing, by simp [Item.letters], rfl⟩
    rw [length] at stuck
    exact stuck

/-- Where reading ends, the grammar breaks the text off. -/
theorem Ends.noItem {w : List Char} {e : Ending} (h : Ends w e) {part : List Char}
    (hp : IsItem part) : ¬ part <+: w := by
  rintro ⟨rest, rfl⟩
  obtain ⟨i, rfl⟩ := isItem_iff.mp hp
  have := h.ofText
  rw [ofText_letters] at this
  cases this

theorem ends_of_noItem {w : List Char} (brace : w.head? = some tokenStart)
    (noItem : ∀ part, IsItem part → ¬ part <+: w) :
    ∃ cs e, w = tokenStart :: cs ∧ token cs = .ending e := by
  obtain ⟨cs, rfl⟩ := List.head?_eq_some_iff.mp brace
  cases h : token cs with
  | item i rest =>
    exact absurd ⟨rest, (letters_of_token h).symm⟩ (noItem i.letters (isItem_iff.mpr ⟨i, rfl⟩))
  | ending e => exact ⟨cs, e, rfl, h⟩

end Script

theorem Breaks.ofText {text u w : List Char} (h : Breaks text u w) :
    ∃ items e, u = spell items ∧ Stuck w e ∧ Script.ofText text = ⟨items, e⟩ := by
  obtain ⟨items, rfl⟩ := isMarkup_iff.mp h.markup
  obtain ⟨cs, e, rfl, ending⟩ := Script.ends_of_noItem h.brace h.noItem
  refine ⟨items, e, rfl, Script.stuck_of_token ending, ?_⟩
  rw [h.split, Script.ofText_spell_append, (Script.Ends.token ending).ofText, List.append_nil]

/-- A text comes apart in one way at most. -/
theorem Breaks.unique {text u w u' w' : List Char} (h : Breaks text u w) (h' : Breaks text u' w') :
    u = u' ∧ w = w' := by
  obtain ⟨items, e, rfl, -, read⟩ := h.ofText
  obtain ⟨items', e', rfl, -, read'⟩ := h'.ofText
  rw [read] at read'
  cases read'
  exact ⟨rfl, List.append_cancel_left (h.split.symm.trans h'.split)⟩

theorem isMarkup_or_breaks (text : List Char) :
    (Script.ofText text).ending = .complete ∧ IsMarkup text ∨ ∃ u w, Breaks text u w := by
  obtain ⟨w, split, ends⟩ := Script.exists_spell_append text
  generalize (Script.ofText text).items = items at split
  generalize (Script.ofText text).ending = e at ends
  cases ends with
  | complete => exact .inl ⟨rfl, isMarkup_iff.mpr ⟨items, by simpa using split.symm⟩⟩
  | token h =>
    exact .inr ⟨_, _, split, isMarkup_spell items, rfl, fun _ => (Script.Ends.token h).noItem⟩

theorem isMarkup_iff_ending {text : List Char} :
    IsMarkup text ↔ (Script.ofText text).ending = .complete := by
  constructor
  · intro h
    obtain ⟨items, rfl⟩ := isMarkup_iff.mp h
    rw [Script.ofText_spell]
  · intro h
    rcases isMarkup_or_breaks text with ⟨-, markup⟩ | ⟨u, w, breaks⟩
    · exact markup
    · obtain ⟨items, e, -, stuck, read⟩ := breaks.ofText
      rw [read] at h
      subst h
      cases stuck

/-! Items in front make no difference to whether a text is markup. -/

theorem isMarkup_letters_append (i : Item) {rest : List Char} :
    IsMarkup (i.letters ++ rest) ↔ IsMarkup rest := by
  rw [isMarkup_iff_ending, isMarkup_iff_ending, Script.ofText_letters, Script.ending_cons]

theorem isMarkup_append {valid rest : List Char} (markup : IsMarkup valid) :
    IsMarkup (valid ++ rest) ↔ IsMarkup rest := by
  obtain ⟨items, rfl⟩ := isMarkup_iff.mp markup
  rw [isMarkup_iff_ending, isMarkup_iff_ending, Script.ofText_spell_append]

theorem isMarkup_numeric_append (name : Numeric) {separator lead last closing : Char} {rest : List Char} :
    IsMarkup (tokenStart :: (name.letters ++ separator :: lead :: last :: closing :: rest)) ↔
      IsField [lead, last] ∧ IsMarkup rest := by
  rw [isField_iff]
  cases reads : fieldValue? lead last with
  | none =>
    have illegal : Script.token (name.letters ++ separator :: lead :: last :: closing :: rest) =
        .ending (.broken .numberFormat 5) := by
      rw [Script.token_numeric, Script.numericToken]
      split
      · rfl
      · next n reads' =>
        rw [reads] at reads'
        cases reads'
    rw [isMarkup_iff_ending, Script.ofText_ending illegal]
    simp
  | some n =>
    have spelled : tokenStart :: (name.letters ++ separator :: lead :: last :: closing :: rest) =
        (Item.numeric name separator ⟨lead, last, n, reads⟩ closing).letters ++ rest := by
      simp [Item.letters]
    rw [spelled, isMarkup_letters_append]
    simp

end C64Screen.Markup
