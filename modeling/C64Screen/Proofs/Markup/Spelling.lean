import C64Screen.Markup.Script

/-!
# Items as they are spelled

Items form a prefix code. Reading a text that begins with the letters of an item gives that item and
leaves what follows, whatever that is, so a list of items is read back from the text it spells. Conversely
every text is the spelling of its items and a rest that begins with no item.
-/

namespace C64Screen.Markup

/-- The text that a list of items is written as. -/
def spell (items : List Item) : List Char := items.flatMap Item.letters

@[simp] theorem spell_nil : spell [] = [] := rfl

@[simp] theorem spell_cons (i : Item) (items : List Item) :
    spell (i :: items) = i.letters ++ spell items := List.flatMap_cons

@[simp] theorem spell_append (xs ys : List Item) : spell (xs ++ ys) = spell xs ++ spell ys :=
  List.flatMap_append

@[simp] theorem Bare.length_letters (name : Bare) : name.letters.length = 3 :=
  (Name.bare name).length_letters

@[simp] theorem Numeric.length_letters (name : Numeric) : name.letters.length = 3 :=
  (Name.numeric name).length_letters

namespace Script

theorem numericToken_field (name : Numeric) (separator : Char) (field : Field) (tail : List Char) :
    numericToken name (separator :: field.lead :: field.last :: tail) =
      match tail with
      | [] => .ending (.unclosed (name.effect field.value) 8)
      | closing :: rest => .item (.numeric name separator field closing) rest := by
  obtain ⟨lead, last, value, reads⟩ := field
  simp only [numericToken]
  split
  · next none => rw [reads] at none; cases none
  · next n some =>
    rw [reads] at some
    cases some
    rfl

theorem ofLetters?_letters (name : Name) : Name.ofLetters? name.letters = some name :=
  Name.ofLetters?_eq_some_iff.mpr rfl

theorem take_letters (name : Name) (rest : List Char) :
    (name.letters ++ rest).take 3 = name.letters :=
  List.take_left' name.length_letters

theorem drop_letters (name : Name) (rest : List Char) : (name.letters ++ rest).drop 3 = rest :=
  List.drop_left' name.length_letters

theorem name_append_drop {cs : List Char} {name : Name} (h : Name.ofLetters? (cs.take 3) = some name) :
    name.letters ++ cs.drop 3 = cs := by
  rw [← Name.ofLetters?_eq_some_iff.mp h, List.take_append_drop]

theorem token_bare (name : Bare) (rest : List Char) :
    token (name.letters ++ rest) =
      match rest with
      | [] => .ending (.unclosed name.effect 5)
      | closing :: rest => .item (.bare name closing) rest := by
  have letters : name.letters = (Name.bare name).letters := rfl
  cases rest with
  | nil => simp only [letters, token, take_letters, ofLetters?_letters, drop_letters]
  | cons closing rest => simp only [letters, token, take_letters, ofLetters?_letters, drop_letters]

theorem token_numeric (name : Numeric) (rest : List Char) :
    token (name.letters ++ rest) = numericToken name rest := by
  have letters : name.letters = (Name.numeric name).letters := rfl
  simp only [letters, token, take_letters, ofLetters?_letters, drop_letters]

/-- All that may stand behind a brace where no token is read, and how reading ends there. -/
inductive Fragment : List Char → Ending → Prop
  | unknown {cs : List Char} (h : Name.ofLetters? (cs.take 3) = none) :
      Fragment cs (.broken .unknownFormatter 1)
  | bare (name : Bare) : Fragment name.letters (.unclosed name.effect 5)
  | short (name : Numeric) {tail : List Char} (h : tail.length < 3) :
      Fragment (name.letters ++ tail) (.broken .parsing 0)
  | illegal (name : Numeric) (separator : Char) {lead last : Char} (tail : List Char)
      (h : fieldValue? lead last = none) :
      Fragment (name.letters ++ separator :: lead :: last :: tail) (.broken .numberFormat 5)
  | numeric (name : Numeric) (separator : Char) (field : Field) :
      Fragment (name.letters ++ [separator, field.lead, field.last])
        (.unclosed (name.effect field.value) 8)

theorem fragment_of_numericToken {name : Numeric} {cs : List Char} {e : Ending}
    (h : numericToken name cs = .ending e) : Fragment (name.letters ++ cs) e := by
  unfold numericToken at h
  split at h
  · next separator lead last tail =>
    split at h
    · next illegal =>
      cases h
      exact .illegal name separator tail illegal
    · next n reads =>
      split at h
      · cases h
        exact .numeric name separator ⟨lead, last, n, reads⟩
      · cases h
  · next short =>
    cases h
    refine .short name ?_
    rcases cs with _ | ⟨separator, _ | ⟨lead, _ | ⟨last, tail⟩⟩⟩
    · simp
    · simp
    · simp
    · exact absurd rfl (short separator lead last tail)

theorem fragment_of_token {cs : List Char} {e : Ending} (h : token cs = .ending e) :
    Fragment cs e := by
  cases hn : Name.ofLetters? (cs.take 3) with
  | none =>
    rw [token, hn] at h
    cases h
    exact .unknown hn
  | some name =>
    have hcs := name_append_drop hn
    generalize cs.drop 3 = tail at hcs
    subst hcs
    cases name with
    | bare name =>
      rw [Name.letters, token_bare] at h
      split at h
      · cases h
        rw [Name.letters, List.append_nil]
        exact .bare name
      · cases h
    | numeric name =>
      rw [Name.letters, token_numeric] at h
      exact fragment_of_numericToken h

@[simp] theorem ofText_nil : ofText [] = ⟨[], .complete⟩ := by rw [ofText]

theorem ofText_plain {c : Char} (h : c ≠ tokenStart) (cs : List Char) :
    ofText (c :: cs) = (ofText cs).cons (.plain c h) := by
  rw [ofText, dif_neg h]

theorem ofText_token {cs rest : List Char} {i : Item} (h : token cs = .item i rest) :
    ofText (tokenStart :: cs) = (ofText rest).cons i := by
  rw [ofText, dif_pos rfl]
  split
  · next heq =>
    rw [h] at heq
    cases heq
    rfl
  · next heq => rw [h] at heq; cases heq

theorem ofText_ending {cs : List Char} {e : Ending} (h : token cs = .ending e) :
    ofText (tokenStart :: cs) = ⟨[], e⟩ := by
  rw [ofText, dif_pos rfl]
  split
  · next heq => rw [h] at heq; cases heq
  · next heq =>
    rw [h] at heq
    cases heq
    rfl

/-- No text behind an item changes how the item is read. -/
theorem ofText_letters (i : Item) (rest : List Char) :
    ofText (i.letters ++ rest) = (ofText rest).cons i := by
  cases i with
  | plain c h => exact ofText_plain h rest
  | bare name closing =>
    apply ofText_token
    change token (name.letters ++ [closing] ++ rest) = _
    rw [List.append_assoc, token_bare]
    rfl
  | numeric name separator field closing =>
    apply ofText_token
    change token (name.letters ++ [separator, field.lead, field.last, closing] ++ rest) = _
    rw [List.append_assoc, token_numeric]
    exact numericToken_field name separator field (closing :: rest)

theorem ofText_spell_append (items : List Item) (rest : List Char) :
    ofText (spell items ++ rest) = ⟨items ++ (ofText rest).items, (ofText rest).ending⟩ := by
  induction items with
  | nil => rfl
  | cons i items ih =>
    rw [spell_cons, List.append_assoc, ofText_letters, ih]
    rfl

@[simp] theorem ofText_spell (items : List Item) : ofText (spell items) = ⟨items, .complete⟩ := by
  have := ofText_spell_append items []
  simpa using this

/-- What a script ends with, and the text at which it ends. -/
inductive Ends : List Char → Ending → Prop
  | complete : Ends [] .complete
  | token {cs : List Char} {e : Ending} (h : token cs = .ending e) : Ends (tokenStart :: cs) e

theorem Ends.ofText {w : List Char} {e : Ending} (h : Ends w e) : ofText w = ⟨[], e⟩ := by
  cases h with
  | complete => exact ofText_nil
  | token h => exact ofText_ending h

/-- Every text is the spelling of its items and then what its script ends with. -/
theorem exists_spell_append (text : List Char) :
    ∃ w, text = spell (Script.ofText text).items ++ w ∧ Ends w (Script.ofText text).ending := by
  fun_induction Script.ofText text with
  | case1 => exact ⟨[], rfl, .complete⟩
  | case2 cs i rest h shorter ih =>
    obtain ⟨w, hw, ends⟩ := ih
    refine ⟨w, ?_, ends⟩
    rw [letters_of_token h, items_cons, spell_cons, List.append_assoc, ← hw]
  | case3 cs e h => exact ⟨tokenStart :: cs, rfl, .token h⟩
  | case4 c cs hc ih =>
    obtain ⟨w, hw, ends⟩ := ih
    refine ⟨w, ?_, ends⟩
    rw [items_cons, spell_cons, List.append_assoc, ← hw]
    rfl

end Script

theorem spell_injective {xs ys : List Item} (h : spell xs = spell ys) : xs = ys := by
  have := congrArg Script.ofText h
  simpa using this

theorem spell_inj {xs ys : List Item} : spell xs = spell ys ↔ xs = ys := ⟨spell_injective, congrArg spell⟩

end C64Screen.Markup
