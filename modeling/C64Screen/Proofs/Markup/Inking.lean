import C64Screen.Proofs.Markup.Adrift
import C64Screen.Proofs.Markup.Layers

/-!
# Colours do not reach the characters

A colour is looked at when it is put into a cell, and nowhere else. So two runs of a text that begin with
different colours leave the same characters, of markup, of what is no markup and of plain text alike, and so do
runs of markup in which a token chooses another colour. A colour that is none is chosen like any other and takes
no character from the grid, only the cells keep the colours that they have.
-/

namespace C64Screen.Markup

open Buffer

/-- A token that chooses a colour, with the two characters of its field. -/
def colourToken (separator lead last closing : Char) : List Char :=
  tokenStart :: (colourName ++ [separator, lead, last, closing])

theorem alike_interpret_of_inks (b : Buffer) (text : List Char) (offset : Int) (u v : Value) :
    Alike Cell.char (interpret b text (some offset) u).1 (interpret b text (some offset) v).1 := by
  have begun : (Draft.start b offset u).SameChars (.start b offset v) := ⟨.refl _ b, rfl, rfl⟩
  have drawn := Draft.applyEach_of_apply Draft.SameChars.apply begun (Script.ofText text).effects
  rw [← Script.result_eq_applyEach, ← Script.result_eq_applyEach] at drawn
  exact alike_interpret drawn.chars rfl (inStep_full ..)

theorem alike_interpret_of_ink_items {i j : Item} {m n : Int} (hi : i.effect = .ink m)
    (hj : j.effect = .ink n) (b : Buffer) (before after : List Item) (offset : Int) (colour : Value) :
    Alike Cell.char (interpret b (spell (before ++ i :: after)) (some offset) colour).1
      (interpret b (spell (before ++ j :: after)) (some offset) colour).1 := by
  have reached : ((Draft.start b offset colour).applyAll before).SameChars _ := ⟨.refl _ _, rfl, rfl⟩
  have chosen := reached.apply_ink m n
  rw [← hi, ← hj] at chosen
  have drawn := Draft.applyEach_of_apply Draft.SameChars.apply chosen (after.map Item.effect)
  rw [Draft.applyEach_items, Draft.applyEach_items] at drawn
  rw [interpret_spell, interpret_spell, Draft.applyAll_append, Draft.applyAll_append]
  exact drawn.chars

/-- In markup a field that is legal may stand in the place of another. -/
theorem alike_interpret_of_fields {valid rest : List Char} {separator lead last lead' last' closing : Char}
    (markup : IsMarkup (valid ++ colourToken separator lead last closing ++ rest))
    (front : IsMarkup valid) (legal : IsField [lead', last']) :
    IsMarkup (valid ++ colourToken separator lead' last' closing ++ rest) ∧
      ∀ (b : Buffer) (offset : Int) (colour : Value),
        let text := valid ++ colourToken separator lead last closing ++ rest
        let other := valid ++ colourToken separator lead' last' closing ++ rest
        Alike Cell.char (interpret b text (some offset) colour).1
          (interpret b other (some offset) colour).1 := by
  have spelled (lead last : Char) : valid ++ colourToken separator lead last closing ++ rest =
      valid ++ tokenStart :: (Numeric.colour.letters ++ separator :: lead :: last :: closing :: rest) := by
    simp [colourToken, colourName, Numeric.letters]
  rw [spelled, isMarkup_append front, isMarkup_numeric_append] at markup
  obtain ⟨field, behind⟩ := markup
  refine ⟨?_, fun b offset colour => ?_⟩
  · rw [spelled, isMarkup_append front, isMarkup_numeric_append]
    exact ⟨legal, behind⟩
  · obtain ⟨n, reads⟩ := isField_iff.mp field
    obtain ⟨n', reads'⟩ := isField_iff.mp legal
    obtain ⟨before, rfl⟩ := isMarkup_iff.mp front
    obtain ⟨after, rfl⟩ := isMarkup_iff.mp behind
    have item (field : Field) :
        spell before ++ colourToken separator field.lead field.last closing ++ spell after =
          spell (before ++ .numeric .colour separator field closing :: after) := by
      simp [colourToken, colourName, Item.letters, Numeric.letters]
    have text := item ⟨lead, last, n, reads⟩
    have other := item ⟨lead', last', n', reads'⟩
    dsimp only at text other ⊢
    rw [text, other]
    exact alike_interpret_of_ink_items rfl rfl b before after offset colour

/-- What a character leaves on the grid, wherever it comes to stand. -/
structure Written (before after : Buffer) (c : Char) (o : Int) (ink : Value) : Prop where
  here : ∀ cell, before.cell? o = some cell → ∃ colour, after.cell? o = some ⟨c, colour⟩ ∧
    (∀ k : Colour, ink = k.toValue → colour = some k) ∧ (¬ ink.IsColour → colour = cell.colour)
  elsewhere : ∀ p, p ≠ o → after.cell? p = before.cell? p

theorem written_place (b : Buffer) (c : Char) (o : Int) (ink : Value) : Written b (b.place c o ink) c o ink := by
  rw [place_eq_lay]
  constructor
  · intro cell found
    refine ⟨(Colour.ofValue? ink).or cell.colour, ?_, ?_, ?_⟩
    · rw [cell?_lay_wherever, if_pos (decide_eq_true rfl), found]
      rfl
    · rintro k rfl
      rw [Colour.ofValue?_toValue, Option.some_or]
    · intro other
      rw [Colour.ofValue?_of_not_isColour other, Option.none_or]
  · intro p other
    rw [cell?_lay_wherever, if_neg (by simpa using other)]

/-- Two colours to begin with leave the same characters, and so do two fields of a token that chooses a colour.
A character is put where the cursor stands, with any colour. -/
theorem chars_of_any_ink :
    (∀ (b : Buffer) (text : List Char) (offset : Int) (u v : Value),
      Alike Cell.char (interpret b text (some offset) u).1 (interpret b text (some offset) v).1 ∧
        Alike Cell.char (b.placeText text offset u) (b.placeText text offset v)) ∧
    (∀ (b : Buffer) (valid rest : List Char) (separator lead last lead' last' closing : Char) (offset : Int)
        (colour : Value),
      let start : State := ⟨b, .start (some offset) colour⟩
      let text := valid ++ colourToken separator lead last closing ++ rest
      let other := valid ++ colourToken separator lead' last' closing ++ rest
      IsMarkup valid → (run start 0 text).halt = none → IsField [lead', last'] →
        (run start 0 other).halt = none ∧
          Alike Cell.char (interpret b text (some offset) colour).1
            (interpret b other (some offset) colour).1) ∧
    ∀ (b : Buffer) (valid rest : List Char) (c : Char) (offset : Int) (colour : Value),
      let start : State := ⟨b, .start (some offset) colour⟩
      let reached := (run start 0 valid).state
      let next := (run start 0 (valid ++ [c])).state
      IsMarkup valid → c ≠ tokenStart → c ≠ lineFeed →
        run start 0 (valid ++ c :: rest) = run next (valid.length + 1) rest ∧
          ∃ place, reached.cursor.place = some place ∧
            Written reached.buffer next.buffer (reached.cursor.shown c) place.offset reached.cursor.colour := by
  refine ⟨?_, ?_, ?_⟩
  · intro b text offset u v
    exact ⟨alike_interpret_of_inks .., (Alike.refl _ b).placeText (inStep_char u v text) offset⟩
  · intro b valid rest separator lead last lead' last' closing offset colour start text other markup done legal
    obtain ⟨still, same⟩ := alike_interpret_of_fields (halt_eq_none_iff.mp done) markup legal
    exact ⟨halt_eq_none_iff.mpr still, same b offset colour⟩
  · intro b valid rest c offset colour start reached next markup brace feed
    obtain ⟨items, rfl⟩ := isMarkup_iff.mp markup
    let i : Item := .plain c brace
    let d := (Draft.start b offset colour).applyAll items
    have effect : i.effect = .write c := if_neg feed
    have spelled (rest : List Char) : spell items ++ c :: rest = spell (items ++ [i]) ++ rest := by
      simp [i, Item.letters]
    have at_items : reached = d.state := congrArg Stop.state (run_start_spell ..)
    have at_next : next = (d.apply (.write c)).state := by
      change (run start 0 (spell items ++ [c])).state = _
      rw [spelled, List.append_nil, run_start_spell, Draft.applyAll_append, ← effect]
      rfl
    refine ⟨?_, d.pen.place, ?_, ?_⟩
    · change run (Draft.start b offset colour).state 0 (spell items ++ (i.letters ++ rest)) = _
      rw [run_spell_append, run_letters, effect, at_next, Nat.zero_add]
      rfl
    · rw [at_items]
      rfl
    · rw [at_items, at_next]
      exact written_place ..

/-- The colour that is chosen is none, so the cell that is written to stays red. -/
theorem chars_of_any_ink_none :
    let b := Buffer.filled ⟨'x', some .red⟩ ⟨4, by decide⟩ ⟨2, by decide⟩
    let start : State := ⟨b, .start (some 1) (.int 7)⟩
    let text := [] ++ colourToken ':' '9' '9' '}' ++ ['B']
    let other := [] ++ colourToken ':' '-' '3' '}' ++ ['B']
    (run start 0 text).halt = none ∧ (run start 0 other).halt = none ∧
      Alike Cell.char (interpret b text (some 1) (.int 7)).1 (interpret b other (some 1) (.int 7)).1 ∧
      (run start 0 text).state.buffer.cell? 1 = some ⟨'B', some .red⟩ := by
  intro b start text other
  let chosen : Item := .numeric .colour ':' ⟨'9', '9', 99, by decide⟩ '}'
  have done : (run start 0 text).halt = none := by decide +kernel
  obtain ⟨-, fields, written⟩ := chars_of_any_ink
  obtain ⟨still, same⟩ := fields b [] ['B'] ':' '9' '9' '-' '3' '}' 1 (.int 7) (isMarkup_spell []) done
    (isField_iff.mpr ⟨-3, by decide⟩)
  refine ⟨done, still, same, ?_⟩
  obtain ⟨-, place, stands, put⟩ :=
    written b (spell [chosen]) [] 'B' 1 (.int 7) (isMarkup_spell [chosen]) (by decide) (by decide)
  rw [run_start_spell] at stands put
  cases stands
  obtain ⟨colour, shown, -, kept⟩ := put.here ⟨'x', some .red⟩ rfl
  obtain rfl : colour = some .red := kept (by decide)
  exact shown

end C64Screen.Markup
