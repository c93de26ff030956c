import Mathlib.Logic.ExistsUnique
import C64Screen.Proofs.Markup.Running

/-!
# How interpreting ends

Whether markup is run to its end, and with which fault and at which position it stops if it is not, is a
matter of the text alone and is settled by its grammar.
-/

namespace C64Screen.Markup

theorem fault?_eq_none_iff {text : List Char} :
    (Script.ofText text).fault? = none ↔ IsMarkup text := by
  rw [isMarkup_iff_ending, Script.fault?, Option.map_eq_none_iff]
  cases (Script.ofText text).ending <;> simp [Ending.fault?]

/-- Whatever is on the buffer and wherever it starts, a run that goes to the end of its text is one of markup. -/
theorem halt_eq_none_iff {b : Buffer} {text : List Char} {offset : Int} {colour : Value} :
    (run ⟨b, .start (some offset) colour⟩ 0 text).halt = none ↔ IsMarkup text := by
  rw [run_start, Option.map_eq_none_iff, fault?_eq_none_iff]

theorem Breaks.fault? {text valid rest : List Char} (h : Breaks text valid rest) :
    ∃ fault ahead, (Script.ofText text).fault? = some (fault, valid.length + ahead) ∧
      Fails rest fault ahead := by
  obtain ⟨items, e, rfl, stuck, read⟩ := h.ofText
  obtain ⟨fault, ahead, hf, fails⟩ := stuck.fails
  exact ⟨fault, ahead, by rw [read, Script.fault?, hf]; rfl, fails⟩

theorem existsUnique_breaks {text : List Char} (no : ¬ IsMarkup text) :
    ∃! parts : List Char × List Char, Breaks text parts.1 parts.2 := by
  rcases isMarkup_or_breaks text with ⟨-, markup⟩ | ⟨valid, rest, breaks⟩
  · exact absurd markup no
  · refine ⟨(valid, rest), breaks, ?_⟩
    rintro ⟨valid', rest'⟩ breaks'
    obtain ⟨rfl, rfl⟩ := breaks.unique breaks'
    rfl

/-- A fault is logged once, and nothing else is. -/
theorem logged_eq (b : Buffer) (text : List Char) (offset : Int) (colour : Value) :
    (interpret b text (some offset) colour).2 =
      (Script.ofText text).fault?.toList.map (fun f => .diagnostic f.1.kind f.2 text) := by
  rw [interpret_eq]
  cases (Script.ofText text).fault? <;> rfl

/-- Whatever the buffer, the place and the colour are, how a run ends is settled by the text: without a
fault if it is markup, and else with the fault of the rest that it breaks off at. -/
theorem outcome_of_text (text : List Char) :
    ∃ outcome : Option (Fault × Nat),
      (outcome = none ↔ IsMarkup text) ∧
      (¬ IsMarkup text → ∃! parts : List Char × List Char, Breaks text parts.1 parts.2) ∧
      (∀ valid rest, Breaks text valid rest →
        ∃ fault ahead, outcome = some (fault, valid.length + ahead) ∧
          ∀ f n, Fails rest f n ↔ f = fault ∧ n = ahead) ∧
      ∀ (b : Buffer) (offset : Int) (colour : Value),
        let stop := run ⟨b, .start (some offset) colour⟩ 0 text
        let result := interpret b text (some offset) colour
        stop.halt = outcome.map (fun f => .broken f.1 f.2) ∧
        result = (match outcome with
          | none => (stop.state.buffer, [])
          | some (fault, position) => report stop.state.buffer fault.kind text position) ∧
        result.2 = outcome.toList.map (fun f => .diagnostic f.1.kind f.2 text) ∧
        ∀ e ∈ result.2, e.level = .warning := by
  refine ⟨(Script.ofText text).fault?, fault?_eq_none_iff, ?_, ?_, ?_⟩
  · exact existsUnique_breaks
  · intro valid rest breaks
    obtain ⟨fault, ahead, hf, fails⟩ := breaks.fault?
    refine ⟨fault, ahead, hf, fun f n => ⟨fun other => other.unique fails, ?_⟩⟩
    rintro ⟨rfl, rfl⟩
    exact fails
  · intro b offset colour
    dsimp only
    refine ⟨by rw [run_start], ?_, logged_eq .., ?_⟩
    · rw [run_start]
      exact interpret_eq ..
    · intro e he
      rw [logged_eq] at he
      obtain ⟨f, -, rfl⟩ := List.mem_map.mp he
      rfl

/-! A text that is not run to its end leaves what the part in front of the fault leaves, and then the
diagnostic. -/

theorem interpret_spell (b : Buffer) (items : List Item) (offset : Int) (colour : Value) :
    interpret b (spell items) (some offset) colour =
      (((Draft.start b offset colour).applyAll items).buffer, []) := by
  rw [interpret_eq, Script.ofText_spell]
  rfl

theorem fault?_of_halt {b : Buffer} {text : List Char} {offset : Int} {colour : Value} {fault : Fault}
    {position : Nat}
    (stopped : (run ⟨b, .start (some offset) colour⟩ 0 text).halt = some (.broken fault position)) :
    (Script.ofText text).fault? = some (fault, position) := by
  rw [run_start] at stopped
  obtain ⟨⟨f, n⟩, hf, same⟩ := Option.map_eq_some_iff.mp stopped
  cases same
  exact hf

theorem exists_breaks_of_fault {text : List Char} {fault : Fault} {position : Nat}
    (h : (Script.ofText text).fault? = some (fault, position)) :
    ∃ valid rest ahead, Breaks text valid rest ∧ Fails rest fault ahead := by
  rcases isMarkup_or_breaks text with ⟨complete, -⟩ | ⟨valid, rest, breaks⟩
  · rw [Script.fault?, complete] at h
    cases h
  · obtain ⟨f, ahead, same, fails⟩ := breaks.fault?
    rw [h] at same
    cases same
    exact ⟨valid, rest, ahead, breaks, fails⟩

theorem interpret_of_fault {text : List Char} {fault : Fault} {position : Nat}
    (h : (Script.ofText text).fault? = some (fault, position)) (b : Buffer) (offset : Int)
    (colour : Value) :
    interpret b text (some offset) colour =
      report ((Script.ofText text).result (.start b offset colour)).buffer fault.kind text position := by
  rw [interpret_eq, h]

theorem interpret_broken {text : List Char} {items : List Item} {fault f : Fault} {position ahead : Nat}
    (read : Script.ofText text = ⟨items, .broken f ahead⟩)
    (h : (Script.ofText text).fault? = some (fault, position)) (b : Buffer) (offset : Int)
    (colour : Value) :
    interpret b text (some offset) colour =
      report (interpret b (spell items) (some offset) colour).1 fault.kind text position := by
  rw [interpret_of_fault h, read, interpret_spell]
  rfl

theorem interpret_unclosed {text rest : List Char} {items : List Item} {fault : Fault}
    {position ahead : Nat} {i : Item} {closing : Char}
    (read : Script.ofText text = ⟨items, .unclosed i.effect ahead⟩) (split : text = spell items ++ rest)
    (closes : i.letters = rest ++ [closing]) (h : (Script.ofText text).fault? = some (fault, position))
    (b : Buffer) (offset : Int) (colour : Value) :
    (run ⟨b, .start (some offset) colour⟩ 0 (text ++ [closing])).halt = none ∧
      interpret b text (some offset) colour =
        report (interpret b (text ++ [closing]) (some offset) colour).1 fault.kind text position := by
  have closed : text ++ [closing] = spell (items ++ [i]) := by
    rw [split, List.append_assoc, ← closes]
    simp
  rw [closed]
  constructor
  · rw [run_start_spell]
  · rw [interpret_of_fault h, read, interpret_spell, Draft.applyAll_append]
    rfl

/-- An interpretation that stops short is that of the valid part, or of the text with its last token
closed, and then the diagnostic. -/
theorem interpret_aborted (b : Buffer) (text : List Char) (offset : Int) (colour : Value)
    (fault : Fault) (position : Nat)
    (stopped : (run ⟨b, .start (some offset) colour⟩ 0 text).halt = some (.broken fault position)) :
    ∃ valid rest, Breaks text valid rest ∧
      (run ⟨b, .start (some offset) colour⟩ 0 valid).halt = none ∧
      (valid = [] → (interpret b valid (some offset) colour).1 = b) ∧
      (fault = .parsing ↔ FieldCut rest ∨ Unclosed rest) ∧
      (fault = .unknownFormatter ∨ fault = .numberFormat ∨ FieldCut rest →
        interpret b text (some offset) colour =
          report (interpret b valid (some offset) colour).1 fault.kind text position) ∧
      (Unclosed rest →
        (run ⟨b, .start (some offset) colour⟩ 0 (text ++ ['}'])).halt = none ∧
        interpret b text (some offset) colour =
          report (interpret b (text ++ ['}']) (some offset) colour).1 fault.kind text position) := by
  have hf := fault?_of_halt stopped
  obtain ⟨valid, rest, ahead, breaks, fails⟩ := exists_breaks_of_fault hf
  obtain ⟨items, e, rfl, stuck, read⟩ := breaks.ofText
  refine ⟨spell items, rest, breaks, by rw [run_start_spell], ?_, fails.parsing_iff, ?_, ?_⟩
  · intro none
    have : items = [] := spell_injective none
    rw [interpret_spell, this]
    rfl
  · intro kind
    obtain ⟨f, n, rfl⟩ := stuck.exists_broken (fails.not_unclosed kind)
    exact interpret_broken read hf b offset colour
  · intro unclosed
    obtain ⟨effect, rfl, closes⟩ := stuck.exists_unclosed unclosed
    obtain ⟨i, closed, rfl⟩ := closes '}'
    exact interpret_unclosed read breaks.split closed hf b offset colour

/-- A token cut off in front of its closing character still clears, after a character has been written. -/
theorem interpret_aborted_clear :
    let b := Buffer.new ⟨8, by decide⟩ ⟨2, by decide⟩
    let text := ['A', '{', 'C', 'L', 'R']
    (run ⟨b, .start (some 3) (.int 1)⟩ 0 text).halt = some (.broken .parsing 6) ∧
      interpret b text (some 3) (.int 1) =
        report (interpret b (text ++ ['}']) (some 3) (.int 1)).1 "PARSING ERROR" text 6 := by
  intro b text
  have stopped : (run ⟨b, .start (some 3) (.int 1)⟩ 0 text).halt = some (.broken .parsing 6) := by
    decide +kernel
  have here : Breaks text ['A'] ['{', 'C', 'L', 'R'] :=
    ⟨rfl, isMarkup_spell [.plain 'A' (by decide)], rfl, fun _ => (Script.Ends.token (by rfl)).noItem⟩
  obtain ⟨valid, rest, breaks, -, -, -, -, closed⟩ := interpret_aborted _ _ _ _ _ _ stopped
  obtain ⟨rfl, rfl⟩ := breaks.unique here
  exact ⟨stopped, (closed (.inl ⟨by decide, rfl⟩)).2⟩

end C64Screen.Markup
