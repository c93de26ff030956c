import C64Screen.Proofs.Buffer.Puts
import C64Screen.Proofs.Markup.Layers

/-!
# Clearing forgets the characters and nothing else

A clear puts a blank into every cell and sends the cursor home, and that takes with it all that the characters
could show of the time before. What is left of it is the direction of video, and that is a matter of the text. So
from there on two runs of the text do the same to the characters, up to and including the diagnostic if there is
one. Of the colours a clear takes nothing. A token that only goes home in its place leaves them as they would have
been, with a diagnostic as well, for the two tokens are of one length and neither has a line feed in it.
-/

namespace C64Screen.Markup

open Buffer

/-- A token that clears, up to its closing character. -/
def clearing : List Char := ['{', 'C', 'L', 'R']

/-- A token that goes home, up to its closing character. -/
def homing : List Char := ['{', 'H', 'O', 'M']

/-- Behind markup there is a token that clears, whether or not its closing character is there. -/
def Clears (text : List Char) : Prop :=
  ∃ valid rest, IsMarkup valid ∧ text = valid ++ clearing ++ rest

/-! The effects that are carried out. -/

theorem effects_course (ending : Ending) (width : Nat) (p : Pen) (index : Nat) (items : List Item) :
    (course ending width p.cursor index items).effects.map Prod.snd =
      items.map Item.effect ++ ending.effect?.toList := by
  induction items generalizing p index with
  | nil =>
    cases ending with
    | unclosed effect ahead =>
      rw [course, Ending.course, Effect.steer_cursor]
      rfl
    | _ => rfl
  | cons i items ih =>
    rw [course, Effect.steer_cursor]
    exact congrArg (i.effect :: ·) (ih (i.effect.lead width p) (index + i.width))

theorem exists_carried_iff {text : List Char} {width : Nat} {offset : Int} {colour : Value} {e : Effect} :
    let script := Script.ofText text
    (∃ cursor, (cursor, e) ∈ (course script.ending width (.start (some offset) colour) 0 script.items).effects) ↔
      e ∈ script.effects := by
  intro script
  have effects := effects_course script.ending width (.start offset colour) 0 script.items
  rw [Script.effects, ← effects, List.mem_map]
  constructor
  · rintro ⟨cursor, listed⟩
    exact ⟨(cursor, e), listed, rfl⟩
  · rintro ⟨⟨cursor, _⟩, listed, rfl⟩
    exact ⟨cursor, listed⟩

theorem Item.exists_closing_of_clear {i : Item} (h : i.effect = .clear) :
    ∃ closing, i = .bare .clear closing := by
  cases i with
  | plain c brace =>
    rw [Item.effect] at h
    split at h <;> cases h
  | bare name closing =>
    cases name with
    | clear => exact ⟨closing, rfl⟩
    | _ => cases h
  | numeric name separator field closing => cases name <;> cases h

theorem Script.Ends.eq_clearing {w : List Char} {e : Ending} (ends : Script.Ends w e)
    (h : .clear ∈ e.effect?.toList) : w = clearing := by
  cases ends with
  | complete => cases h
  | token read =>
    cases fragment_of_token read with
    | bare name =>
      cases name with
      | clear => rfl
      | _ => simp [Ending.effect?, Bare.effect] at h
    | numeric name separator field => cases name <;> simp [Ending.effect?, Numeric.effect] at h
    | _ => cases h

/-- Whichever token without a number stands in front, what is behind it is read alike. -/
theorem exists_effects_of_bare (rest : List Char) :
    ∃ (later : List Effect) (fault : Option (Fault × Nat)), ∀ name : Bare,
      (Script.ofText (tokenStart :: name.letters ++ rest)).effects = name.effect :: later ∧
        (Script.ofText (tokenStart :: name.letters ++ rest)).fault? = fault := by
  cases rest with
  | nil =>
    refine ⟨[], some (.parsing, 5), fun name => ?_⟩
    have cut := Script.token_bare name []
    rw [List.append_nil] at cut
    rw [List.append_nil, Script.ofText_ending cut]
    exact ⟨rfl, rfl⟩
  | cons closing rest =>
    refine ⟨(Script.ofText rest).effects, (Script.ofText rest).fault?.map fun f => (f.1, 5 + f.2), fun name => ?_⟩
    have spelled : tokenStart :: name.letters ++ closing :: rest = spell [.bare name closing] ++ rest := by
      simp [Item.letters]
    have length : (spell [.bare name closing]).length = 5 := by simp [Item.width]
    rw [spelled, effects_spell_append, fault?_spell_append, length]
    exact ⟨rfl, rfl⟩

theorem clear_mem_effects_iff {text : List Char} :
    .clear ∈ (Script.ofText text).effects ↔ Clears text := by
  constructor
  · intro carried
    obtain ⟨w, split, ends⟩ := Script.exists_spell_append text
    rcases List.mem_append.mp carried with listed | last
    · obtain ⟨i, member, clears⟩ := List.mem_map.mp listed
      obtain ⟨closing, rfl⟩ := Item.exists_closing_of_clear clears
      obtain ⟨before, after, parts⟩ := List.append_of_mem member
      refine ⟨spell before, closing :: (spell after ++ w), isMarkup_spell before, ?_⟩
      rw [split, parts]
      simp [clearing, Item.letters, Bare.letters, tokenStart]
    · refine ⟨spell (Script.ofText text).items, [], isMarkup_spell _, ?_⟩
      rw [ends.eq_clearing last, ← List.append_nil clearing] at split
      rw [List.append_assoc, ← split]
  · rintro ⟨valid, rest, markup, rfl⟩
    obtain ⟨items, rfl⟩ := isMarkup_iff.mp markup
    obtain ⟨later, fault, read⟩ := exists_effects_of_bare rest
    have cleared : (Script.ofText (clearing ++ rest)).effects = .clear :: later := (read .clear).1
    rw [List.append_assoc, effects_spell_append, cleared]
    exact List.mem_append_right _ List.mem_cons_self

theorem alike_interpret_of_clears {text : List Char} (clears : Clears text) {a b : Buffer}
    (width : a.width = b.width) (height : a.height = b.height) (p q : Int) (u v : Value) :
    Alike Cell.char (interpret a text (some p) u).1 (interpret b text (some q) v).1 := by
  obtain ⟨before, later, parts⟩ := List.append_of_mem (clear_mem_effects_iff.mpr clears)
  have begun : (Draft.start a p u).SameFrame (.start b q v) := ⟨width, height, rfl⟩
  -- In front of the clear nothing but the frame is common to the two runs, behind it all but the colours.
  have reached := Draft.applyEach_of_apply Draft.SameFrame.apply begun before
  have drawn := Draft.applyEach_of_apply Draft.SameChars.apply reached.apply_clear later
  apply alike_interpret _ rfl (inStep_full ..)
  rw [Script.result_eq_applyEach, Script.result_eq_applyEach, parts, Draft.applyEach_append,
    Draft.applyEach_append]
  exact drawn.chars

theorem echoes_clearing_homing (valid rest : List Char) :
    Echoes Cell.colour (valid ++ clearing ++ rest) (valid ++ homing ++ rest) := by
  have letter (c d : Char) (c_feed : c ≠ lineFeed) (d_feed : d ≠ lineFeed) :
      InStep Cell.colour diagnosticColour.toValue diagnosticColour.toValue c d :=
    ⟨iff_of_false c_feed d_feed, Stamp.alike_colour rfl⟩
  have token : Echoes Cell.colour clearing homing :=
    .cons (letter '{' '{' (by decide) (by decide)) <| .cons (letter 'C' 'H' (by decide) (by decide)) <|
      .cons (letter 'L' 'O' (by decide) (by decide)) <| .cons (letter 'R' 'M' (by decide) (by decide)) .nil
  exact List.rel_append (List.rel_append (inStep_full _ _ valid) token) (inStep_full _ _ rest)

theorem alike_interpret_clearing_homing {valid : List Char} (markup : IsMarkup valid) (b : Buffer)
    (rest : List Char) (offset : Int) (colour : Value) :
    Alike Cell.colour (interpret b (valid ++ clearing ++ rest) (some offset) colour).1
      (interpret b (valid ++ homing ++ rest) (some offset) colour).1 := by
  obtain ⟨items, rfl⟩ := isMarkup_iff.mp markup
  obtain ⟨later, fault, read⟩ := exists_effects_of_bare rest
  obtain ⟨clear_effects, clear_fault⟩ :
      (Script.ofText (clearing ++ rest)).effects = .clear :: later ∧
        (Script.ofText (clearing ++ rest)).fault? = fault := read .clear
  obtain ⟨home_effects, home_fault⟩ :
      (Script.ofText (homing ++ rest)).effects = .home :: later ∧
        (Script.ofText (homing ++ rest)).fault? = fault := read .home
  have reached : ((Draft.start b offset colour).applyEach (items.map Item.effect)).SameColours _ :=
    ⟨.refl _ _, rfl, rfl⟩
  have drawn := Draft.applyEach_of_apply Draft.SameColours.apply reached.apply_clear_home later
  apply alike_interpret _ _ (echoes_clearing_homing ..)
  · rw [Script.result_eq_applyEach, Script.result_eq_applyEach, List.append_assoc, List.append_assoc,
      effects_spell_append, effects_spell_append, clear_effects, home_effects, Draft.applyEach_append,
      Draft.applyEach_append]
    exact drawn.colours
  · rw [List.append_assoc, List.append_assoc, fault?_spell_append, fault?_spell_append, clear_fault,
      home_fault]

/-- Behind a clear the characters are the same on any two grids of one shape, wherever and in whatever colour the
text begins. The colours are the same as if the token had only gone home. -/
theorem clear_forgets_chars :
    (∀ (text : List Char) (b : Buffer) (offset : Int) (colour : Value),
      let script := Script.ofText text
      let carried := (course script.ending b.width (.start (some offset) colour) 0 script.items).effects
      (∃ cursor, (cursor, Effect.clear) ∈ carried) ↔ Clears text) ∧
    (∀ (text : List Char) (a b : Buffer) (p q : Int) (u v : Value),
      Clears text → a.width = b.width → a.height = b.height →
        Alike Cell.char (interpret a text (some p) u).1 (interpret b text (some q) v).1) ∧
    ∀ (b : Buffer) (valid rest : List Char) (offset : Int) (colour : Value), IsMarkup valid →
      Alike Cell.colour (interpret b (valid ++ clearing ++ rest) (some offset) colour).1
        (interpret b (valid ++ homing ++ rest) (some offset) colour).1 := by
  refine ⟨?_, ?_, ?_⟩
  · intro text b offset colour script carried
    have effects : carried.map Prod.snd = script.effects :=
      effects_course script.ending b.width (.start offset colour) 0 script.items
    rw [← clear_mem_effects_iff, ← effects, List.mem_map]
    constructor
    · rintro ⟨cursor, listed⟩
      exact ⟨_, listed, rfl⟩
    · rintro ⟨⟨cursor, effect⟩, listed, rfl⟩
      exact ⟨cursor, listed⟩
  · intro text a b p q u v clears width height
    exact alike_interpret_of_clears clears width height p q u v
  · intro b valid rest offset colour markup
    exact alike_interpret_clearing_homing markup b rest offset colour

/-- The clear lacks its closing character, so a diagnostic follows, over what is left of one grid and of another. -/
theorem clear_forgets_chars_cut :
    let a := Buffer.new ⟨5, by decide⟩ ⟨2, by decide⟩
    let b := Buffer.filled ⟨'x', some .red⟩ ⟨5, by decide⟩ ⟨2, by decide⟩
    let text := ['A', '\n'] ++ clearing ++ []
    let other := ['A', '\n'] ++ homing ++ []
    Clears text ∧ a.width = b.width ∧ a.height = b.height ∧
      Alike Cell.char (interpret a text (some 3) (.int 7)).1 (interpret b text (some (-2)) (.int 99)).1 ∧
      IsMarkup ['A', '\n'] ∧
      Alike Cell.colour (interpret a text (some 3) (.int 7)).1 (interpret a other (some 3) (.int 7)).1 := by
  intro a b text other
  have markup : IsMarkup ['A', '\n'] := isMarkup_spell [.plain 'A' (by decide), .plain '\n' (by decide)]
  have clears : Clears text := ⟨['A', '\n'], [], markup, rfl⟩
  obtain ⟨-, chars, colours⟩ := clear_forgets_chars
  exact ⟨clears, rfl, rfl, chars text a b 3 (-2) (.int 7) (.int 99) clears rfl rfl, markup,
    colours a ['A', '\n'] [] 3 (.int 7) markup⟩

end C64Screen.Markup
