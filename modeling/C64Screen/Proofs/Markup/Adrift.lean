import C64Screen.Proofs.Markup.Fields
import C64Screen.Proofs.Markup.Outcome

/-!
# Runs without a place

A cursor that starts without a place comes through the tokens that set a mode, the colour or the direction
of video, for these ask for no place. What stands behind them settles the run. A character or a movement
has nowhere to start from and leaves the run adrift. A token that sends the cursor home gives it a place,
and from there on it makes no difference where it was before. At the end of the text or at a fault nothing
is left that asks for a place. A cursor that has a place from the start is never adrift.
-/

namespace C64Screen.Markup

open Unicode

def videoNames : List (List Char) := [['R', 'O', 'N'], ['R', 'O', 'F']]

def colourName : List Char := ['C', 'O', 'L']

def movementNames : List (List Char) :=
  [['C', 'U', 'P'], ['C', 'D', 'N'], ['C', 'L', 'T'], ['C', 'R', 'T']]

def homingNames : List (List Char) := [['C', 'L', 'R'], ['H', 'O', 'M']]

/-- A complete token that sets the direction of video or the colour. -/
inductive IsMode : List Char → Prop
  | video {name : List Char} {closing : Char} (h : name ∈ videoNames) :
      IsMode (tokenStart :: (name ++ [closing]))
  | colour {field : List Char} {separator closing : Char} (hf : IsField field) :
      IsMode (tokenStart :: (colourName ++ separator :: (field ++ [closing])))

def AreModes (text : List Char) : Prop :=
  ∃ parts : List (List Char), (∀ part ∈ parts, IsMode part) ∧ parts.flatten = text

/-- A text begins with modes, as many as there are, and goes on with the rest. -/
structure Opens (text modes rest : List Char) : Prop where
  split : text = modes ++ rest
  areModes : AreModes modes
  longest : ∀ others, AreModes others → others <+: text → others.length ≤ modes.length

def WritesFirst (rest : List Char) : Prop := ∃ c cs, rest = c :: cs ∧ c ≠ tokenStart

/-- A movement with a legal field, whether or not its closing character is there. -/
structure MovesFirst (rest : List Char) : Prop where
  brace : rest.head? = some tokenStart
  name : (rest.drop 1).take 3 ∈ movementNames
  long : 7 ≤ rest.length
  legal : IsField ((rest.drop 5).take 2)

/-- A token that homes, whether or not its closing character is there. -/
def HomesFirst (rest : List Char) : Prop := ∃ name ∈ homingNames, tokenStart :: name <+: rest

theorem Opens.unique {text modes rest modes' rest' : List Char} (h : Opens text modes rest)
    (h' : Opens text modes' rest') : modes = modes' ∧ rest = rest' := by
  have within : modes <+: text := ⟨rest, h.split.symm⟩
  have within' : modes' <+: text := ⟨rest', h'.split.symm⟩
  have length : modes.length = modes'.length :=
    Nat.le_antisymm (h'.longest _ h.areModes within) (h.longest _ h'.areModes within')
  exact List.append_inj (h.split.symm.trans h'.split) length

/-! Modes among the items. -/

def Item.setsMode : Item → Bool
  | .bare .reverseOn _ | .bare .reverseOff _ | .numeric .colour .. => true
  | _ => false

theorem isMode_iff {cs : List Char} :
    IsMode cs ↔ ∃ i : Item, i.setsMode = true ∧ i.letters = cs := by
  constructor
  · intro h
    cases h with
    | @video name closing h =>
      simp only [videoNames, List.mem_cons, List.not_mem_nil, or_false] at h
      rcases h with rfl | rfl
      · exact ⟨.bare .reverseOn closing, rfl, rfl⟩
      · exact ⟨.bare .reverseOff closing, rfl, rfl⟩
    | @colour field separator closing hf =>
      obtain ⟨lead, last, rfl, legal⟩ := hf
      obtain ⟨n, reads⟩ := isField_iff.mp ⟨lead, last, rfl, legal⟩
      exact ⟨.numeric .colour separator ⟨lead, last, n, reads⟩ closing, rfl, rfl⟩
  · rintro ⟨i, mode, rfl⟩
    cases i with
    | plain c h => cases mode
    | bare name closing =>
      cases name with
      | clear => cases mode
      | home => cases mode
      | reverseOn =>
        change IsMode (tokenStart :: (['R', 'O', 'N'] ++ [closing]))
        exact .video (by decide)
      | reverseOff =>
        change IsMode (tokenStart :: (['R', 'O', 'F'] ++ [closing]))
        exact .video (by decide)
    | numeric name separator field closing =>
      cases name with
      | colour => exact .colour (isField_iff.mpr ⟨field.value, field.reads⟩)
      | _ => cases mode

theorem areModes_iff {text : List Char} :
    AreModes text ↔ ∃ items : List Item, (∀ i ∈ items, i.setsMode = true) ∧ spell items = text := by
  constructor
  · rintro ⟨parts, hparts, rfl⟩
    induction parts with
    | nil => exact ⟨[], by simp, rfl⟩
    | cons part parts ih =>
      obtain ⟨i, mode, spelled⟩ := isMode_iff.mp (hparts part List.mem_cons_self)
      obtain ⟨items, modes, rest⟩ := ih (fun p hp => hparts p (List.mem_cons_of_mem _ hp))
      refine ⟨i :: items, ?_, by rw [spell_cons, spelled, rest, List.flatten_cons]⟩
      exact List.forall_mem_cons.mpr ⟨mode, modes⟩
  · rintro ⟨items, modes, rfl⟩
    refine ⟨items.map Item.letters, ?_, List.flatMap_def.symm⟩
    intro part hpart
    obtain ⟨i, hi, spelled⟩ := List.mem_map.mp hpart
    exact isMode_iff.mpr ⟨i, modes i hi, spelled⟩

/-- The modes of a text are the items up to the first that is none. -/
theorem opens_of_ends {modes more : List Item} {w : List Char} {e : Ending} (ends : Script.Ends w e)
    (areModes : ∀ i ∈ modes, i.setsMode = true) (noMore : ∀ i ∈ more.head?, i.setsMode = false) :
    Opens (spell modes ++ (spell more ++ w)) (spell modes) (spell more ++ w) := by
  refine ⟨rfl, areModes_iff.mpr ⟨modes, areModes, rfl⟩, ?_⟩
  intro others areOthers within
  obtain ⟨items, allModes, rfl⟩ := areModes_iff.mp areOthers
  obtain ⟨tail, split⟩ := within
  -- Both ways to read the text give the same items, so the others are among the first of these.
  have read := congrArg (Script.items ∘ Script.ofText) split
  rw [← List.append_assoc, ← spell_append] at read
  simp only [Function.comp_apply, Script.ofText_spell_append, ends.ofText, List.append_nil] at read
  rcases List.append_eq_append_iff.mp read with ⟨further, rfl, -⟩ | ⟨further, rfl, beyond⟩
  · rw [spell_append, List.length_append]
    exact Nat.le_add_right ..
  · cases further with
    | nil => simp
    | cons i further =>
      have mode : i.setsMode = true := allModes i (by simp)
      have none : i.setsMode = false := noMore i (by rw [beyond]; rfl)
      rw [mode] at none
      cases none

/-- Every text begins with some modes, and behind them its script goes on with an item that is none or
comes to its end. -/
theorem exists_opens (text : List Char) :
    ∃ modes more w e, Script.ofText text = ⟨modes ++ more, e⟩ ∧ Script.Ends w e ∧
      (∀ i ∈ modes, i.setsMode = true) ∧ (∀ i ∈ more.head?, i.setsMode = false) ∧
      Opens text (spell modes) (spell more ++ w) := by
  obtain ⟨w, split, ends⟩ := Script.exists_spell_append text
  let items := (Script.ofText text).items
  have parts : items.takeWhile Item.setsMode ++ items.dropWhile Item.setsMode = items :=
    List.takeWhile_append_dropWhile
  have modes : ∀ i ∈ items.takeWhile Item.setsMode, i.setsMode = true :=
    List.all_eq_true.mp List.all_takeWhile
  have more : ∀ i ∈ (items.dropWhile Item.setsMode).head?, i.setsMode = false := by
    intro i hi
    have := List.head?_dropWhile_not Item.setsMode items
    rwa [Option.mem_def.mp hi] at this
  refine ⟨_, _, w, _, by rw [parts], ends, modes, more, ?_⟩
  have opens := opens_of_ends ends modes more
  rwa [← List.append_assoc, ← spell_append, parts, ← split] at opens

/-! The run from a place or from none. -/

/-- A mode leaves place and buffer alone and does to colour and video what it does from anywhere. -/
theorem runItems_mode {i : Item} (mode : i.setsMode = true) (ending : Ending) (more : List Item)
    (colour : Value) (reverse : Bool) :
    ∃ (colour' : Value) (reverse' : Bool), ∀ (b : Buffer) (place : Option Place) (index : Nat),
      runItems ending ⟨b, ⟨place, colour, reverse⟩⟩ index (i :: more) =
        runItems ending ⟨b, ⟨place, colour', reverse'⟩⟩ (index + i.width) more := by
  cases i with
  | plain c h => cases mode
  | bare name closing =>
    cases name with
    | clear => cases mode
    | home => cases mode
    | reverseOn => exact ⟨colour, true, fun b place index => rfl⟩
    | reverseOff => exact ⟨colour, false, fun b place index => rfl⟩
  | numeric name separator field closing =>
    cases name with
    | colour => exact ⟨.int field.value, reverse, fun b place index => rfl⟩
    | _ => cases mode

theorem runItems_modes {modes : List Item} (areModes : ∀ i ∈ modes, i.setsMode = true)
    (ending : Ending) (more : List Item) (colour : Value) (reverse : Bool) :
    ∃ (colour' : Value) (reverse' : Bool), ∀ (b : Buffer) (place : Option Place) (index : Nat),
      runItems ending ⟨b, ⟨place, colour, reverse⟩⟩ index (modes ++ more) =
        runItems ending ⟨b, ⟨place, colour', reverse'⟩⟩ (index + (spell modes).length) more := by
  induction modes generalizing colour reverse with
  | nil => exact ⟨colour, reverse, fun b place index => rfl⟩
  | cons i modes ih =>
    obtain ⟨mode, areModes⟩ := List.forall_mem_cons.mp areModes
    obtain ⟨colour₁, reverse₁, first⟩ := runItems_mode mode ending (modes ++ more) colour reverse
    obtain ⟨colour₂, reverse₂, others⟩ := ih areModes colour₁ reverse₁
    refine ⟨colour₂, reverse₂, fun b place index => ?_⟩
    rw [List.cons_append, first, others, spell_cons, List.length_append, Item.length_letters,
      Nat.add_assoc]

/-- Without a place nothing is done and the run is adrift, so far ahead of where it begins. -/
def Drifts (ending : Ending) (items : List Item) (ahead : Nat) : Prop :=
  ∀ (b : Buffer) (colour : Value) (reverse : Bool) (index : Nat),
    runItems ending ⟨b, ⟨none, colour, reverse⟩⟩ index items =
      ⟨⟨b, ⟨none, colour, reverse⟩⟩, some (.adrift (index + ahead))⟩

/-- From any place, and without one, the same buffer is left for the same reason. -/
def Indifferent (ending : Ending) (items : List Item) : Prop :=
  ∀ (b : Buffer) (place : Option Place) (colour : Value) (reverse : Bool) (index : Nat),
    let here := runItems ending ⟨b, ⟨place, colour, reverse⟩⟩ index items
    let nowhere := runItems ending ⟨b, ⟨none, colour, reverse⟩⟩ index items
    nowhere.state.buffer = here.state.buffer ∧ nowhere.halt = here.halt

/-- How a run without a place goes on behind the modes. -/
inductive Onset (ending : Ending) (items : List Item) (rest : List Char) : Prop
  | writes (first : WritesFirst rest) (drifts : Drifts ending items 0)
  | moves (first : MovesFirst rest) (drifts : Drifts ending items 8)
  | settled (noCharacter : ¬ WritesFirst rest) (noMovement : ¬ MovesFirst rest)
      (first : rest = [] ∨ HomesFirst rest ∨ Breaks rest [] rest)
      (indifferent : Indifferent ending items)

theorem not_writesFirst_token (cs : List Char) : ¬ WritesFirst (tokenStart :: cs) := by
  rintro ⟨c, rest, same, brace⟩
  cases same
  exact brace rfl

theorem MovesFirst.of_token (name : Numeric) (movement : name.letters ∈ movementNames)
    (separator : Char) (field : Field) (tail : List Char) :
    MovesFirst (tokenStart :: (name.letters ++ separator :: field.lead :: field.last :: tail)) := by
  refine ⟨rfl, ?_, ?_, ?_⟩
  · rw [List.drop_one, List.tail_cons, List.take_left' name.length_letters]
    exact movement
  · rw [List.length_cons, List.length_append, name.length_letters]
    simp only [List.length_cons]
    omega
  · rw [Script.field_of_token]
    exact isField_iff.mpr ⟨field.value, field.reads⟩

theorem not_movesFirst_of_name (name : Name) (other : name.letters ∉ movementNames) (cs : List Char) :
    ¬ MovesFirst (tokenStart :: (name.letters ++ cs)) := by
  intro moves
  have := moves.name
  rw [List.drop_one, List.tail_cons, Script.take_letters] at this
  exact other this

theorem Numeric.movement {name : Numeric} (other : name ≠ .colour) (n : Int) :
    name.letters ∈ movementNames ∧ ∃ rows cells, name.effect n = .move rows cells := by
  cases name with
  | colour => exact absurd rfl other
  | _ => exact ⟨by decide, _, _, rfl⟩

theorem known_of_movement {name : List Char} (h : name ∈ movementNames) :
    name ∈ bareNames ++ numericNames := by
  have : ∀ name ∈ movementNames, name ∈ bareNames ++ numericNames := by decide
  exact this name h

theorem onset_of_item (ending : Ending) {i : Item} (noMode : i.setsMode = false) (items : List Item)
    (rest : List Char) : Onset ending (i :: items) (i.letters ++ rest) := by
  cases i with
  | plain c brace =>
    refine .writes ⟨c, rest, rfl, brace⟩ fun b colour reverse index => ?_
    by_cases hc : c = lineFeed
    · rw [runItems, Item.effect, if_pos hc]
      rfl
    · rw [runItems, Item.effect, if_neg hc]
      rfl
  | bare name closing =>
    cases name with
    | clear =>
      exact .settled (not_writesFirst_token _) (not_movesFirst_of_name (.bare .clear) (by decide) _)
        (.inr (.inl ⟨_, List.mem_cons_self, closing :: rest, rfl⟩))
        fun b place colour reverse index => ⟨rfl, rfl⟩
    | home =>
      exact .settled (not_writesFirst_token _) (not_movesFirst_of_name (.bare .home) (by decide) _)
        (.inr (.inl ⟨['H', 'O', 'M'], by decide, closing :: rest, rfl⟩))
        fun b place colour reverse index => ⟨rfl, rfl⟩
    | _ => cases noMode
  | numeric name separator field closing =>
    have other : name ≠ .colour := by
      rintro rfl
      cases noMode
    obtain ⟨movement, rows, cells, effect⟩ := name.movement other field.value
    have spelled : (Item.numeric name separator field closing).letters ++ rest =
        tokenStart :: (name.letters ++ separator :: field.lead :: field.last :: closing :: rest) := by
      simp [Item.letters]
    rw [spelled]
    refine .moves (.of_token name movement separator field _) fun b colour reverse index => ?_
    rw [runItems, Item.effect, effect]
    rfl

/-- Where reading ends no effect is left that would have to be carried out, unless a token lacks nothing but
its closing character. -/
theorem onset_of_ends {w : List Char} {e : Ending} (ends : Script.Ends w e) : Onset e [] w := by
  cases ends with
  | complete =>
    refine .settled ?_ ?_ (.inl rfl) fun b place colour reverse index => ⟨rfl, rfl⟩
    · rintro ⟨c, cs, same, -⟩
      cases same
    · intro moves
      cases moves.brace
  | @token cs e h =>
    have breaks : Breaks (tokenStart :: cs) [] (tokenStart :: cs) :=
      ⟨rfl, isMarkup_spell [], rfl, fun _ => (Script.Ends.token h).noItem⟩
    have settled (still : ¬ MovesFirst (tokenStart :: cs)) (indifferent : Indifferent e []) :
        Onset e [] (tokenStart :: cs) :=
      .settled (not_writesFirst_token cs) still (.inr (.inr breaks)) indifferent
    cases Script.fragment_of_token h with
    | unknown unknown =>
      refine settled ?_ fun b place colour reverse index => ⟨rfl, rfl⟩
      intro moves
      exact Name.ofLetters?_eq_none_iff.mp unknown (known_of_movement moves.name)
    | bare name =>
      refine settled ?_ fun b place colour reverse index => by cases name <;> exact ⟨rfl, rfl⟩
      intro moves
      have := moves.long
      simp at this
    | short name short =>
      refine settled ?_ fun b place colour reverse index => ⟨rfl, rfl⟩
      intro moves
      have := moves.long
      rw [List.length_cons, List.length_append, name.length_letters] at this
      omega
    | illegal name separator tail illegal =>
      refine settled ?_ fun b place colour reverse index => ⟨rfl, rfl⟩
      intro moves
      have := moves.legal
      rw [Script.field_of_token, isField_iff, illegal] at this
      obtain ⟨n, none⟩ := this
      cases none
    | numeric name separator field =>
      by_cases colour : name = .colour
      · subst colour
        refine settled ?_ fun b place colour reverse index => ⟨rfl, rfl⟩
        exact not_movesFirst_of_name (.numeric .colour) (by decide) _
      · obtain ⟨movement, rows, cells, effect⟩ := name.movement colour field.value
        refine .moves (.of_token name movement separator field []) fun b colour reverse index => ?_
        rw [runItems, Ending.run, effect]
        rfl

theorem MovesFirst.not_writesFirst {rest : List Char} (moves : MovesFirst rest) :
    ¬ WritesFirst rest := by
  obtain ⟨cs, rfl⟩ := List.head?_eq_some_iff.mp moves.brace
  exact not_writesFirst_token cs

/-- The place of a cursor at the start of a text. -/
def Place.start (offset : Int) : Place := ⟨offset, offset⟩

/-- Every text begins with some modes, which a run comes through from anywhere, and has an onset behind
them. -/
theorem exists_onset (text : List Char) :
    ∃ modes rest items e, Opens text modes rest ∧ Onset e items rest ∧
      ∀ colour, ∃ (ink : Value) (reverse : Bool), ∀ (b : Buffer) (offset : Option Int),
        run ⟨b, .start offset colour⟩ 0 text =
          runItems e ⟨b, ⟨offset.map .start, ink, reverse⟩⟩ modes.length items := by
  obtain ⟨modes, more, w, e, read, ends, areModes, noMore, opens⟩ := exists_opens text
  refine ⟨spell modes, spell more ++ w, more, e, opens, ?_, ?_⟩
  · cases more with
    | nil => exact onset_of_ends ends
    | cons i more =>
      rw [spell_cons, List.append_assoc]
      exact onset_of_item e (noMore i rfl) more (spell more ++ w)
  · intro colour
    obtain ⟨ink, reverse, along⟩ := runItems_modes areModes e more colour false
    refine ⟨ink, reverse, fun b offset => ?_⟩
    have reached := along b (offset.map .start) 0
    rw [Nat.zero_add] at reached
    rw [run, read]
    exact reached

/-! What is reported. -/

theorem halt_ne_adrift (b : Buffer) (text : List Char) (offset : Int) (colour : Value)
    (position : Nat) :
    (run ⟨b, .start (some offset) colour⟩ 0 text).halt ≠ some (.adrift position) := by
  intro adrift
  rw [run_start] at adrift
  obtain ⟨fault, -, other⟩ := Option.map_eq_some_iff.mp adrift
  cases other

theorem level_ne_debug (b : Buffer) (text : List Char) (offset : Int) (colour : Value)
    {event : Log.Event} (logged : event ∈ (interpret b text (some offset) colour).2) :
    event.level ≠ .debug := by
  rw [logged_eq] at logged
  obtain ⟨fault, -, rfl⟩ := List.mem_map.mp logged
  exact nofun

/-- The diagnostic of a run that went adrift, logged behind a note of its own. -/
def reportAdrift (b : Buffer) (text : List Char) (position : Nat) : Buffer × List Log.Event :=
  ((report b Fault.parsing.kind text position).1,
    [.unexpected text, .diagnostic Fault.parsing.kind position text])

section

variable {text modes : List Char} {items : List Item} {e : Ending} {colour ink : Value} {reverse : Bool}
  (along : ∀ (b : Buffer) (offset : Option Int), run ⟨b, .start offset colour⟩ 0 text =
    runItems e ⟨b, ⟨offset.map .start, ink, reverse⟩⟩ modes.length items)

include along

theorem interpret_of_drifts {ahead : Nat} (drifts : Drifts e items ahead) (b : Buffer) :
    interpret b text none colour = reportAdrift b text (modes.length + ahead) := by
  have stop : run ⟨b, .start none colour⟩ 0 text =
      ⟨⟨b, ⟨none, ink, reverse⟩⟩, some (.adrift (modes.length + ahead))⟩ :=
    (along b none).trans (drifts b ink reverse modes.length)
  rw [interpret, stop]
  rfl

theorem interpret_of_indifferent (indifferent : Indifferent e items) (b : Buffer) (offset : Int) :
    interpret b text none colour = interpret b text (some offset) colour := by
  obtain ⟨buffer, halt⟩ := indifferent b (some (.start offset)) ink reverse modes.length
  rw [interpret, interpret, along, along]
  dsimp only [Option.map]
  rw [buffer, halt]

end

/-- With an offset to start from a run is never adrift. Without one it is if a character or a movement
stands behind the modes that the text begins with, and then it has done nothing else; in all other cases
any offset to start from would have made no difference. -/
theorem interpret_adrift (text : List Char) :
    (∃! parts : List Char × List Char, Opens text parts.1 parts.2) ∧
    (∀ lead last, IsField [lead, last] →
      ∃ n, fieldValue? lead last = some n ∧ Numeral.integer? [lead, last] = some n) ∧
    ∀ (b : Buffer) (colour : Value),
      (∀ offset : Int,
        (∀ position, (run ⟨b, .start (some offset) colour⟩ 0 text).halt ≠ some (.adrift position)) ∧
        ∀ event ∈ (interpret b text (some offset) colour).2, event.level ≠ .debug) ∧
      ∀ modes rest, Opens text modes rest →
        let result := interpret b text none colour
        (WritesFirst rest → result = reportAdrift b text modes.length) ∧
        (MovesFirst rest → result = reportAdrift b text (modes.length + 8)) ∧
        (¬ WritesFirst rest → ¬ MovesFirst rest →
          (rest = [] ∨ HomesFirst rest ∨ Breaks rest [] rest) ∧
          (∀ event ∈ result.2, event.level ≠ .debug) ∧
          ∀ offset : Int, result = interpret b text (some offset) colour) := by
  obtain ⟨modes, rest, items, e, opens, onset, along⟩ := exists_onset text
  refine ⟨⟨(modes, rest), opens, ?_⟩, fun lead last => exists_value_of_isField, ?_⟩
  · rintro ⟨modes', rest'⟩ opens'
    obtain ⟨rfl, rfl⟩ := opens.unique opens'
    rfl
  · intro b colour
    refine ⟨fun offset => ⟨?_, ?_⟩, ?_⟩
    · exact halt_ne_adrift b text offset colour
    · exact fun event => level_ne_debug b text offset colour
    · intro modes' rest' opens'
      obtain ⟨rfl, rfl⟩ := opens.unique opens'
      obtain ⟨ink, reverse, along⟩ := along colour
      cases onset with
      | writes first drifts =>
        refine ⟨fun _ => interpret_of_drifts along drifts b, ?_, ?_⟩
        · exact fun moves => absurd first moves.not_writesFirst
        · exact fun noCharacter => absurd first noCharacter
      | moves first drifts =>
        refine ⟨?_, fun _ => interpret_of_drifts along drifts b, ?_⟩
        · exact fun writes => absurd writes first.not_writesFirst
        · exact fun _ noMovement => absurd first noMovement
      | settled noCharacter noMovement first indifferent =>
        have same := interpret_of_indifferent along indifferent b
        refine ⟨fun writes => absurd writes noCharacter, fun moves => absurd moves noMovement, ?_⟩
        intro _ _
        refine ⟨first, ?_, same⟩
        rw [same 0]
        exact fun event => level_ne_debug b text 0 colour

/-- A movement that lacks its closing character has been read to its end when it finds no place. -/
theorem interpret_adrift_movement :
    let b := Buffer.new ⟨8, by decide⟩ ⟨2, by decide⟩
    let modes := ['{', 'R', 'O', 'N', '}']
    let rest := ['{', 'C', 'L', 'T', ':', '+', '٣']
    Opens (modes ++ rest) modes rest ∧ MovesFirst rest ∧
      interpret b (modes ++ rest) none (.int 1) = reportAdrift b (modes ++ rest) 13 := by
  intro b modes rest
  have ends : Script.Ends rest (.unclosed (.move 0 3) 8) := .token (by rfl)
  let video : Item := .bare .reverseOn '}'
  have opens : Opens (spell [video] ++ (spell [] ++ rest)) (spell [video]) (spell [] ++ rest) :=
    opens_of_ends ends (by decide) (by simp)
  have moves : MovesFirst rest := ⟨rfl, by decide, by decide, isField_iff.mpr ⟨3, by decide⟩⟩
  obtain ⟨-, -, results⟩ := interpret_adrift (modes ++ rest)
  obtain ⟨-, adrift, -⟩ := (results b (.int 1)).2 modes rest opens
  exact ⟨opens, moves, adrift moves⟩

end C64Screen.Markup
