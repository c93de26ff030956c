import C64Screen.Proofs.Markup.Outcome

/-!
# Tokens that may be exchanged

A token that moves the pen, one that chooses its colour and one that sets its direction of video each see to a part
of the pen that the others leave alone, and none of them draws. Two of different groups may therefore be exchanged.
Movements may be exchanged among themselves as well, for nothing bounds the offset on the way and only the sum of
the steps is left, so a movement and its opposite come to nothing. Whatever does the same to every draft may be put
in the place of one another, between any two pieces of markup.
-/

namespace C64Screen.Markup

/-- The tokens that see to one part of the pen. -/
inductive Group where
  | movement
  | colour
  | video
  deriving DecidableEq, Repr

namespace Group

/-- Two tokens may be exchanged, whichever members of these groups they are. -/
def Free (g h : Group) : Prop := g ≠ h ∨ g = .movement ∧ h = .movement

inductive Sets : Group → Effect → Prop
  | movement (rows cells : Int) : Sets .movement (.move rows cells)
  | colour (code : Int) : Sets .colour (.ink code)
  | video (on : Bool) : Sets .video (.reverse on)

end Group

def Item.group? : Item → Option Group
  | .numeric .colour .. => some .colour
  | .numeric .. => some .movement
  | .bare .reverseOn _ | .bare .reverseOff _ => some .video
  | _ => none

/-- The movement that goes the other way. -/
def Numeric.opposite? : Numeric → Option Numeric
  | .up => some .down
  | .down => some .up
  | .forward => some .back
  | .back => some .forward
  | .colour => none

theorem Item.sets_of_group? {i : Item} {g : Group} (member : i.group? = some g) : g.Sets i.effect := by
  cases i with
  | plain c brace => cases member
  | bare name closing =>
    cases name with
    | clear => cases member
    | home => cases member
    | reverseOn => cases member; exact .video true
    | reverseOff => cases member; exact .video false
  | numeric name separator field closing =>
    cases name with
    | colour => cases member; exact .colour _
    | _ => cases member; exact .movement _ _

theorem Numeric.effect_opposite {name other : Numeric} (opposite : name.opposite? = some other) (n : Int) :
    ∃ rows cells, name.effect n = .move rows cells ∧ other.effect n = .move (-rows) (-cells) := by
  cases name with
  | up => cases opposite; exact ⟨-n, 0, rfl, by simp [effect]⟩
  | down => cases opposite; exact ⟨n, 0, rfl, rfl⟩
  | forward => cases opposite; exact ⟨0, n, rfl, rfl⟩
  | back => cases opposite; exact ⟨0, -n, rfl, by simp [effect]⟩
  | colour => cases opposite

theorem Place.move_move (p : Place) (m n : Int) : (p.move m).move n = p.move (m + n) := by
  rw [move, move, move, Int.add_assoc]

namespace Draft

theorem apply_move_move (d : Draft) (rows cells rows' cells' : Int) :
    (d.apply (.move rows cells)).apply (.move rows' cells') =
      d.apply (.move (rows + rows') (cells + cells')) := by
  have steps : rows * d.buffer.width + cells + (rows' * d.buffer.width + cells') =
      (rows + rows') * d.buffer.width + (cells + cells') := by
    rw [Int.add_mul]
    omega
  have place := Place.move_move d.pen.place (rows * d.buffer.width + cells) (rows' * d.buffer.width + cells')
  rw [steps] at place
  exact congrArg (fun p => (⟨d.buffer, { d.pen with place := p }⟩ : Draft)) place

theorem apply_move_zero (d : Draft) : d.apply (.move 0 0) = d := by
  have place : d.pen.place.move (0 * d.buffer.width + 0) = d.pen.place := by simp [Place.move]
  exact congrArg (fun p => (⟨d.buffer, { d.pen with place := p }⟩ : Draft)) place

theorem apply_comm {g h : Group} {e f : Effect} (he : g.Sets e) (hf : h.Sets f) (free : g.Free h) (d : Draft) :
    (d.apply e).apply f = (d.apply f).apply e := by
  have other (same : g = h) : g = .movement := by
    rcases free with different | ⟨moves, -⟩
    · exact absurd same different
    · exact moves
  -- Effects of different groups write to different fields of the pen, so only the movements need a sum.
  cases he with
  | movement rows cells =>
    cases hf with
    | movement rows' cells' =>
      rw [apply_move_move, apply_move_move, Int.add_comm rows, Int.add_comm cells]
    | _ => rfl
  | colour code =>
    cases hf with
    | colour code' => cases other rfl
    | _ => rfl
  | video on =>
    cases hf with
    | video on' => cases other rfl
    | _ => rfl

theorem apply_opposite {name other : Numeric} (opposite : name.opposite? = some other) (n : Int) (d : Draft) :
    (d.apply (name.effect n)).apply (other.effect n) = d := by
  obtain ⟨rows, cells, there, again⟩ := Numeric.effect_opposite opposite n
  rw [there, again, apply_move_move, Int.add_right_neg, Int.add_right_neg, apply_move_zero]

end Draft

/-- Stretches of items that do the same to every draft, between two pieces of markup. -/
theorem interpret_stretch {valid rest : List Char} (front : IsMarkup valid) (behind : IsMarkup rest)
    {items others : List Item} (same : ∀ d : Draft, d.applyAll items = d.applyAll others) (b : Buffer)
    (offset : Int) (colour : Value) :
    (run ⟨b, .start (some offset) colour⟩ 0 (valid ++ spell items ++ rest)).halt = none ∧
      interpret b (valid ++ spell items ++ rest) (some offset) colour =
        interpret b (valid ++ spell others ++ rest) (some offset) colour := by
  obtain ⟨before, rfl⟩ := isMarkup_iff.mp front
  obtain ⟨after, rfl⟩ := isMarkup_iff.mp behind
  simp only [← spell_append]
  constructor
  · rw [run_start_spell]
  · rw [interpret_spell, interpret_spell]
    simp only [Draft.applyAll_append, same]

/-- Between a text that is run to its end and one that goes on behind it to an end as well, two tokens may be
exchanged that are movements or belong to different groups, and a movement with its opposite behind it may be put
in. -/
theorem interpret_exchange (b : Buffer) (valid rest : List Char) (offset : Int) (colour : Value)
    (front : (run ⟨b, .start (some offset) colour⟩ 0 valid).halt = none)
    (done : (run ⟨b, .start (some offset) colour⟩ 0 (valid ++ rest)).halt = none) :
    (∀ (i j : Item) (g h : Group), i.group? = some g → j.group? = some h → g.Free h →
      let text := valid ++ spell [i, j] ++ rest
      let other := valid ++ spell [j, i] ++ rest
      (run ⟨b, .start (some offset) colour⟩ 0 text).halt = none ∧
        (run ⟨b, .start (some offset) colour⟩ 0 other).halt = none ∧
        interpret b text (some offset) colour = interpret b other (some offset) colour) ∧
    ∀ (name other : Numeric) (field : Field) (separator closing separator' closing' : Char),
      name.opposite? = some other →
        let there := Item.numeric name separator field closing
        let again := Item.numeric other separator' field closing'
        let text := valid ++ spell [there, again] ++ rest
        (run ⟨b, .start (some offset) colour⟩ 0 text).halt = none ∧
          interpret b text (some offset) colour = interpret b (valid ++ rest) (some offset) colour := by
  rw [halt_eq_none_iff] at front done
  have behind := (isMarkup_append front).mp done
  constructor
  · intro i j g h hi hj free text other
    have swap (d : Draft) : d.applyAll [i, j] = d.applyAll [j, i] :=
      d.apply_comm (Item.sets_of_group? hi) (Item.sets_of_group? hj) free
    obtain ⟨ends, drawn⟩ := interpret_stretch front behind swap b offset colour
    obtain ⟨ends', -⟩ := interpret_stretch front behind (fun d => (swap d).symm) b offset colour
    exact ⟨ends, ends', drawn⟩
  · intro name other field separator closing separator' closing' opposite there again text
    have nothing (d : Draft) : d.applyAll [there, again] = d.applyAll [] :=
      d.apply_opposite opposite field.value
    have stretch := interpret_stretch front behind nothing b offset colour
    rw [spell_nil, List.append_nil] at stretch
    exact stretch

/-- The pen leaves the grid above its first row, and to the left of it, and comes back. -/
theorem interpret_exchange_outside :
    let b := Buffer.new ⟨3, by decide⟩ ⟨2, by decide⟩
    let up := Item.numeric .up ':' ⟨'9', '9', 99, by decide⟩ '}'
    let forward := Item.numeric .forward ' ' ⟨'-', '8', -8, by decide⟩ '{'
    let back := Item.numeric .back ':' ⟨'-', '8', -8, by decide⟩ '}'
    let ink := Item.numeric .colour ':' ⟨'4', '2', 42, by decide⟩ '}'
    let video := Item.bare .reverseOn '\n'
    let shown (items : List Item) := interpret b (['A'] ++ spell items ++ ['\n', 'B']) (some 2) (.int 1)
    (run ⟨b, .start (some 2) (.int 1)⟩ 0 ['A']).halt = none ∧
      (run ⟨b, .start (some 2) (.int 1)⟩ 0 (['A'] ++ ['\n', 'B'])).halt = none ∧
      shown [up, forward] = shown [forward, up] ∧ shown [ink, up] = shown [up, ink] ∧
      shown [video, ink] = shown [ink, video] ∧
      shown [forward, back] = interpret b ['A', '\n', 'B'] (some 2) (.int 1) := by
  intro b up forward back ink video shown
  have front : (run ⟨b, .start (some 2) (.int 1)⟩ 0 ['A']).halt = none :=
    halt_eq_none_iff.mpr (isMarkup_spell [.plain 'A' (by decide)])
  have done : (run ⟨b, .start (some 2) (.int 1)⟩ 0 (['A'] ++ ['\n', 'B'])).halt = none :=
    halt_eq_none_iff.mpr
      (isMarkup_spell [.plain 'A' (by decide), .plain '\n' (by decide), .plain 'B' (by decide)])
  obtain ⟨exchange, opposite⟩ := interpret_exchange b ['A'] ['\n', 'B'] 2 (.int 1) front done
  obtain ⟨-, -, moves⟩ := exchange up forward .movement .movement rfl rfl (.inr ⟨rfl, rfl⟩)
  obtain ⟨-, -, inked⟩ := exchange ink up .colour .movement rfl rfl (.inl (by decide))
  obtain ⟨-, -, turned⟩ := exchange video ink .video .colour rfl rfl (.inl (by decide))
  obtain ⟨-, nothing⟩ :=
    opposite .forward .back ⟨'-', '8', -8, by decide⟩ ' ' '{' ':' '}' rfl
  exact ⟨front, done, moves, inked, turned, nothing⟩

end C64Screen.Markup
