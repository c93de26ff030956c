import Mathlib.Algebra.Ring.Int.Defs
import Mathlib.Data.List.DropRight
import C64Screen.Proofs.Markup.Running

/-!
# Where the pen stands

The pen after any items, in closed form. What counts is the item that last sent the pen home or to a new
line and what came behind it: the lines are counted from the last token that homes, the cells from the
last line feed or token that homes, and colour and direction of video are those last set. Nothing bounds
the offset, which may leave the grid and come back.
-/

namespace C64Screen.Markup

namespace Item

def homes : Item → Bool
  | .bare .clear _ | .bare .home _ => true
  | _ => false

def breaksLine : Item → Bool
  | .plain c _ => c = C64Screen.lineFeed
  | _ => false

/-- Characters that are written, line feeds not among them. -/
def isWritten : Item → Bool
  | .plain c _ => c ≠ C64Screen.lineFeed
  | _ => false

/-- By how many cells a movement goes forward. -/
def shift (width : Nat) : Item → Int
  | .numeric .forward _ field _ => field.value
  | .numeric .back _ field _ => -field.value
  | .numeric .down _ field _ => field.value * width
  | .numeric .up _ field _ => -field.value * width
  | _ => 0

def ink? : Item → Option Int
  | .numeric .colour _ field _ => some field.value
  | _ => none

def video? : Item → Option Bool
  | .bare .reverseOn _ => some true
  | .bare .reverseOff _ => some false
  | _ => none

end Item

/-- The items behind the last one of a kind, or all of them if there is none. -/
def behind (kind : Item → Bool) (items : List Item) : List Item := items.rtakeWhile (fun i => !kind i)

@[simp] theorem behind_nil (kind : Item → Bool) : behind kind [] = [] := List.rtakeWhile_nil _

theorem behind_concat (kind : Item → Bool) (items : List Item) (i : Item) :
    behind kind (items ++ [i]) = if kind i then [] else behind kind items ++ [i] := by
  rw [behind, List.rtakeWhile_concat]
  cases kind i <;> rfl

/-- The offset that lines are counted from. -/
def anchor (offset : Int) (items : List Item) : Int := if items.any Item.homes then 0 else offset

/-- The lines begun since then. -/
def lines (items : List Item) : Nat := (behind Item.homes items).countP Item.breaksLine

def startsAfresh (i : Item) : Bool := i.homes || i.breaksLine

/-- How far the pen has gone from the start of its line. -/
def drift (width : Nat) (items : List Item) : Int :=
  let line := behind startsAfresh items
  line.countP Item.isWritten + (line.map (Item.shift width)).sum

def lineStart (width : Nat) (offset : Int) (items : List Item) : Int :=
  anchor offset items + lines items * width

def inkAfter (colour : Value) (items : List Item) : Value :=
  ((items.filterMap Item.ink?).getLast?.map Value.int).getD colour

def videoAfter (items : List Item) : Bool := (items.filterMap Item.video?).getLast?.getD false

/-- The pen after some items, if it stood at an offset and had a colour before them. -/
def Pen.after (width : Nat) (offset : Int) (colour : Value) (items : List Item) : Pen where
  place := ⟨lineStart width offset items + drift width items, lineStart width offset items⟩
  colour := inkAfter colour items
  reverse := videoAfter items

/-! What one more item changes. -/

theorem anchor_concat (offset : Int) (items : List Item) (i : Item) :
    anchor offset (items ++ [i]) = if i.homes then 0 else anchor offset items := by
  cases h : i.homes <;> simp [anchor, h]

theorem lines_concat (items : List Item) (i : Item) :
    lines (items ++ [i]) =
      if i.homes then 0 else lines items + if i.breaksLine then 1 else 0 := by
  cases h : i.homes <;> simp [lines, behind_concat, h, List.countP_cons]

theorem drift_concat (width : Nat) (items : List Item) (i : Item) :
    drift width (items ++ [i]) =
      if startsAfresh i then 0
      else drift width items + (if i.isWritten then 1 else 0) + i.shift width := by
  cases h : startsAfresh i with
  | true => simp [drift, behind_concat, h]
  | false =>
    cases hw : i.isWritten <;> simp [drift, behind_concat, h, hw] <;> omega

theorem inkAfter_concat (colour : Value) (items : List Item) (i : Item) :
    inkAfter colour (items ++ [i]) = (i.ink?.map Value.int).getD (inkAfter colour items) := by
  cases h : i.ink? <;> simp [inkAfter, List.filterMap_append, h]

theorem videoAfter_concat (items : List Item) (i : Item) :
    videoAfter (items ++ [i]) = i.video?.getD (videoAfter items) := by
  cases h : i.video? <;> simp [videoAfter, List.filterMap_append, h]

theorem after_nil (width : Nat) (offset : Int) (colour : Value) :
    Pen.after width offset colour [] = .start offset colour := by
  simp [Pen.after, Pen.start, lineStart, anchor, lines, drift, inkAfter, videoAfter]

/-- One case for each kind of item: the closed form goes along with every single step. -/
theorem after_concat (width : Nat) (offset : Int) (colour : Value) (items : List Item) (i : Item) :
    Pen.after width offset colour (items ++ [i]) =
      i.effect.lead width (Pen.after width offset colour items) := by
  simp only [Pen.after, lineStart, anchor_concat, lines_concat, drift_concat, inkAfter_concat,
    videoAfter_concat, startsAfresh]
  cases i with
  | plain c h =>
    by_cases hc : c = C64Screen.lineFeed
    · simp [Item.homes, Item.breaksLine, Item.ink?, Item.video?, Item.effect, hc, Effect.lead,
        Place.lineFeed, Int.add_mul, Int.add_assoc]
    · simp [Item.homes, Item.breaksLine, Item.isWritten, Item.shift, Item.ink?, Item.video?,
        Item.effect, hc, Effect.lead, Place.move, Int.add_assoc]
  | bare name closing =>
    cases name <;>
      simp [Item.homes, Item.breaksLine, Item.isWritten, Item.shift, Item.ink?, Item.video?,
        Item.effect, Bare.effect, Effect.lead, Place.origin]
  | numeric name separator field closing =>
    cases name <;>
      simp [Item.homes, Item.breaksLine, Item.isWritten, Item.shift, Item.ink?, Item.video?,
        Item.effect, Numeric.effect, Effect.lead, Place.move, Int.add_assoc]

/-- Along a run the pen is where the closed form says. -/
theorem pen_applyAll (b : Buffer) (offset : Int) (colour : Value) (items : List Item) :
    ((Draft.start b offset colour).applyAll items).pen = .after b.width offset colour items := by
  induction items using List.reverseRecOn with
  | nil => exact (after_nil ..).symm
  | append_singleton items i ih =>
    have width : ((Draft.start b offset colour).applyAll items).buffer.width = b.width :=
      Draft.width_applyAll ..
    rw [Draft.applyAll_append, after_concat, ← ih, ← width]
    rfl

/-- What an item leaves on a buffer: a character that is written goes to where the pen stands, in the
colour and the direction of video that the pen has, and of all else only a clear leaves a trace. -/
def Item.mark (p : Pen) (b : Buffer) : Item → Buffer
  | .plain c _ =>
    if c = C64Screen.lineFeed then b
    else b.placeChar (String.singleton (if p.reverse then Charset.reverse c else c)) p.place.offset p.colour
  | .bare .clear _ => b.clear
  | _ => b

theorem placeChar_singleton (b : Buffer) (c : Char) (o : Int) (colour : Value) :
    b.placeChar (String.singleton c) o colour = b.place c o colour := by
  have single : Text.single? (String.singleton c) = some c :=
    Text.single?_eq_some_iff.mpr (String.toList_singleton c)
  rw [Buffer.placeChar, Buffer.putChar_of_single? single, Buffer.place]

theorem draw_eq_mark (p : Pen) (b : Buffer) (i : Item) :
    i.effect.draw p.cursor b = i.mark p b := by
  cases i with
  | plain c h =>
    by_cases hc : c = C64Screen.lineFeed
    · simp only [Item.effect, Item.mark, if_pos hc]
      rfl
    · simp only [Item.effect, Item.mark, if_neg hc, placeChar_singleton]
      rfl
  | bare name closing => cases name <;> rfl
  | numeric name separator field closing => cases name <;> rfl

/-- A text that is run to its end leaves the pen where the closed form says, and each of its items was
carried out with the pen that the closed form gives for the items in front of it. -/
theorem pen_closed_form (b : Buffer) (text : List Char) (offset : Int) (colour : Value)
    (done : (run ⟨b, .start (some offset) colour⟩ 0 text).halt = none) :
    ∃ items, (∀ others, spell others = text ↔ others = items) ∧
      (run ⟨b, .start (some offset) colour⟩ 0 text).state.cursor =
        (Pen.after b.width offset colour items).cursor ∧
      ∀ before i rest, items = before ++ i :: rest →
        let reached := run ⟨b, .start (some offset) colour⟩ 0 (spell before)
        let next := run ⟨b, .start (some offset) colour⟩ 0 (spell (before ++ [i]))
        let pen := Pen.after b.width offset colour before
        reached.halt = none ∧ reached.state.cursor = pen.cursor ∧
        next.halt = none ∧ next.state.buffer = i.mark pen reached.state.buffer ∧
        run ⟨b, .start (some offset) colour⟩ 0 text =
          run next.state (spell (before ++ [i])).length (spell rest) := by
  obtain ⟨items, rfl⟩ := exists_items_of_run (d := .start b offset colour) done
  have cursor (items : List Item) :
      ((Draft.start b offset colour).applyAll items).state.cursor =
        (Pen.after b.width offset colour items).cursor :=
    congrArg Pen.cursor (pen_applyAll b offset colour items)
  refine ⟨items, fun others => ⟨fun h => spell_injective h, fun h => h ▸ rfl⟩, ?_, ?_⟩
  · rw [run_start_spell]
    exact cursor items
  · rintro before i rest rfl
    dsimp only
    rw [run_start_spell, run_start_spell]
    refine ⟨rfl, cursor before, rfl, ?_, ?_⟩
    · rw [← pen_applyAll, ← draw_eq_mark, Draft.applyAll_append]
      rfl
    · have step := run_spell_append (.start b offset colour) 0 (before ++ [i]) (spell rest)
      rw [Nat.zero_add, ← spell_append, List.append_assoc] at step
      exact step

/-- A negative field turns a movement round, and the line feed goes by the start of the line. -/
theorem pen_closed_form_signed :
    let b := Buffer.new ⟨8, by decide⟩ ⟨2, by decide⟩
    let items : List Item :=
      [.plain 'A' (by decide), .numeric .forward ':' ⟨'-', '3', -3, by decide⟩ '}',
       .plain 'B' (by decide), .plain '\n' (by decide), .plain 'C' (by decide)]
    (run ⟨b, .start (some 5) (.int 1)⟩ 0 (spell items)).halt = none ∧
      (run ⟨b, .start (some 5) (.int 1)⟩ 0 (spell items)).state.cursor.place = some ⟨14, 13⟩ := by
  intro b items
  have done : (run ⟨b, .start (some 5) (.int 1)⟩ 0 (spell items)).halt = none := by
    rw [run_start_spell]
  obtain ⟨found, same, cursor, -⟩ := pen_closed_form b (spell items) 5 (.int 1) done
  obtain rfl : items = found := (same items).mp rfl
  refine ⟨done, ?_⟩
  rw [cursor]
  rfl

end C64Screen.Markup
