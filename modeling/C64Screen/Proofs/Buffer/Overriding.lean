import C64Screen.Buffer.Write
import C64Screen.Proofs.Buffer.Overlay

/-!
# Writes override

No write looks at what a cell holds, and that is so for markup too: where the cursor goes, where a run
stops and which diagnostic it ends in are settled by the text, the width and the start. So any writes in a
row lay one overlay, whatever was on the buffer, and report the same. Two buffers that differ end alike in
every cell that was written to, and to do it all again changes nothing.
-/

namespace C64Screen

namespace Markup

open Buffer

theorem draw_lays (width : Nat) (cursor : Cursor) (e : Effect) :
    Lays width (fun b => e.draw cursor b) := by
  cases e with
  | write c =>
    unfold Effect.draw
    cases cursor.place with
    | none => exact Lays.nothing width
    | some p => exact Lays.place width (cursor.shown c) p.offset cursor.colour
  | clear => exact Lays.clear width
  | _ => exact Lays.nothing width

theorem Ending.run_lays (ending : Ending) (width : Nat) (cursor : Cursor) (index : Nat) :
    ∃ (p : Overlay) (last : Cursor) (halt : Option Halt), ∀ b : Buffer, b.width = width →
      ending.run ⟨b, cursor⟩ index = ⟨⟨b.lay p, last⟩, halt⟩ := by
  cases ending with
  | complete =>
    refine ⟨.blank, cursor, none, fun b _ => ?_⟩
    rw [lay_blank]
    rfl
  | broken fault ahead =>
    refine ⟨.blank, cursor, some (.broken fault (index + ahead)), fun b _ => ?_⟩
    rw [lay_blank]
    rfl
  | unclosed effect ahead =>
    cases steered : effect.steer width cursor with
    | none =>
      refine ⟨.blank, cursor, some (.adrift (index + effect.adriftAhead ahead)), fun b hb => ?_⟩
      rw [lay_blank, Ending.run, hb, steered]
    | some last =>
      obtain ⟨p, drawn⟩ := draw_lays width cursor effect
      refine ⟨p, last, some (.broken .parsing (index + ahead)), fun b hb => ?_⟩
      rw [Ending.run, hb, steered, ← drawn b hb]

/-- The cursor in which a run ends and the reason why it does are the same for all buffers of a width. -/
theorem runItems_lays (ending : Ending) (width : Nat) (cursor : Cursor) (index : Nat)
    (items : List Item) :
    ∃ (p : Overlay) (last : Cursor) (halt : Option Halt), ∀ b : Buffer, b.width = width →
      runItems ending ⟨b, cursor⟩ index items = ⟨⟨b.lay p, last⟩, halt⟩ := by
  induction items generalizing cursor index with
  | nil => exact ending.run_lays width cursor index
  | cons i rest ih =>
    cases steered : i.effect.steer width cursor with
    | none =>
      refine ⟨.blank, cursor, some (.adrift (index + i.effect.adriftAhead i.width)), fun b hb => ?_⟩
      rw [lay_blank, runItems, hb, steered]
    | some next =>
      obtain ⟨p, drawn⟩ := draw_lays width cursor i.effect
      obtain ⟨q, last, halt, later⟩ := ih next (index + i.width)
      refine ⟨q.atop p, last, halt, fun b hb => ?_⟩
      calc
        runItems ending ⟨b, cursor⟩ index (i :: rest)
          = runItems ending ⟨b.lay p, next⟩ (index + i.width) rest := by
            rw [runItems, hb, steered, ← drawn b hb]
        _ = ⟨⟨(b.lay p).lay q, last⟩, halt⟩ := later (b.lay p) hb
        _ = ⟨⟨b.lay (q.atop p), last⟩, halt⟩ := by rw [lay_lay]

end Markup

namespace Write

open Buffer

/-- The same overlay and the same events for all buffers of a width. -/
def Settled (width : Nat) (f : Buffer → Buffer × List Log.Event) : Prop :=
  ∃ (p : Overlay) (events : List Log.Event), ∀ b : Buffer, b.width = width → f b = (b.lay p, events)

theorem Settled.of_lays {width : Nat} {f : Buffer → Buffer} (h : Lays width f)
    (events : List Log.Event) : Settled width (fun b => (f b, events)) := by
  obtain ⟨p, laid⟩ := h
  exact ⟨p, events, fun b hb => congrArg (·, events) (laid b hb)⟩

end Write

namespace Markup

open Buffer Write

theorem report_settled (width : Nat) (kind : String) (text : List Char) (position : Int) :
    Settled width (fun b => report b kind text position) := by
  let head := (headline kind position).toList.map Charset.reverse
  have first := Lays.placeText width head 0 diagnosticColour.toValue
  have second := Lays.placeText width text width diagnosticColour.toValue
  apply Settled.of_lays _ [.diagnostic kind position text]
  apply Lays.congr _ (second.comp first)
  intro b hb
  rw [width_placeText, hb]

theorem conclude_settled (width : Nat) (text : List Char) (halt : Option Halt) :
    Settled width (fun b => conclude text b halt) := by
  cases halt with
  | none => exact Settled.of_lays (Lays.nothing width) []
  | some halt =>
    cases halt with
    | broken fault position => exact report_settled width fault.kind text position
    | adrift position =>
      obtain ⟨p, events, reported⟩ := report_settled width Fault.parsing.kind text position
      refine ⟨p, .unexpected text :: events, fun b hb => ?_⟩
      simp only [conclude, reported b hb]

theorem interpret_settled (width : Nat) (text : List Char) (offset : Option Int) (colour : Value) :
    Settled width (fun b => interpret b text offset colour) := by
  let script := Script.ofText text
  obtain ⟨p, last, halt, ran⟩ :=
    runItems_lays script.ending width (.start offset colour) 0 script.items
  obtain ⟨q, events, concluded⟩ := conclude_settled width text halt
  refine ⟨q.atop p, events, fun b hb => ?_⟩
  calc
    interpret b text offset colour = conclude text (b.lay p) halt := by
      rw [interpret, run, Script.run, ran b hb]
    _ = ((b.lay p).lay q, events) := concluded (b.lay p) hb
    _ = (b.lay (q.atop p), events) := by rw [lay_lay]

end Markup

namespace Write

open Buffer

theorem run_settled (width : Nat) (w : Write) : Settled width (fun b => w.run b) := by
  cases w with
  | putChar char o => exact .of_lays (.putChar width char o) []
  | putCharXY char x y =>
    apply Settled.of_lays _ []
    apply Lays.congr _ (Lays.putChar width char (x + y * width))
    intro b hb
    rw [Buffer.offset, hb]
  | putColour colour o => exact .of_lays (.putColour width colour o) []
  | putColourXY colour x y =>
    apply Settled.of_lays _ []
    apply Lays.congr _ (Lays.putColour width colour (x + y * width))
    intro b hb
    rw [Buffer.offset, hb]
  | fillChar char => exact .of_lays (.fillCharWhere width _ char) []
  | fillCharRegion char r => exact .of_lays (.fillCharRegion width char r) []
  | fillColour colour => exact .of_lays (.fillColourWhere width _ colour) []
  | fillColourRegion colour r => exact .of_lays (.fillColourRegion width colour r) []
  | placeChar char o colour => exact .of_lays (.placeChar width char o colour) []
  | placeText text o colour => exact .of_lays (.placeText width text o colour) []
  | interpret text o colour => exact Markup.interpret_settled width text o colour
  | report kind text position =>
    cases short : Numeral.isShort position with
    | true => simpa only [run, short, if_true] using Markup.report_settled width kind text position
    | false => simpa only [run, short, Bool.false_eq_true, if_false] using Settled.of_lays (.nothing width) []

theorem runAll_settled (width : Nat) (writes : List Write) :
    Settled width (fun b => runAll b writes) := by
  induction writes with
  | nil => exact .of_lays (.nothing width) []
  | cons w rest ih =>
    obtain ⟨p, events, first⟩ := run_settled width w
    obtain ⟨q, later, second⟩ := ih
    refine ⟨q.atop p, events ++ later, fun b hb => ?_⟩
    simp only [runAll, first b hb, second (b.lay p) hb, lay_lay]

end Write

/-! Two buffers under the same writes, and one buffer under the same writes twice. -/

namespace Buffer

/-- What is read off two buffers is either left as it was on both or becomes the same on both. -/
def Overrides {α : Type} (f : Buffer → Buffer) (read : Buffer → α) (a b : Buffer) : Prop :=
  (read (f a) = read a ∧ read (f b) = read b) ∨ read (f a) = read (f b)

theorem charAt_lay (b : Buffer) (p : Overlay) (o : Int) :
    (b.lay p).charAt o = (b.charAt o).map (p o).char.getD := by
  unfold charAt
  rw [cell?_lay]
  cases b.cell? o <;> rfl

theorem colourAt_lay (b : Buffer) (p : Overlay) (o : Int) :
    (b.lay p).colourAt o = (b.colourAt o).map (p o).colour.or := by
  unfold colourAt
  rw [cell?_lay]
  cases b.cell? o <;> rfl

/-- At an offset two grids of one size either both have a cell or both have none. -/
theorem cells_of_size {a b : Buffer} (same : a.size = b.size) (o : Int) :
    (∃ x y, a.cell? o = some x ∧ b.cell? o = some y) ∨ (a.cell? o = none ∧ b.cell? o = none) := by
  have alike : a.Holds o ↔ b.Holds o := by rw [Holds, Holds, same]
  by_cases inside : a.Holds o
  · left
    obtain ⟨x, hx⟩ := exists_cell? inside
    obtain ⟨y, hy⟩ := exists_cell? (alike.mp inside)
    exact ⟨x, y, hx, hy⟩
  · right
    exact ⟨cell?_eq_none_iff.mpr inside, cell?_eq_none_iff.mpr (inside ∘ alike.mpr)⟩

theorem lay_overrides (p : Overlay) {a b : Buffer} (same : a.size = b.size) (o : Int) :
    Overrides (·.lay p) (·.charAt o) a b ∧ Overrides (·.lay p) (·.colourAt o) a b := by
  unfold Overrides
  simp only [charAt_lay, colourAt_lay]
  rcases cells_of_size same o with ⟨x, y, hx, hy⟩ | ⟨hx, hy⟩
  · simp only [charAt, colourAt, hx, hy]
    constructor
    · cases (p o).char with
      | none => exact .inl ⟨rfl, rfl⟩
      | some c => exact .inr rfl
    · cases (p o).colour with
      | none => exact .inl ⟨rfl, rfl⟩
      | some c => exact .inr rfl
  · simp [charAt, colourAt, hx, hy, same]

end Buffer

namespace Write

open Buffer

theorem Settled.twice {width : Nat} {f : Buffer → Buffer × List Log.Event} (h : Settled width f)
    {b : Buffer} (hb : b.width = width) : (f (f b).1).1 = (f b).1 := by
  obtain ⟨p, events, laid⟩ := h
  rw [laid b hb, laid (b.lay p) hb]
  exact lay_twice b p

/-- Writes override what the cells held: of a cell that they change nothing is left but what they put
there. So to run them again, or to interpret or place a text again, changes nothing. -/
theorem runAll_overrides (writes : List Write) :
    (∀ a b : Buffer, a.width = b.width → a.height = b.height → ∀ o : Int,
      Overrides (fun b => (runAll b writes).1) (·.charAt o) a b ∧
        Overrides (fun b => (runAll b writes).1) (·.colourAt o) a b) ∧
    (∀ b : Buffer, (runAll (runAll b writes).1 writes).1 = (runAll b writes).1) ∧
    (∀ (b : Buffer) (text : List Char) (offset : Option Int) (colour : Value),
      let once := (Markup.interpret b text offset colour).1
      (Markup.interpret once text offset colour).1 = once) ∧
    ∀ (b : Buffer) (text : List Char) (o : Int) (colour : Value),
      let once := b.placeText text o colour
      once.placeText text o colour = once := by
  refine ⟨?_, ?_, ?_, ?_⟩
  · intro a b width height o
    obtain ⟨p, events, laid⟩ := runAll_settled a.width writes
    have same : a.size = b.size := by rw [size, size, width, height]
    have := lay_overrides p same o
    simpa only [Overrides, laid a rfl, laid b width.symm] using this
  · intro b
    exact (runAll_settled b.width writes).twice rfl
  · intro b text offset colour
    exact (Markup.interpret_settled b.width text offset colour).twice rfl
  · intro b text o colour
    exact (run_settled b.width (.placeText text o colour)).twice rfl

/-- A clear in the middle, a colour that is none and a line that runs into the next. -/
theorem runAll_overrides_clear :
    let a := Buffer.new ⟨3, by decide⟩ ⟨2, by decide⟩
    let b := Buffer.filled ⟨'x', some .red⟩ ⟨3, by decide⟩ ⟨2, by decide⟩
    let writes : List Write :=
      [.placeText ['A', 'B', 'C', 'D', '\n', 'E'] 1 (.int 2),
       .interpret ['{', 'C', 'L', 'R', '}', 'Z'] (some 4) (.int 99)]
    a.width = b.width ∧ a.height = b.height ∧
      Overrides (fun b => (runAll b writes).1) (·.charAt 1) a b ∧
      Overrides (fun b => (runAll b writes).1) (·.colourAt 1) a b ∧
      (runAll (runAll b writes).1 writes).1 = (runAll b writes).1 := by
  intro a b writes
  obtain ⟨alike, twice, -, -⟩ := runAll_overrides writes
  obtain ⟨chars, colours⟩ := alike a b rfl rfl 1
  exact ⟨rfl, rfl, chars, colours, twice b⟩

end Write

end C64Screen
