import C64Screen.Buffer.Write
import C64Screen.Proofs.Buffer.Overlay
import Mathlib.Data.Int.Range

/-!
# Writes, put by put

A buffer is never asked for more than to put one thing into one cell. A fill goes from offset to offset, a
region from row to row and in each of them from column to column, a text from character to character, and
markup wherever its cursor takes it. Which puts these are is settled by the dimensions of the grid and not
by what its cells hold. Carried out in order they leave what the write leaves at one stroke. What is logged on the
way does not hang on the cells either.
-/

namespace C64Screen

/-- A text in the place of a character, or a value in the place of a colour. -/
inductive Paint where
  | char (s : String)
  | colour (v : Value)

namespace Paint

/-- What is not one character, or no colour, leaves nothing. -/
def stamp : Paint → Stamp
  | .char s => ⟨Text.single? s, none⟩
  | .colour v => ⟨none, Colour.ofValue? v⟩

def fillWhere (b : Buffer) (test : Nat → Bool) : Paint → Buffer
  | .char s => b.fillCharWhere test s
  | .colour v => b.fillColourWhere test v

end Paint

structure Put where
  paint : Paint
  offset : Int

namespace Stamp

@[simp] theorem blank_atop (s : Stamp) : blank.atop s = s := rfl

@[simp] theorem atop_blank (s : Stamp) : s.atop blank = s := by
  obtain ⟨char, colour⟩ := s
  cases char <;> cases colour <;> rfl

/-- A colour can be covered but not taken away. -/
theorem colour_press_ne_none {cell : Cell} (coloured : cell.colour ≠ none) (s : Stamp) :
    (s.press cell).colour ≠ none := by
  cases stamped : s.colour with
  | none => simpa [press, stamped] using coloured
  | some c => simp [press, stamped]

end Stamp

namespace Buffer

theorem lay_wherever_blank (b : Buffer) (test : Int → Bool) : b.lay (.wherever test .blank) = b := by
  have nowhere : Overlay.wherever test .blank = .blank := by
    funext o
    simp [Overlay.wherever, Overlay.blank]
  rw [nowhere, lay_blank]

/-- Of an overlay only what lies within the grid counts. -/
theorem lay_congr {b : Buffer} {p q : Overlay} (same : ∀ o, b.Holds o → p o = q o) :
    b.lay p = b.lay q := by
  refine ext_cell? rfl rfl fun o => ?_
  rw [cell?_lay, cell?_lay]
  by_cases inside : b.Holds o
  · rw [same o inside]
  · rw [cell?_eq_none_iff.mpr inside]
    rfl

theorem cell?_filled (cell : Cell) (width height : Size) (o : Int) :
    (filled cell width height).cell? o =
      if (filled cell width height).Holds o then some cell else none := by
  split
  · next inside =>
    have within : o.toNat < width.val * height.val := (Int.toNat_lt inside.1).mpr inside.2
    exact (if_pos inside.1).trans (Array.getElem?_replicate.trans (if_pos within))
  · next outside => exact cell?_eq_none_iff.mpr outside

end Buffer

open Buffer

theorem Paint.fillWhere_eq_lay (b : Buffer) (test : Nat → Bool) (paint : Paint) :
    paint.fillWhere b test = b.lay (.wherever (test ·.toNat) paint.stamp) := by
  cases paint with
  | char s =>
    rw [fillWhere, stamp, fillCharWhere]
    cases Text.single? s with
    | none => exact (b.lay_wherever_blank _).symm
    | some c => exact b.modifyWhere_eq_lay test (.ofChar c)
  | colour v =>
    rw [fillWhere, stamp, fillColourWhere]
    cases Colour.ofValue? v with
    | none => exact (b.lay_wherever_blank _).symm
    | some c => exact b.modifyWhere_eq_lay test (.ofColour c)

namespace Put

def run (b : Buffer) (p : Put) : Buffer :=
  match p.paint with
  | .char s => b.putChar s p.offset
  | .colour v => b.putColour v p.offset

def runAll (b : Buffer) (puts : List Put) : Buffer := puts.foldl run b

@[simp] theorem runAll_cons (b : Buffer) (p : Put) (puts : List Put) :
    runAll b (p :: puts) = runAll (p.run b) puts := rfl

@[simp] theorem runAll_append (b : Buffer) (first second : List Put) :
    runAll b (first ++ second) = runAll (runAll b first) second := List.foldl_append

theorem run_eq_lay (b : Buffer) (p : Put) :
    p.run b = b.lay (.wherever (· = p.offset) p.paint.stamp) := by
  obtain ⟨paint, o⟩ := p
  cases paint with
  | char s =>
    change b.putChar s o = b.lay (.wherever (· = o) ⟨Text.single? s, none⟩)
    rw [putChar]
    cases Text.single? s with
    | none => exact (b.lay_wherever_blank _).symm
    | some c => exact b.modify_eq_lay o (.ofChar c)
  | colour v =>
    change b.putColour v o = b.lay (.wherever (· = o) ⟨none, Colour.ofValue? v⟩)
    rw [putColour]
    cases Colour.ofValue? v with
    | none => exact (b.lay_wherever_blank _).symm
    | some c => exact b.modify_eq_lay o (.ofColour c)

@[simp] theorem width_run (b : Buffer) (p : Put) : (p.run b).width = b.width := by
  rw [run_eq_lay]
  rfl

@[simp] theorem height_run (b : Buffer) (p : Put) : (p.run b).height = b.height := by
  rw [run_eq_lay]
  rfl

@[simp] theorem width_runAll (b : Buffer) (puts : List Put) : (runAll b puts).width = b.width := by
  induction puts generalizing b with
  | nil => rfl
  | cons p puts ih => rw [runAll_cons, ih, width_run]

@[simp] theorem height_runAll (b : Buffer) (puts : List Put) : (runAll b puts).height = b.height := by
  induction puts generalizing b with
  | nil => rfl
  | cons p puts ih => rw [runAll_cons, ih, height_run]

/-! Fills. -/

/-- The same paint at one offset after another. -/
def along (paint : Paint) (offsets : List Int) : List Put := offsets.map (⟨paint, ·⟩)

theorem runAll_along (b : Buffer) (paint : Paint) (offsets : List Int) :
    runAll b (along paint offsets) = b.lay (.wherever (· ∈ offsets) paint.stamp) := by
  induction offsets generalizing b with
  | nil => exact b.lay_blank.symm
  | cons o rest ih =>
    have both : (Overlay.wherever (· ∈ rest) paint.stamp).atop (.wherever (· = o) paint.stamp) =
        .wherever (· ∈ o :: rest) paint.stamp := by
      funext p
      by_cases later : p ∈ rest <;> by_cases here : p = o <;>
        simp_all [Overlay.atop, Overlay.wherever]
    calc
      runAll b (along paint (o :: rest))
        = runAll ((⟨paint, o⟩ : Put).run b) (along paint rest) := rfl
      _ = (b.lay (.wherever (· = o) paint.stamp)).lay (.wherever (· ∈ rest) paint.stamp) := by
        rw [ih, run_eq_lay]
      _ = b.lay (.wherever (· ∈ o :: rest) paint.stamp) := by rw [lay_lay, both]

/-- To change all cells that pass a test is to go through their offsets in any order. -/
theorem fillWhere_eq_runAll {b : Buffer} {test : Nat → Bool} {offsets : List Int}
    (passes : ∀ o, b.Holds o → (test o.toNat = true ↔ o ∈ offsets)) (paint : Paint) :
    paint.fillWhere b test = runAll b (along paint offsets) := by
  rw [Paint.fillWhere_eq_lay, runAll_along]
  apply lay_congr
  intro o inside
  have := passes o inside
  by_cases listed : o ∈ offsets <;> simp_all [Overlay.wherever]

end Put

/-- All offsets of a grid. -/
def offsets (width height : Nat) : List Int := Int.range 0 (width * height : Nat)

theorem mem_offsets {b : Buffer} {o : Int} : o ∈ offsets b.width b.height ↔ b.Holds o :=
  Int.mem_range_iff

namespace Region

/-- Row by row, and in each row column by column. -/
def offsets (r : Region) (width : Nat) : List Int :=
  (Int.range r.top (r.bottom + 1)).flatMap fun y =>
    (Int.range r.left (r.right + 1)).map fun x => x + y * width

theorem mem_offsets {r : Region} {width : Nat} {o : Int} :
    o ∈ r.offsets width ↔ r.Covers width o := by
  simp only [offsets, List.mem_flatMap, List.mem_map, Int.mem_range_iff, Int.lt_add_one_iff]
  constructor
  · rintro ⟨y, ⟨top, bottom⟩, x, ⟨left, right⟩, at_o⟩
    exact ⟨x, y, left, right, top, bottom, at_o⟩
  · rintro ⟨x, y, left, right, top, bottom, at_o⟩
    exact ⟨y, ⟨top, bottom⟩, x, ⟨left, right⟩, at_o⟩

end Region

namespace Put

theorem fill_eq_runAll (b : Buffer) (paint : Paint) :
    paint.fillWhere b (fun _ => true) = runAll b (along paint (offsets b.width b.height)) := by
  apply fillWhere_eq_runAll
  intro o inside
  simpa [mem_offsets] using inside

theorem fillRegion_eq_runAll (b : Buffer) (paint : Paint) (r : Region) :
    paint.fillWhere b (fun i => r.covers b.width i) = runAll b (along paint (r.offsets b.width)) := by
  apply fillWhere_eq_runAll
  intro o inside
  have nonneg : 0 ≤ o := inside.1
  rw [Int.toNat_of_nonneg nonneg, Region.covers_iff b.width_pos, Region.mem_offsets]

/-! Texts. -/

/-- A character and its colour. -/
def glyph (colour : Value) (c : Char) (o : Int) : List Put :=
  [⟨.char (String.singleton c), o⟩, ⟨.colour colour, o⟩]

/-- The rest of a text whose present line began at `start`. -/
def ofText (width : Nat) (colour : Value) : List Char → (o start : Int) → List Put
  | [], _, _ => []
  | c :: rest, o, start =>
    if c = lineFeed then ofText width colour rest (start + width) (start + width)
    else glyph colour c o ++ ofText width colour rest (o + 1) start

theorem runAll_glyph (b : Buffer) (colour : Value) (c : Char) (o : Int) :
    runAll b (glyph colour c o) = b.place c o colour := by
  have single : Text.single? (String.singleton c) = some c :=
    Text.single?_eq_some_iff.mpr (String.toList_singleton c)
  change (b.putChar (String.singleton c) o).putColour colour o = b.place c o colour
  rw [putChar_of_single? single, place]

theorem placeFrom_eq_runAll (b : Buffer) (colour : Value) (text : List Char) (o start : Int) :
    placeFrom colour text o start b = runAll b (ofText b.width colour text o start) := by
  induction text generalizing b o start with
  | nil => rfl
  | cons c rest ih =>
    by_cases hc : c = lineFeed
    · subst hc
      rw [placeFrom_lineFeed, ih, ofText, if_pos rfl]
    · rw [placeFrom_cons hc, ih, ofText, if_neg hc, runAll_append, runAll_glyph, width_place]

end Put

/-! Markup. -/

namespace Markup

open Put

def Effect.puts (width height : Nat) (cursor : Cursor) : Effect → List Put
  | .write c =>
    match cursor.place with
    | some p => glyph cursor.colour (cursor.shown c) p.offset
    | none => []
  | .clear => along (.char " ") (offsets width height)
  | _ => []

theorem draw_eq_runAll (cursor : Cursor) (b : Buffer) (e : Effect) :
    e.draw cursor b = runAll b (e.puts b.width b.height cursor) := by
  cases e with
  | write c =>
    unfold Effect.draw Effect.puts
    cases cursor.place with
    | none => rfl
    | some p => exact (runAll_glyph b cursor.colour (cursor.shown c) p.offset).symm
  | clear => exact fill_eq_runAll b (.char " ")
  | _ => rfl

/-- A run apart from any buffer: the effects that it carries out, each with the cursor that it finds, and
why the run stops if it is not at the end of its text. -/
structure Course where
  effects : List (Cursor × Effect)
  halt : Option Halt

def Ending.course (width : Nat) (cursor : Cursor) (index : Nat) : Ending → Course
  | .complete => ⟨[], none⟩
  | .broken fault ahead => ⟨[], some (.broken fault (index + ahead))⟩
  | .unclosed effect ahead =>
    match effect.steer width cursor with
    | some _ => ⟨[(cursor, effect)], some (.broken .parsing (index + ahead))⟩
    | none => ⟨[], some (.adrift (index + effect.adriftAhead ahead))⟩

def course (ending : Ending) (width : Nat) : Cursor → (index : Nat) → List Item → Course
  | cursor, index, [] => ending.course width cursor index
  | cursor, index, i :: rest =>
    match i.effect.steer width cursor with
    | some next =>
      let later := course ending width next (index + i.width) rest
      ⟨(cursor, i.effect) :: later.effects, later.halt⟩
    | none => ⟨[], some (.adrift (index + i.effect.adriftAhead i.width))⟩

def Course.puts (width height : Nat) (c : Course) : List Put :=
  c.effects.flatMap fun (cursor, effect) => effect.puts width height cursor

theorem Ending.run_course (ending : Ending) (b : Buffer) (cursor : Cursor) (index : Nat) :
    let stop := ending.run ⟨b, cursor⟩ index
    let c := ending.course b.width cursor index
    stop.state.buffer = runAll b (c.puts b.width b.height) ∧ stop.halt = c.halt := by
  cases ending with
  | complete => exact ⟨rfl, rfl⟩
  | broken fault ahead => exact ⟨rfl, rfl⟩
  | unclosed effect ahead =>
    simp only [Ending.run, Ending.course]
    cases effect.steer b.width cursor with
    | none => exact ⟨rfl, rfl⟩
    | some next =>
      simp only [Course.puts, List.flatMap_cons, List.flatMap_nil, List.append_nil]
      exact ⟨draw_eq_runAll cursor b effect, trivial⟩

theorem runItems_course (ending : Ending) (b : Buffer) (cursor : Cursor) (index : Nat)
    (items : List Item) :
    let stop := runItems ending ⟨b, cursor⟩ index items
    let c := course ending b.width cursor index items
    stop.state.buffer = runAll b (c.puts b.width b.height) ∧ stop.halt = c.halt := by
  induction items generalizing b cursor index with
  | nil => exact ending.run_course b cursor index
  | cons i rest ih =>
    simp only [runItems, course]
    cases i.effect.steer b.width cursor with
    | none => exact ⟨rfl, rfl⟩
    | some next =>
      -- The course goes by the dimensions alone, and those are the same on the buffer drawn upon.
      have later := ih (i.effect.draw cursor b) next (index + i.width)
      rw [draw_eq_runAll, width_runAll, height_runAll] at later
      simp only [Course.puts, List.flatMap_cons, runAll_append, draw_eq_runAll]
      exact later

/-- A diagnostic. -/
def reportPuts (width : Nat) (kind : String) (text : List Char) (position : Int) : List Put :=
  let head := (headline kind position).toList.map Charset.reverse
  ofText width diagnosticColour.toValue head 0 0 ++
    ofText width diagnosticColour.toValue text width width

def Halt.puts (width : Nat) (text : List Char) : Halt → List Put
  | .broken fault position => reportPuts width fault.kind text position
  | .adrift position => reportPuts width Fault.parsing.kind text position

/-- What is drawn up to where the run stops, and the diagnostic if there is one. -/
def puts (width height : Nat) (text : List Char) (offset : Option Int) (colour : Value) : List Put :=
  let script := Script.ofText text
  let c := course script.ending width (.start offset colour) 0 script.items
  c.puts width height ++ (c.halt.map (Halt.puts width text)).getD []

theorem report_eq_runAll (b : Buffer) (kind : String) (text : List Char) (position : Int) :
    (report b kind text position).1 = runAll b (reportPuts b.width kind text position) := by
  rw [report, reportPuts, runAll_append]
  simp only [placeText, placeFrom_eq_runAll, width_runAll]

theorem conclude_eq_runAll (text : List Char) (b : Buffer) (halt : Option Halt) :
    (conclude text b halt).1 = runAll b ((halt.map (Halt.puts b.width text)).getD []) := by
  cases halt with
  | none => rfl
  | some halt => cases halt <;> exact report_eq_runAll ..

theorem interpret_eq_runAll (b : Buffer) (text : List Char) (offset : Option Int) (colour : Value) :
    (interpret b text offset colour).1 = runAll b (puts b.width b.height text offset colour) := by
  let script := Script.ofText text
  obtain ⟨drawn, halted⟩ := runItems_course script.ending b (.start offset colour) 0 script.items
  rw [interpret, run, Script.run, conclude_eq_runAll, drawn, halted, puts, runAll_append,
    width_runAll]

def Halt.events (text : List Char) : Halt → List Log.Event
  | .broken fault position => [.diagnostic fault.kind position text]
  | .adrift position => [.unexpected text, .diagnostic Fault.parsing.kind position text]

/-- What is logged of a text: why the run of it stops, if it is not at its end. -/
def events (width : Nat) (text : List Char) (offset : Option Int) (colour : Value) : List Log.Event :=
  let script := Script.ofText text
  let c := course script.ending width (.start offset colour) 0 script.items
  (c.halt.map (Halt.events text)).getD []

theorem interpret_events (b : Buffer) (text : List Char) (offset : Option Int) (colour : Value) :
    (interpret b text offset colour).2 = events b.width text offset colour := by
  let script := Script.ofText text
  obtain ⟨-, halted⟩ := runItems_course script.ending b (.start offset colour) 0 script.items
  rw [interpret, run, Script.run, halted, events]
  cases (course script.ending b.width (.start offset colour) 0 script.items).halt with
  | none => rfl
  | some halt => cases halt <;> rfl

end Markup

namespace Write

open Put

/-- The puts of a write on a grid of given dimensions, in the order in which they are made. -/
def puts (width height : Nat) : Write → List Put
  | .putChar char o => [⟨.char char, o⟩]
  | .putCharXY char x y => [⟨.char char, x + y * width⟩]
  | .putColour colour o => [⟨.colour colour, o⟩]
  | .putColourXY colour x y => [⟨.colour colour, x + y * width⟩]
  | .fillChar char => along (.char char) (offsets width height)
  | .fillCharRegion char r => along (.char char) (r.offsets width)
  | .fillColour colour => along (.colour colour) (offsets width height)
  | .fillColourRegion colour r => along (.colour colour) (r.offsets width)
  | .placeChar char o colour => [⟨.char char, o⟩, ⟨.colour colour, o⟩]
  | .placeText text o colour => ofText width colour text o o
  | .interpret text o colour => Markup.puts width height text o colour
  | .report kind text position => if Numeral.isShort position then Markup.reportPuts width kind text position else []

/-- A write is its puts, one after another. -/
theorem run_eq_runAll_puts (b : Buffer) (w : Write) :
    (w.run b).1 = Put.runAll b (w.puts b.width b.height) := by
  cases w with
  | fillChar char => exact fill_eq_runAll b (.char char)
  | fillCharRegion char r => exact fillRegion_eq_runAll b (.char char) r
  | fillColour colour => exact fill_eq_runAll b (.colour colour)
  | fillColourRegion colour r => exact fillRegion_eq_runAll b (.colour colour) r
  | placeText text o colour => exact placeFrom_eq_runAll b colour text o o
  | interpret text o colour => exact Markup.interpret_eq_runAll b text o colour
  | report kind text position =>
    rw [run, puts]
    split
    · exact Markup.report_eq_runAll b kind text position
    · rfl
  | _ => rfl

def events (width : Nat) : Write → List Log.Event
  | .interpret text o colour => Markup.events width text o colour
  | .report kind text position => if Numeral.isShort position then [.diagnostic kind position text] else []
  | _ => []

theorem run_events (b : Buffer) (w : Write) : (w.run b).2 = w.events b.width := by
  cases w with
  | interpret text o colour => exact Markup.interpret_events b text o colour
  | report kind text position =>
    rw [run, events]
    split <;> rfl
  | _ => rfl

end Write

end C64Screen
