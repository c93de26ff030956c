import C64Screen.Markup.Interpret
import C64Screen.Proofs.Markup.Grammar

/-!
# Runs from a place

A cursor that has a place never loses it, so every effect finds what it needs and a run is a fold over the
items of its text. Only what stands behind the last item can stop it. The run of a text is then read off
its script: the items are carried out one after another, and the ending says what is left to do and which
fault is reported.
-/

namespace C64Screen.Markup

/-- A cursor that has a place. -/
structure Pen where
  place : Place
  colour : Value
  reverse : Bool

namespace Pen

def cursor (p : Pen) : Cursor := ⟨some p.place, p.colour, p.reverse⟩

def start (offset : Int) (colour : Value) : Pen := ⟨⟨offset, offset⟩, colour, false⟩

end Pen

/-- Where an effect takes a pen. -/
def Effect.lead (width : Nat) (p : Pen) : Effect → Pen
  | .write _ => { p with place := p.place.move 1 }
  | .lineFeed => { p with place := p.place.lineFeed width }
  | .clear => { p with place := .origin }
  | .home => { p with place := .origin }
  | .move rows cells => { p with place := p.place.move (rows * width + cells) }
  | .ink code => { p with colour := .int code }
  | .reverse on => { p with reverse := on }

@[simp] theorem Effect.steer_cursor (width : Nat) (p : Pen) (e : Effect) :
    e.steer width p.cursor = some (e.lead width p).cursor := by
  cases e <;> rfl

@[simp] theorem Effect.width_draw (cursor : Cursor) (b : Buffer) (e : Effect) :
    (e.draw cursor b).width = b.width := by
  cases e with
  | write c =>
    unfold draw
    cases cursor.place with
    | none => rfl
    | some p => exact b.width_place ..
  | _ => rfl

/-- A buffer and the pen that writes to it. -/
structure Draft where
  buffer : Buffer
  pen : Pen

namespace Draft

def start (b : Buffer) (offset : Int) (colour : Value) : Draft := ⟨b, .start offset colour⟩

def state (d : Draft) : State := ⟨d.buffer, d.pen.cursor⟩

def apply (d : Draft) (e : Effect) : Draft :=
  ⟨e.draw d.pen.cursor d.buffer, e.lead d.buffer.width d.pen⟩

def applyAll (d : Draft) (items : List Item) : Draft :=
  items.foldl (fun d i => d.apply i.effect) d

@[simp] theorem applyAll_nil (d : Draft) : d.applyAll [] = d := rfl

@[simp] theorem applyAll_cons (d : Draft) (i : Item) (items : List Item) :
    d.applyAll (i :: items) = (d.apply i.effect).applyAll items := rfl

@[simp] theorem applyAll_append (d : Draft) (xs ys : List Item) :
    d.applyAll (xs ++ ys) = (d.applyAll xs).applyAll ys := List.foldl_append

@[simp] theorem width_apply (d : Draft) (e : Effect) :
    (d.apply e).buffer.width = d.buffer.width := Effect.width_draw ..

@[simp] theorem width_applyAll (d : Draft) (items : List Item) :
    (d.applyAll items).buffer.width = d.buffer.width := by
  induction items generalizing d with
  | nil => rfl
  | cons i items ih => rw [applyAll_cons, ih, width_apply]

/-- What is still done at the end of a script. -/
def finish (d : Draft) : Ending → Draft
  | .unclosed effect _ => d.apply effect
  | _ => d

end Draft

theorem runItems_cons (ending : Ending) (d : Draft) (index : Nat) (i : Item) (items : List Item) :
    runItems ending d.state index (i :: items) =
      runItems ending (d.apply i.effect).state (index + i.width) items := by
  rw [runItems, show d.state.cursor = d.pen.cursor from rfl, Effect.steer_cursor]
  rfl

theorem run_letters (d : Draft) (index : Nat) (i : Item) (rest : List Char) :
    run d.state index (i.letters ++ rest) =
      run (d.apply i.effect).state (index + i.width) rest := by
  rw [run, Script.ofText_letters]
  exact runItems_cons ..

/-- Running a text that begins with items carries out the items and goes on behind them. -/
theorem run_spell_append (d : Draft) (index : Nat) (items : List Item) (rest : List Char) :
    run d.state index (spell items ++ rest) =
      run (d.applyAll items).state (index + (spell items).length) rest := by
  induction items generalizing d index with
  | nil => rfl
  | cons i items ih =>
    rw [spell_cons, List.append_assoc, run_letters, ih, Draft.applyAll_cons, List.length_append,
      Item.length_letters, Nat.add_assoc]

theorem run_of_ends {w : List Char} {e : Ending} (h : Script.Ends w e) (s : State) (index : Nat) :
    run s index w = e.run s index := by
  rw [run, h.ofText]
  rfl

theorem Ending.run_draft (e : Ending) (d : Draft) (index : Nat) :
    e.run d.state index =
      ⟨(d.finish e).state, e.fault?.map (fun f => .broken f.1 (index + f.2))⟩ := by
  cases e with
  | complete => rfl
  | broken fault ahead => rfl
  | unclosed effect ahead =>
    rw [Ending.run, show d.state.cursor = d.pen.cursor from rfl, Effect.steer_cursor]
    rfl

/-- The run of markup is the fold over its items. -/
@[simp] theorem run_spell (d : Draft) (index : Nat) (items : List Item) :
    run d.state index (spell items) = ⟨(d.applyAll items).state, none⟩ := by
  have := run_spell_append d index items []
  rw [List.append_nil] at this
  rw [this, run_of_ends .complete]
  rfl

theorem run_spell_ends (d : Draft) (index : Nat) (items : List Item) {w : List Char} {e : Ending}
    (h : Script.Ends w e) :
    run d.state index (spell items ++ w) =
      ⟨((d.applyAll items).finish e).state,
        e.fault?.map (fun f => .broken f.1 (index + (spell items).length + f.2))⟩ := by
  rw [run_spell_append, run_of_ends h, Ending.run_draft]

/-- The items of a text that runs to its end. -/
theorem exists_items_of_run {d : Draft} {index : Nat} {text : List Char}
    (done : (run d.state index text).halt = none) : ∃ items, spell items = text := by
  obtain ⟨w, split, ends⟩ := Script.exists_spell_append text
  generalize (Script.ofText text).items = items at split
  generalize (Script.ofText text).ending = e at ends
  rw [split, run_spell_ends d index items ends] at done
  cases ends with
  | complete => exact ⟨items, by rw [split, List.append_nil]⟩
  | token h =>
    obtain ⟨fault, ahead, hf, -⟩ := (Script.stuck_of_token h).fails
    rw [hf] at done
    cases done

/-- The fault of a script, and the position that is reported with it. -/
def Script.fault? (script : Script) : Option (Fault × Nat) :=
  script.ending.fault?.map (fun f => (f.1, (spell script.items).length + f.2))

/-- What a script makes of a draft. -/
def Script.result (script : Script) (d : Draft) : Draft :=
  (d.applyAll script.items).finish script.ending

theorem run_eq (d : Draft) (text : List Char) :
    run d.state 0 text =
      ⟨((Script.ofText text).result d).state,
        (Script.ofText text).fault?.map (fun f => .broken f.1 f.2)⟩ := by
  obtain ⟨w, split, ends⟩ := Script.exists_spell_append text
  have := run_spell_ends d 0 (Script.ofText text).items ends
  rw [← split, Nat.zero_add] at this
  rw [this, Script.fault?, Option.map_map]
  rfl

theorem run_start (b : Buffer) (text : List Char) (offset : Int) (colour : Value) :
    run ⟨b, .start (some offset) colour⟩ 0 text =
      ⟨((Script.ofText text).result (.start b offset colour)).state,
        (Script.ofText text).fault?.map (fun f => .broken f.1 f.2)⟩ :=
  run_eq (.start b offset colour) text

theorem run_start_spell (b : Buffer) (items : List Item) (offset : Int) (colour : Value) :
    run ⟨b, .start (some offset) colour⟩ 0 (spell items) =
      ⟨((Draft.start b offset colour).applyAll items).state, none⟩ :=
  run_spell (.start b offset colour) 0 items

theorem interpret_eq (b : Buffer) (text : List Char) (offset : Int) (colour : Value) :
    interpret b text (some offset) colour =
      let final := ((Script.ofText text).result (.start b offset colour)).buffer
      match (Script.ofText text).fault? with
      | none => (final, [])
      | some (fault, position) => report final fault.kind text position := by
  rw [interpret, run_start]
  cases (Script.ofText text).fault? <;> rfl

end C64Screen.Markup
