import C64Screen.Proofs.Buffer.Layers
import C64Screen.Proofs.Markup.Running

/-!
# Layers under markup

Two runs side by side. Where the pens stand in one place and have one direction of video, the characters on the
two grids stay alike, whatever colours are used. Where the pens stand in one place and have one colour, the
colours stay alike, whatever characters are written and whichever of the grids is cleared. And where nothing but
the shape of the grids and the direction of video is the same, the characters are alike as soon as both grids have
been cleared. Each is shown of a single effect, and a script is its effects one after another. A diagnostic then
keeps any layer alike, if its text comes to stand in the same cells on both.
-/

namespace C64Screen.Markup

/-! A script as the effects that it has. -/

/-- The effect of a token that is cut off. -/
def Ending.effect? : Ending → Option Effect
  | .unclosed effect _ => some effect
  | _ => none

def Script.effects (script : Script) : List Effect :=
  script.items.map Item.effect ++ script.ending.effect?.toList

theorem effects_spell_append (items : List Item) (rest : List Char) :
    (Script.ofText (spell items ++ rest)).effects =
      items.map Item.effect ++ (Script.ofText rest).effects := by
  rw [Script.ofText_spell_append, Script.effects, List.map_append, List.append_assoc]
  rfl

@[simp] theorem effects_spell (items : List Item) :
    (Script.ofText (spell items)).effects = items.map Item.effect := by
  rw [Script.effects, Script.ofText_spell]
  exact List.append_nil _

/-- Positions count from the first character of the items in front. -/
theorem fault?_spell_append (items : List Item) (rest : List Char) :
    (Script.ofText (spell items ++ rest)).fault? =
      (Script.ofText rest).fault?.map fun f => (f.1, (spell items).length + f.2) := by
  rw [Script.ofText_spell_append, Script.fault?, Script.fault?, Option.map_map]
  congr 1
  funext f
  rw [spell_append, List.length_append, Nat.add_assoc]
  rfl

def Draft.applyEach (d : Draft) (effects : List Effect) : Draft := effects.foldl Draft.apply d

@[simp] theorem Draft.applyEach_append (d : Draft) (first second : List Effect) :
    d.applyEach (first ++ second) = (d.applyEach first).applyEach second := List.foldl_append

theorem Draft.applyEach_items (d : Draft) (items : List Item) :
    d.applyEach (items.map Item.effect) = d.applyAll items := List.foldl_map

theorem Script.result_eq_applyEach (script : Script) (d : Draft) :
    script.result d = d.applyEach script.effects := by
  rw [Script.effects, Draft.applyEach_append, Draft.applyEach_items, Script.result]
  cases script.ending <;> rfl

/-- What each of some effects keeps between two drafts is kept by all of them in a row. -/
theorem Draft.applyEach_of_mem (Same : Draft → Draft → Prop) {effects : List Effect}
    (step : ∀ f ∈ effects, ∀ {d e : Draft}, Same d e → Same (d.apply f) (e.apply f)) {d e : Draft} (h : Same d e) :
    Same (d.applyEach effects) (e.applyEach effects) := by
  induction effects generalizing d e with
  | nil => exact h
  | cons f effects ih =>
    rw [List.forall_mem_cons] at step
    exact ih step.2 (step.1 h)

theorem Draft.applyEach_of_apply {Same : Draft → Draft → Prop}
    (step : ∀ {d e : Draft}, Same d e → ∀ f, Same (d.apply f) (e.apply f)) {d e : Draft} (h : Same d e)
    (effects : List Effect) : Same (d.applyEach effects) (e.applyEach effects) :=
  applyEach_of_mem Same (fun f _ _ _ same => step same f) h

/-! Drafts side by side. -/

open Buffer

/-- Drafts that differ at most in their colours. -/
structure Draft.SameChars (d e : Draft) : Prop where
  chars : Alike Cell.char d.buffer e.buffer
  place : d.pen.place = e.pen.place
  reverse : d.pen.reverse = e.pen.reverse

/-- Drafts that differ at most in their characters and in the direction of video. -/
structure Draft.SameColours (d e : Draft) : Prop where
  colours : Alike Cell.colour d.buffer e.buffer
  place : d.pen.place = e.pen.place
  colour : d.pen.colour = e.pen.colour

/-- Drafts on grids of one shape, with one direction of video. -/
structure Draft.SameFrame (d e : Draft) : Prop where
  width : d.buffer.width = e.buffer.width
  height : d.buffer.height = e.buffer.height
  reverse : d.pen.reverse = e.pen.reverse

@[simp] theorem Effect.height_draw (cursor : Cursor) (b : Buffer) (f : Effect) :
    (f.draw cursor b).height = b.height := by
  cases f with
  | write c =>
    unfold draw
    cases cursor.place with
    | none => rfl
    | some p => exact b.height_place ..
  | _ => rfl

namespace Draft

variable {d e : Draft}

@[simp] theorem height_apply (d : Draft) (f : Effect) : (d.apply f).buffer.height = d.buffer.height :=
  Effect.height_draw ..

theorem buffer_apply_write (d : Draft) (c : Char) :
    (d.apply (.write c)).buffer =
      d.buffer.place (d.pen.cursor.shown c) d.pen.place.offset d.pen.colour := rfl

/-- Where an effect takes the pen is a matter of its place and of the width of the grid. -/
theorem place_apply (width : d.buffer.width = e.buffer.width) (place : d.pen.place = e.pen.place)
    (f : Effect) : (d.apply f).pen.place = (e.apply f).pen.place := by
  cases f <;> simp only [apply, Effect.lead, width, place]

theorem reverse_apply (reverse : d.pen.reverse = e.pen.reverse) (f : Effect) :
    (d.apply f).pen.reverse = (e.apply f).pen.reverse := by
  cases f with
  | reverse on => rfl
  | _ => exact reverse

namespace SameChars

theorem apply (h : SameChars d e) (f : Effect) : SameChars (d.apply f) (e.apply f) := by
  refine ⟨?_, place_apply h.chars.width h.place f, reverse_apply h.reverse f⟩
  cases f with
  | write c =>
    have shown : d.pen.cursor.shown c = e.pen.cursor.shown c :=
      congrArg (fun on : Bool => if on then Charset.reverse c else c) h.reverse
    rw [buffer_apply_write, buffer_apply_write, shown, h.place]
    apply h.chars.place
    exact Stamp.alike_char rfl
  | clear => exact alike_clear h.chars.width h.chars.height
  | _ => exact h.chars

/-- A colour may be chosen differently. -/
theorem apply_ink (h : SameChars d e) (m n : Int) : SameChars (d.apply (.ink m)) (e.apply (.ink n)) :=
  ⟨h.chars, h.place, h.reverse⟩

end SameChars

namespace SameColours

theorem apply (h : SameColours d e) (f : Effect) : SameColours (d.apply f) (e.apply f) := by
  refine ⟨?_, place_apply h.colours.width h.place f, ?_⟩
  · cases f with
    | write c =>
      rw [buffer_apply_write, buffer_apply_write, h.place, h.colour]
      apply h.colours.place
      exact Stamp.alike_colour rfl
    | clear => exact h.colours.clear
    | _ => exact h.colours
  · cases f with
    | ink code => rfl
    | _ => exact h.colour

/-- To clear the grid or only to go home is all one to the colours. -/
theorem apply_clear_home (h : SameColours d e) : SameColours (d.apply .clear) (e.apply .home) :=
  ⟨h.colours.clear_left, rfl, h.colour⟩

end SameColours

namespace SameFrame

theorem apply (h : SameFrame d e) (f : Effect) : SameFrame (d.apply f) (e.apply f) :=
  ⟨by simp [h.width], by simp [h.height], reverse_apply h.reverse f⟩

/-- Clearing leaves one grid of blanks and one place. -/
theorem apply_clear (h : SameFrame d e) : SameChars (d.apply .clear) (e.apply .clear) :=
  ⟨alike_clear h.width h.height, rfl, h.reverse⟩

end SameFrame

end Draft

/-! Diagnostics. -/

section

variable {α : Type} {view : Cell → α} {a b : Buffer} {s t : List Char}

/-- The letters that both texts have in the same cells are put there in one and the same colour. -/
abbrev Echoes (view : Cell → α) : List Char → List Char → Prop :=
  List.Forall₂ (InStep view diagnosticColour.toValue diagnosticColour.toValue)

theorem alike_report (h : Alike view a b) (texts : Echoes view s t) (kind : String) (position : Int) :
    Alike view (report a kind s position).1 (report b kind t position).1 := by
  have headed := h.placeText (inStep_full view diagnosticColour ((headline kind position).toList.map Charset.reverse)) 0
  simp only [report, width_placeText, h.width]
  exact headed.placeText texts b.width

theorem alike_interpret {p q : Int} {u v : Value}
    (drawn : Alike view ((Script.ofText s).result (.start a p u)).buffer
      ((Script.ofText t).result (.start b q v)).buffer)
    (fault : (Script.ofText s).fault? = (Script.ofText t).fault?) (texts : Echoes view s t) :
    Alike view (interpret a s (some p) u).1 (interpret b t (some q) v).1 := by
  rw [interpret_eq, interpret_eq, fault]
  cases (Script.ofText t).fault? with
  | none => exact drawn
  | some f => exact alike_report drawn texts f.1.kind f.2

end

end C64Screen.Markup
