import Mathlib.Data.List.Forall2
import C64Screen.Proofs.Buffer.Layout

/-!
# Layers of a grid

A cell has a character and a colour, so a grid has two layers, and a view of the cells picks out one of them.
Grids of one shape are alike in a layer if the view shows the same on both. Whether they stay alike hangs on the
stamps that they are given. In the layer of the characters only the characters of the stamps count, and in the
layer of the colours only their colours. So texts that differ in colour alone leave the same characters, and
texts that differ in their letters, with their line feeds in the same places, leave the same colours.
-/

namespace C64Screen

variable {α : Type} {view : Cell → α}

/-- Stamps that show the same through a view, wherever what is below them does. -/
def Stamp.Alike (view : Cell → α) (s t : Stamp) : Prop :=
  ∀ x y : Cell, view x = view y → view (s.press x) = view (t.press y)

namespace Stamp

theorem alike_char {s t : Stamp} (same : s.char = t.char) : Stamp.Alike Cell.char s t := by
  intro x y below
  change s.char.getD x.char = t.char.getD y.char
  rw [same, below]

theorem alike_colour {s t : Stamp} (same : s.colour = t.colour) : Stamp.Alike Cell.colour s t := by
  intro x y below
  change s.colour.or x.colour = t.colour.or y.colour
  rw [same, below]

/-- A stamp that has both leaves nothing of what was below it. -/
theorem alike_full (view : Cell → α) (c : Char) (k : Colour) :
    Stamp.Alike view ⟨some c, some k⟩ ⟨some c, some k⟩ := fun _ _ _ => rfl

end Stamp

namespace Buffer

variable {a b : Buffer}

/-- Grids of one shape that show the same in a layer. -/
structure Alike (view : Cell → α) (a b : Buffer) : Prop where
  width : a.width = b.width
  height : a.height = b.height
  layer : a.cells.map view = b.cells.map view

theorem alike_iff :
    Alike view a b ↔
      a.width = b.width ∧ a.height = b.height ∧ ∀ o, (a.cell? o).map view = (b.cell? o).map view := by
  constructor
  · rintro ⟨width, height, layer⟩
    refine ⟨width, height, fun o => ?_⟩
    have shown := congrArg (·[o.toNat]?) layer
    simp only [Array.getElem?_map] at shown
    rw [cell?, cell?]
    split
    · exact shown
    · rfl
  · rintro ⟨width, height, cells⟩
    refine ⟨width, height, Array.ext_getElem? fun i => ?_⟩
    simpa [cell?] using cells i

namespace Alike

theorem refl (view : Cell → α) (b : Buffer) : Alike view b b := ⟨rfl, rfl, rfl⟩

theorem symm (h : Alike view a b) : Alike view b a := ⟨h.width.symm, h.height.symm, h.layer.symm⟩

theorem lay (h : Alike view a b) {p q : Overlay} (stamps : ∀ o, Stamp.Alike view (p o) (q o)) :
    Alike view (a.lay p) (b.lay q) := by
  obtain ⟨width, height, cells⟩ := alike_iff.mp h
  refine alike_iff.mpr ⟨width, height, fun o => ?_⟩
  have below := cells o
  rw [cell?_lay, cell?_lay]
  cases ha : a.cell? o with
  | none =>
    rw [ha, Option.map_none, eq_comm, Option.map_eq_none_iff] at below
    rw [below]
    rfl
  | some x =>
    rw [ha, Option.map_some, eq_comm, Option.map_eq_some_iff] at below
    obtain ⟨y, hb, same⟩ := below
    rw [hb]
    exact congrArg some (stamps o x y same.symm)

theorem place (h : Alike view a b) {c d : Char} {u v : Value}
    (stamps : Stamp.Alike view ⟨some c, Colour.ofValue? u⟩ ⟨some d, Colour.ofValue? v⟩) (o : Int) :
    Alike view (a.place c o u) (b.place d o v) := by
  rw [place_eq_lay, place_eq_lay]
  apply h.lay
  intro p
  rw [Overlay.wherever, Overlay.wherever]
  split
  · exact stamps
  · intro x y below
    rw [Stamp.press_blank]
    exact below

end Alike

/-! Clearing. -/

theorem alike_clear (width : a.width = b.width) (height : a.height = b.height) :
    Alike Cell.char a.clear b.clear := by
  refine alike_iff.mpr ⟨width, height, fun o => ?_⟩
  have size : a.size = b.size := by rw [Buffer.size, Buffer.size, width, height]
  rw [cell?_clear, cell?_clear]
  rcases cells_of_size size o with ⟨x, y, hx, hy⟩ | ⟨hx, hy⟩
  · rw [hx, hy]
    rfl
  · rw [hx, hy]

/-- Clearing is not seen in the colours. -/
theorem Alike.clear_left (h : Alike Cell.colour a b) : Alike Cell.colour a.clear b := by
  obtain ⟨width, height, cells⟩ := alike_iff.mp h
  refine alike_iff.mpr ⟨width, height, fun o => ?_⟩
  rw [cell?_clear, Option.map_map]
  exact cells o

theorem Alike.clear (h : Alike Cell.colour a b) : Alike Cell.colour a.clear b.clear :=
  h.clear_left.symm.clear_left.symm

/-! Texts. -/

/-- Characters of two texts that are put side by side, and leave the same to be seen through a view. -/
structure InStep (view : Cell → α) (u v : Value) (c d : Char) : Prop where
  lineFeed : c = lineFeed ↔ d = lineFeed
  stamps : Stamp.Alike view ⟨some c, Colour.ofValue? u⟩ ⟨some d, Colour.ofValue? v⟩

theorem inStep_char (u v : Value) (text : List Char) : List.Forall₂ (InStep Cell.char u v) text text :=
  List.forall₂_same.mpr fun _ _ => ⟨Iff.rfl, Stamp.alike_char rfl⟩

theorem inStep_full (view : Cell → α) (k : Colour) (text : List Char) :
    List.Forall₂ (InStep view k.toValue k.toValue) text text := by
  refine List.forall₂_same.mpr fun c _ => ⟨Iff.rfl, ?_⟩
  rw [Colour.ofValue?_toValue]
  exact Stamp.alike_full view c k

theorem Alike.placeFrom (h : Alike view a b) {u v : Value} {s t : List Char}
    (texts : List.Forall₂ (InStep view u v) s t) (o start : Int) :
    Alike view (placeFrom u s o start a) (placeFrom v t o start b) := by
  induction texts generalizing a b o start with
  | nil => exact h
  | @cons c d s t step texts ih =>
    by_cases feed : c = C64Screen.lineFeed
    · obtain rfl := feed
      obtain rfl := step.lineFeed.mp rfl
      rw [placeFrom_lineFeed, placeFrom_lineFeed, h.width]
      exact ih h _ _
    · rw [placeFrom_cons feed, placeFrom_cons (mt step.lineFeed.mpr feed)]
      exact ih (h.place step.stamps o) _ _

theorem Alike.placeText (h : Alike view a b) {u v : Value} {s t : List Char}
    (texts : List.Forall₂ (InStep view u v) s t) (o : Int) :
    Alike view (a.placeText s o u) (b.placeText t o v) := h.placeFrom texts o o

end Buffer

end C64Screen
