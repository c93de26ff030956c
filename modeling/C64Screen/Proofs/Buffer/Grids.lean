import C64Screen.Proofs.Buffer.Overriding
import C64Screen.Proofs.Buffer.Puts
import C64Screen.Proofs.Value.Kinds
import C64Screen.Screen.Payload

/-!
# Two plain grids

A buffer once more as two lists, one of texts and one of values. The lists by themselves keep nothing out:
an item could be a text of two characters or a truth value, and a negative index names an item counted
from the end. All that guards them is the test in front of each put. That it suffices is shown by following
the cells of a buffer: every write finds an item at each index that it uses, and the lists stay those of a
buffer, with one character for each cell and a colour or nothing.
-/

namespace C64Screen

structure Grids where
  width : Nat
  height : Nat
  chars : List String
  colours : List Value

namespace Grids

def new (width height : Nat) : Grids :=
  ⟨width, height, List.replicate (width * height) " ", List.replicate (width * height) .null⟩

/-- Replaces an item. A negative index counts from the end. -/
def store? {α : Type} (items : List α) (index : Int) (x : α) : Option (List α) :=
  let i := if index < 0 then index + items.length else index
  if 0 ≤ i ∧ i < items.length then some (items.set i.toNat x) else none

def Holds (g : Grids) (o : Int) : Prop := 0 ≤ o ∧ o < (g.width * g.height : Nat)

instance (g : Grids) (o : Int) : Decidable (g.Holds o) :=
  inferInstanceAs (Decidable (0 ≤ o ∧ o < (g.width * g.height : Nat)))

def put? (g : Grids) (p : Put) : Option Grids :=
  match p.paint with
  | .char s =>
    if g.Holds p.offset ∧ s.length = 1 then
      (store? g.chars p.offset s).map fun chars => { g with chars }
    else some g
  | .colour v =>
    if g.Holds p.offset ∧ v.IsColour then
      (store? g.colours p.offset v).map fun colours => { g with colours }
    else some g

def putAll? (g : Grids) (puts : List Put) : Option Grids := puts.foldlM put? g

def write? (g : Grids) (w : Write) : Option Grids := g.putAll? (w.puts g.width g.height)

def writeAll? (g : Grids) (writes : List Write) : Option Grids := writes.foldlM write? g

/-- What both grids are to keep to. -/
structure Sound (g : Grids) (columns lines : Nat) : Prop where
  width : g.width = columns
  height : g.height = lines
  length_chars : g.chars.length = columns * lines
  length_colours : g.colours.length = columns * lines
  single : ∀ s ∈ g.chars, s.length = 1
  colour : ∀ v ∈ g.colours, v = .null ∨ v.IsColour

theorem store?_of_lt {α : Type} {items : List α} {index : Int} (nonneg : 0 ≤ index)
    (bound : index < items.length) (x : α) :
    store? items index x = some (items.set index.toNat x) := by
  have forward : ¬ index < 0 := by omega
  simp only [store?, if_neg forward]
  exact if_pos ⟨nonneg, bound⟩

end Grids

namespace Payload

theorem isColour_colourValue {c : Option Colour} (coloured : c ≠ none) :
    (colourValue c).IsColour := by
  cases c with
  | none => exact absurd rfl coloured
  | some c => exact c.isColour_toValue

theorem colourValue_sound (c : Option Colour) : colourValue c = .null ∨ (colourValue c).IsColour := by
  cases c with
  | none => exact .inl rfl
  | some c => exact .inr c.isColour_toValue

theorem colourValue_ne_null {c : Option Colour} : colourValue c ≠ .null ↔ c ≠ none := by
  cases c with
  | none => exact ⟨fun h => absurd rfl h, fun h => absurd rfl h⟩
  | some c => exact ⟨fun _ => nofun, fun _ => nofun⟩

end Payload

namespace Buffer

def grids (b : Buffer) : Grids where
  width := b.width
  height := b.height
  chars := b.cells.toList.map fun cell => String.singleton cell.char
  colours := b.cells.toList.map fun cell => Payload.colourValue cell.colour

theorem length_chars (b : Buffer) : b.grids.chars.length = b.size := by
  rw [grids, List.length_map, Array.length_toList]
  exact b.size_cells

theorem length_colours (b : Buffer) : b.grids.colours.length = b.size := by
  rw [grids, List.length_map, Array.length_toList]
  exact b.size_cells

theorem getElem?_chars (b : Buffer) (i : Nat) :
    b.grids.chars[i]? = (b.cell? i).map fun cell => String.singleton cell.char := by
  simp [grids, cell?]

theorem getElem?_colours (b : Buffer) (i : Nat) :
    b.grids.colours[i]? = (b.cell? i).map fun cell => Payload.colourValue cell.colour := by
  simp [grids, cell?]

theorem grids_sound (b : Buffer) : b.grids.Sound b.width b.height where
  width := rfl
  height := rfl
  length_chars := b.length_chars
  length_colours := b.length_colours
  single := by
    intro s listed
    obtain ⟨cell, -, rfl⟩ := List.mem_map.mp listed
    exact String.length_singleton
  colour := by
    intro v listed
    obtain ⟨cell, -, rfl⟩ := List.mem_map.mp listed
    exact Payload.colourValue_sound cell.colour

theorem grids_new (width height : Size) :
    (Buffer.new width height).grids = .new width.val height.val := by
  have blank : (Buffer.new width height).cells.toList =
      List.replicate (width.val * height.val) Cell.blank := Array.toList_replicate
  rw [grids, blank, List.map_replicate, List.map_replicate]
  rfl

end Buffer

open Buffer

theorem Text.exists_single?_iff {s : String} : (∃ c, single? s = some c) ↔ s.length = 1 := by
  rw [← String.length_toList, List.length_eq_one_iff]
  exact exists_congr fun c => single?_eq_some_iff

namespace Put

theorem cell?_run (b : Buffer) (p : Put) (o : Int) :
    (p.run b).cell? o =
      if o = p.offset then (b.cell? o).map p.paint.stamp.press else b.cell? o := by
  rw [run_eq_lay, cell?_lay_wherever]
  simp only [decide_eq_true_eq]

theorem run_of_outside {b : Buffer} {p : Put} (outside : ¬ b.Holds p.offset) : p.run b = b := by
  refine ext_cell? (width_run b p) (height_run b p) fun o => ?_
  rw [cell?_run]
  split
  · next here =>
    rw [here, cell?_eq_none_iff.mpr outside]
    rfl
  · rfl

end Put

namespace Grids

theorem ext_getElem? {g h : Grids} (width : g.width = h.width) (height : g.height = h.height)
    (chars : ∀ i : Nat, g.chars[i]? = h.chars[i]?)
    (colours : ∀ i : Nat, g.colours[i]? = h.colours[i]?) : g = h := by
  obtain ⟨w, l, cs, vs⟩ := g
  obtain ⟨w', l', cs', vs'⟩ := h
  obtain rfl : w = w' := width
  obtain rfl : l = l' := height
  obtain rfl : cs = cs' := List.ext_getElem? chars
  obtain rfl : vs = vs' := List.ext_getElem? colours
  rfl

end Grids

namespace Buffer

theorem grids_setChar {b : Buffer} {o : Int} (nonneg : 0 ≤ o) (c : Char) :
    (b.setChar c o).grids =
      { b.grids with chars := b.grids.chars.set o.toNat (String.singleton c) } := by
  refine Grids.ext_getElem? (width_setChar ..) (height_setChar ..) (fun i => ?_) fun i => ?_
  · have same : (i : Int) = o ↔ o.toNat = i := by omega
    rw [getElem?_chars, cell?_setChar, List.getElem?_set', getElem?_chars, if_congr same rfl rfl]
    split
    · rw [Option.map_map, Option.map_eq_map, Option.map_map]
      rfl
    · rfl
  · rw [getElem?_colours, cell?_setChar, getElem?_colours]
    split
    · rw [Option.map_map]
      rfl
    · rfl

theorem grids_setColour {b : Buffer} {o : Int} (nonneg : 0 ≤ o) (c : Colour) :
    (b.setColour c o).grids =
      { b.grids with colours := b.grids.colours.set o.toNat c.toValue } := by
  refine Grids.ext_getElem? (width_setColour ..) (height_setColour ..) (fun i => ?_) fun i => ?_
  · rw [getElem?_chars, cell?_setColour, getElem?_chars]
    split
    · rw [Option.map_map]
      rfl
    · rfl
  · have same : (i : Int) = o ↔ o.toNat = i := by omega
    rw [getElem?_colours, cell?_setColour, List.getElem?_set', getElem?_colours,
      if_congr same rfl rfl]
    split
    · rw [Option.map_map, Option.map_eq_map, Option.map_map]
      rfl
    · rfl

theorem grids_put?_char (b : Buffer) (s : String) (o : Int) :
    b.grids.put? ⟨.char s, o⟩ = some ((⟨.char s, o⟩ : Put).run b).grids := by
  by_cases stored : b.grids.Holds o ∧ s.length = 1
  · obtain ⟨c, hc⟩ := Text.exists_single?_iff.mpr stored.2
    have word : String.singleton c = s := by
      rw [← String.toList_inj, Text.single?_eq_some_iff.mp hc, String.toList_singleton]
    have bound : o < b.grids.chars.length := by
      rw [length_chars]
      exact stored.1.2
    calc
      b.grids.put? ⟨.char s, o⟩
        = (Grids.store? b.grids.chars o s).map fun chars => { b.grids with chars } := if_pos stored
      _ = some { b.grids with chars := b.grids.chars.set o.toNat s } := by
        rw [Grids.store?_of_lt stored.1.1 bound]
        rfl
      _ = some (b.setChar c o).grids := by rw [grids_setChar stored.1.1, word]
      _ = some (b.putChar s o).grids := by rw [putChar_of_single? hc]
  · have dropped : (⟨.char s, o⟩ : Put).run b = b := by
      by_cases inside : b.Holds o
      · have several : Text.single? s = none :=
          Option.eq_none_iff_forall_ne_some.mpr fun c hc =>
            stored ⟨inside, Text.exists_single?_iff.mp ⟨c, hc⟩⟩
        exact putChar_of_none several b o
      · exact Put.run_of_outside inside
    rw [dropped]
    exact if_neg stored

theorem grids_put?_colour (b : Buffer) (v : Value) (o : Int) :
    b.grids.put? ⟨.colour v, o⟩ = some ((⟨.colour v, o⟩ : Put).run b).grids := by
  by_cases stored : b.grids.Holds o ∧ v.IsColour
  · obtain ⟨c, rfl⟩ := Colour.isColour_iff.mp stored.2
    have bound : o < b.grids.colours.length := by
      rw [length_colours]
      exact stored.1.2
    calc
      b.grids.put? ⟨.colour c.toValue, o⟩
        = (Grids.store? b.grids.colours o c.toValue).map fun colours => { b.grids with colours } :=
          if_pos stored
      _ = some { b.grids with colours := b.grids.colours.set o.toNat c.toValue } := by
        rw [Grids.store?_of_lt stored.1.1 bound]
        rfl
      _ = some (b.setColour c o).grids := by rw [grids_setColour stored.1.1]
      _ = some (b.putColour c.toValue o).grids := by rw [putColour_toValue]
  · have dropped : (⟨.colour v, o⟩ : Put).run b = b := by
      by_cases inside : b.Holds o
      · have other : ¬ v.IsColour := fun colour => stored ⟨inside, colour⟩
        exact putColour_of_none (Colour.ofValue?_of_not_isColour other) b o
      · exact Put.run_of_outside inside
    rw [dropped]
    exact if_neg stored

/-- A put on the plain grids is the put on the buffer. -/
theorem grids_put? (b : Buffer) (p : Put) : b.grids.put? p = some (p.run b).grids := by
  obtain ⟨paint, o⟩ := p
  cases paint with
  | char s => exact b.grids_put?_char s o
  | colour v => exact b.grids_put?_colour v o

theorem grids_putAll? (b : Buffer) (puts : List Put) :
    b.grids.putAll? puts = some (Put.runAll b puts).grids := by
  induction puts generalizing b with
  | nil => rfl
  | cons p puts ih =>
    rw [Grids.putAll?, List.foldlM_cons, grids_put?]
    exact ih (p.run b)

theorem grids_write? (b : Buffer) (w : Write) : b.grids.write? w = some (w.run b).1.grids := by
  rw [Grids.write?, grids_putAll?, Write.run_eq_runAll_puts]
  rfl

theorem grids_writeAll? (b : Buffer) (writes : List Write) :
    b.grids.writeAll? writes = some (Write.runAll b writes).1.grids := by
  induction writes generalizing b with
  | nil => rfl
  | cons w writes ih =>
    rw [Grids.writeAll?, List.foldlM_cons, grids_write?]
    exact ih (w.run b).1

/-- A cell that was coloured is coloured under any overlay. -/
theorem colours_lay {b : Buffer} {i : Nat} {v : Value} (listed : b.grids.colours[i]? = some v)
    (coloured : v ≠ .null) (p : Overlay) :
    ∃ w, (b.lay p).grids.colours[i]? = some w ∧ w ≠ .null := by
  rw [getElem?_colours] at listed
  obtain ⟨cell, found, rfl⟩ := Option.map_eq_some_iff.mp listed
  refine ⟨Payload.colourValue ((p i).press cell).colour, ?_, ?_⟩
  · rw [getElem?_colours, cell?_lay, found]
    rfl
  · rw [Payload.colourValue_ne_null] at coloured ⊢
    exact (p i).colour_press_ne_none coloured

theorem ofSizes_eq_ok_iff {width height : Value} {b : Buffer} :
    ofSizes width height = .ok b ↔
      ∃ w h : Size, width = w.toValue ∧ height = h.toValue ∧ b = new w h := by
  constructor
  · intro made
    cases found : Quantity.firstRefused? [(.width, width), (.height, height)] with
    | none =>
      obtain ⟨w, h, rfl, rfl⟩ := Quantity.sizes_of_not_refused found
      rw [ofSizes, Quantity.require_toValue, Quantity.require_toValue] at made
      cases made
      exact ⟨w, h, rfl, rfl, rfl⟩
    | some e =>
      rw [ofSizes, Quantity.require_both_refused found] at made
      cases made
  · rintro ⟨w, h, rfl, rfl, rfl⟩
    rw [ofSizes, Quantity.require_toValue, Quantity.require_toValue]
    rfl

end Buffer

namespace Write

theorem runAll_append (b : Buffer) (earlier later : List Write) :
    (runAll b (earlier ++ later)).1 = (runAll (runAll b earlier).1 later).1 := by
  induction earlier generalizing b with
  | nil => rfl
  | cons w rest ih => exact ih (w.run b).1

theorem exists_lay (b : Buffer) (writes : List Write) : ∃ p, (runAll b writes).1 = b.lay p := by
  obtain ⟨p, events, laid⟩ := runAll_settled b.width writes
  exact ⟨p, congrArg Prod.fst (laid b rfl)⟩

/-- Writes never find an index without an item, and they leave on the plain grids what they leave on the
buffer. However they go on, the dimensions and the sizes of both grids stay, a cell holds one character and a
colour or nothing, and a colour that is there stays or gives way to another. -/
theorem runAll_sound {width height : Value} {b : Buffer} (made : Buffer.ofSizes width height = .ok b)
    (earlier later : List Write) :
    ∃ (w h : Nat) (m l : Grids), 0 < w ∧ 0 < h ∧ width = .int w ∧ height = .int h ∧
      (Grids.new w h).writeAll? earlier = some m ∧ m.writeAll? later = some l ∧
      m = (runAll b earlier).1.grids ∧ l = (runAll b (earlier ++ later)).1.grids ∧
      m.Sound w h ∧ l.Sound w h ∧
      ∀ (i : Nat) (v : Value), m.colours[i]? = some v → v ≠ .null →
        ∃ u, l.colours[i]? = some u ∧ u ≠ .null := by
  obtain ⟨w, h, rfl, rfl, rfl⟩ := ofSizes_eq_ok_iff.mp made
  let start := Buffer.new w h
  let middle := (runAll start earlier).1
  let last := (runAll middle later).1
  obtain ⟨p, first⟩ := exists_lay start earlier
  obtain ⟨q, second⟩ := exists_lay middle later
  have joined : (runAll start (earlier ++ later)).1 = last := runAll_append start earlier later
  have begun : (Grids.new w.val h.val).writeAll? earlier = some middle.grids := by
    rw [← grids_new]
    exact start.grids_writeAll? earlier
  have soundAt : ∀ p, ((start.lay p).grids).Sound w.val h.val := fun p => (start.lay p).grids_sound
  refine ⟨w.val, h.val, middle.grids, last.grids, w.pos, h.pos, rfl, rfl, begun,
    middle.grids_writeAll? later, rfl, by rw [joined], ?_, ?_, ?_⟩
  · rw [show middle = start.lay p from first]
    exact soundAt p
  · rw [show last = middle.lay q from second, show middle = start.lay p from first, lay_lay]
    exact soundAt (q.atop p)
  · intro i v listed coloured
    rw [show last = middle.lay q from second]
    exact colours_lay listed coloured q

/-- Two characters where one is asked for, a truth value for a colour, an index from the end, a region with a
column beyond the edge and markup that breaks off. -/
theorem runAll_sound_dropped :
    let b := Buffer.new ⟨3, by decide⟩ ⟨2, by decide⟩
    let earlier : List Write :=
      [.putChar "AB" 0, .putColour (.bool true) 1, .putChar "Z" (-1), .putColour (.int 5) 2]
    let later : List Write :=
      [.fillCharRegion "*" ⟨2, 0, 4, 0⟩, .interpret ['C', '{', 'X'] (some (-2)) (.int 99)]
    Buffer.ofSizes (.int 3) (.int 2) = .ok b ∧
      ∃ (w h : Nat) (m l : Grids), Value.int 3 = .int w ∧ Value.int 2 = .int h ∧
        m = (runAll b earlier).1.grids ∧ l = (runAll b (earlier ++ later)).1.grids ∧
        m.Sound w h ∧ l.Sound w h := by
  intro b earlier later
  have made : Buffer.ofSizes (.int 3) (.int 2) = .ok b := rfl
  obtain ⟨w, h, m, l, -, -, hw, hh, -, -, middle, last, sound, still, -⟩ :=
    runAll_sound made earlier later
  exact ⟨made, w, h, m, l, hw, hh, middle, last, sound, still⟩

end Write

end C64Screen
