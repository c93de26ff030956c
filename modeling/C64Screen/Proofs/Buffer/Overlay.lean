import C64Screen.Buffer.Placement
import C64Screen.Buffer.Region

/-!
# Overlays

What a write leaves on a buffer, apart from the buffer. A stamp says which character and which colour a
cell gets, if it gets one, and an overlay has a stamp for every offset, also for those outside the grid.
Of two overlays laid one over the other the later wins, so they make up one overlay, and an overlay that
is laid twice does what it does once.

A function on buffers lays an overlay if that overlay is the same for all buffers of a width. Functions
that do are closed under composition, which carries the property from single cells to whole texts.
-/

namespace C64Screen

structure Stamp where
  char : Option Char
  colour : Option Colour

namespace Stamp

/-- Leaves a cell as it is. -/
def blank : Stamp := ⟨none, none⟩

def ofChar (c : Char) : Stamp := ⟨some c, none⟩

def ofColour (c : Colour) : Stamp := ⟨none, some c⟩

def press (s : Stamp) (cell : Cell) : Cell := ⟨s.char.getD cell.char, s.colour.or cell.colour⟩

def atop (later earlier : Stamp) : Stamp :=
  ⟨later.char.or earlier.char, later.colour.or earlier.colour⟩

@[simp] theorem press_blank : blank.press = id := by
  funext cell
  simp [press, blank]

@[simp] theorem press_ofChar (c : Char) : (ofChar c).press = Cell.withChar c := rfl

@[simp] theorem press_ofColour (c : Colour) : (ofColour c).press = Cell.withColour c := rfl

theorem press_atop (later earlier : Stamp) :
    (later.atop earlier).press = later.press ∘ earlier.press := by
  funext cell
  obtain ⟨char, colour⟩ := later
  cases char <;> cases colour <;> rfl

@[simp] theorem atop_self (s : Stamp) : s.atop s = s := by
  obtain ⟨char, colour⟩ := s
  cases char <;> cases colour <;> rfl

end Stamp

def Overlay := Int → Stamp

namespace Overlay

def blank : Overlay := fun _ => .blank

/-- The same stamp wherever a test holds. -/
def wherever (test : Int → Bool) (s : Stamp) : Overlay := fun o => if test o then s else .blank

def atop (later earlier : Overlay) : Overlay := fun o => (later o).atop (earlier o)

@[simp] theorem atop_self (p : Overlay) : p.atop p = p := by
  funext o
  exact Stamp.atop_self (p o)

end Overlay

namespace Buffer

def lay (b : Buffer) (p : Overlay) : Buffer :=
  { b with
    cells := b.cells.mapIdx (fun i cell => (p i).press cell)
    size_cells := by simp [b.size_cells] }

@[simp] theorem width_lay (b : Buffer) (p : Overlay) : (b.lay p).width = b.width := rfl

@[simp] theorem height_lay (b : Buffer) (p : Overlay) : (b.lay p).height = b.height := rfl

theorem cell?_lay (b : Buffer) (p : Overlay) (o : Int) :
    (b.lay p).cell? o = (b.cell? o).map (p o).press := by
  unfold lay cell?
  split
  · next nonneg => simp [Int.toNat_of_nonneg nonneg]
  · rfl

theorem cell?_lay_wherever (b : Buffer) (test : Int → Bool) (s : Stamp) (o : Int) :
    (b.lay (.wherever test s)).cell? o = if test o then (b.cell? o).map s.press else b.cell? o := by
  rw [cell?_lay, Overlay.wherever]
  cases test o <;> simp

@[simp] theorem lay_blank (b : Buffer) : b.lay .blank = b := by
  refine ext_cell? rfl rfl fun o => ?_
  simp [cell?_lay, Overlay.blank]

theorem lay_lay (b : Buffer) (p q : Overlay) : (b.lay p).lay q = b.lay (q.atop p) := by
  refine ext_cell? rfl rfl fun o => ?_
  simp only [cell?_lay, Option.map_map, Overlay.atop, Stamp.press_atop]

theorem lay_twice (b : Buffer) (p : Overlay) : (b.lay p).lay p = b.lay p := by
  rw [lay_lay, Overlay.atop_self]

/-! What is written to single cells and to many is laid. -/

theorem modify_eq_lay (b : Buffer) (o : Int) (s : Stamp) :
    b.modify o s.press = b.lay (.wherever (· = o) s) := by
  refine ext_cell? (width_modify ..) (height_modify ..) fun p => ?_
  rw [cell?_modify, cell?_lay_wherever]
  simp only [decide_eq_true_eq]

theorem modifyWhere_eq_lay (b : Buffer) (test : Nat → Bool) (s : Stamp) :
    b.modifyWhere test s.press = b.lay (.wherever (test ·.toNat) s) := by
  refine ext_cell? rfl rfl fun p => ?_
  rw [cell?_modifyWhere, cell?_lay_wherever]

/-- Whatever buffer of a width it is given, a function lays one and the same overlay on it. -/
def Lays (width : Nat) (f : Buffer → Buffer) : Prop :=
  ∃ p : Overlay, ∀ b : Buffer, b.width = width → f b = b.lay p

namespace Lays

variable {width : Nat} {f g : Buffer → Buffer}

theorem nothing (width : Nat) : Lays width (fun b => b) := ⟨.blank, fun b _ => b.lay_blank.symm⟩

theorem congr (h : ∀ b : Buffer, b.width = width → f b = g b) (hg : Lays width g) : Lays width f := by
  obtain ⟨p, hp⟩ := hg
  exact ⟨p, fun b hb => (h b hb).trans (hp b hb)⟩

theorem comp (hg : Lays width g) (hf : Lays width f) : Lays width (fun b => g (f b)) := by
  obtain ⟨p, hp⟩ := hf
  obtain ⟨q, hq⟩ := hg
  refine ⟨q.atop p, fun b hb => ?_⟩
  calc
    g (f b) = g (b.lay p) := by rw [hp b hb]
    _ = (b.lay p).lay q := hq (b.lay p) hb
    _ = b.lay (q.atop p) := b.lay_lay p q

theorem setChar (width : Nat) (c : Char) (o : Int) : Lays width (·.setChar c o) :=
  ⟨_, fun b _ => b.modify_eq_lay o (.ofChar c)⟩

theorem setColour (width : Nat) (c : Colour) (o : Int) : Lays width (·.setColour c o) :=
  ⟨_, fun b _ => b.modify_eq_lay o (.ofColour c)⟩

theorem putChar (width : Nat) (char : String) (o : Int) : Lays width (·.putChar char o) := by
  unfold Buffer.putChar
  cases Text.single? char with
  | none => exact nothing width
  | some c => exact setChar width c o

theorem putColour (width : Nat) (colour : Value) (o : Int) : Lays width (·.putColour colour o) := by
  unfold Buffer.putColour
  cases Colour.ofValue? colour with
  | none => exact nothing width
  | some c => exact setColour width c o

theorem fillCharWhere (width : Nat) (test : Nat → Bool) (char : String) :
    Lays width (·.fillCharWhere test char) := by
  unfold Buffer.fillCharWhere
  cases Text.single? char with
  | none => exact nothing width
  | some c => exact ⟨_, fun b _ => b.modifyWhere_eq_lay test (.ofChar c)⟩

theorem fillColourWhere (width : Nat) (test : Nat → Bool) (colour : Value) :
    Lays width (·.fillColourWhere test colour) := by
  unfold Buffer.fillColourWhere
  cases Colour.ofValue? colour with
  | none => exact nothing width
  | some c => exact ⟨_, fun b _ => b.modifyWhere_eq_lay test (.ofColour c)⟩

theorem clear (width : Nat) : Lays width Buffer.clear :=
  ⟨_, fun b _ => b.modifyWhere_eq_lay _ (.ofChar ' ')⟩

/-- Which cells a region covers hangs on the width and on nothing else of the buffer. -/
theorem fillCharRegion (width : Nat) (char : String) (r : Region) :
    Lays width (·.fillCharRegion char r) := by
  apply congr _ (fillCharWhere width (fun i => r.covers width i) char)
  intro b hb
  rw [Buffer.fillCharRegion, hb]

theorem fillColourRegion (width : Nat) (colour : Value) (r : Region) :
    Lays width (·.fillColourRegion colour r) := by
  apply congr _ (fillColourWhere width (fun i => r.covers width i) colour)
  intro b hb
  rw [Buffer.fillColourRegion, hb]

theorem place (width : Nat) (c : Char) (o : Int) (colour : Value) :
    Lays width (·.place c o colour) :=
  comp (putColour width colour o) (setChar width c o)

theorem placeChar (width : Nat) (char : String) (o : Int) (colour : Value) :
    Lays width (·.placeChar char o colour) :=
  comp (putColour width colour o) (putChar width char o)

theorem placeFrom (width : Nat) (colour : Value) (text : List Char) (o start : Int) :
    Lays width (Buffer.placeFrom colour text o start) := by
  induction text generalizing o start with
  | nil => exact nothing width
  | cons c rest ih =>
    by_cases hc : c = lineFeed
    · subst hc
      apply congr _ (ih (start + width) (start + width))
      intro b hb
      rw [placeFrom_lineFeed, hb]
    · apply congr _ (comp (ih (o + 1) start) (place width c o colour))
      intro b _
      exact placeFrom_cons hc ..

theorem placeText (width : Nat) (text : List Char) (o : Int) (colour : Value) :
    Lays width (·.placeText text o colour) :=
  placeFrom width colour text o o

end Lays

end Buffer

end C64Screen
