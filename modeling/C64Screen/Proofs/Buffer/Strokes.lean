import C64Screen.Proofs.Buffer.Overriding
import C64Screen.Proofs.Buffer.Puts
import C64Screen.Proofs.Text.Numerals
import C64Screen.Unchecked.Cells

/-!
# Strokes

A stroke is one paint for all the cells it addresses: a single one, given by its offset or by column and
row, those of a region, or all there are. Which stroke a cell shows in the end is settled cell by cell: the
last one that addresses it and carries something to show, for characters and for colours apart. What is
read at an offset without a cell is an error, though not the same one for every offset: an offset with too
many digits cannot be named in a message.
-/

namespace C64Screen

inductive Reach where
  | offset (o : Int)
  | cell (x y : Int)
  | region (r : Region)
  | everywhere

def Reach.Addresses (width : Nat) (o : Int) : Reach → Prop
  | .offset p => o = p
  | .cell x y => o = x + y * width
  | .region r => r.Covers width o
  | .everywhere => True

instance (width : Nat) (o : Int) : (reach : Reach) → Decidable (reach.Addresses width o)
  | .offset p => inferInstanceAs (Decidable (o = p))
  | .cell x y => inferInstanceAs (Decidable (o = x + y * width))
  | .region r => decidable_of_iff (o ∈ r.offsets width) Region.mem_offsets
  | .everywhere => inferInstanceAs (Decidable True)

structure Stroke where
  paint : Paint
  reach : Reach

namespace Stroke

def write : Stroke → Write
  | ⟨.char s, .offset o⟩ => .putChar s o
  | ⟨.char s, .cell x y⟩ => .putCharXY s x y
  | ⟨.char s, .region r⟩ => .fillCharRegion s r
  | ⟨.char s, .everywhere⟩ => .fillChar s
  | ⟨.colour v, .offset o⟩ => .putColour v o
  | ⟨.colour v, .cell x y⟩ => .putColourXY v x y
  | ⟨.colour v, .region r⟩ => .fillColourRegion v r
  | ⟨.colour v, .everywhere⟩ => .fillColour v

/-- The character that a stroke has for an offset: it takes a text of one character. -/
def char? (width : Nat) (o : Int) (s : Stroke) : Option Char :=
  if s.reach.Addresses width o then s.paint.stamp.char else none

def colour? (width : Nat) (o : Int) (s : Stroke) : Option Colour :=
  if s.reach.Addresses width o then s.paint.stamp.colour else none

def lastChar? (width : Nat) (o : Int) (strokes : List Stroke) : Option Char :=
  (strokes.filterMap (char? width o)).getLast?

def lastColour? (width : Nat) (o : Int) (strokes : List Stroke) : Option Colour :=
  (strokes.filterMap (colour? width o)).getLast?

/-- Everything that strokes have for the cells of a grid. -/
def overlay (width : Nat) (strokes : List Stroke) : Overlay :=
  fun o => ⟨lastChar? width o strokes, lastColour? width o strokes⟩

theorem getLast?_filterMap_cons {α β : Type} (f : α → Option β) (a : α) (rest : List α) :
    ((a :: rest).filterMap f).getLast? = (rest.filterMap f).getLast?.or (f a) := by
  cases h : f a with
  | none => rw [List.filterMap_cons_none h, Option.or_none]
  | some b =>
    rw [List.filterMap_cons_some h, List.getLast?_cons]
    cases (rest.filterMap f).getLast? <;> rfl

open Buffer

theorem run_eq_lay (b : Buffer) (s : Stroke) :
    (s.write.run b).1 =
      b.lay (.wherever (fun o => s.reach.Addresses b.width o) s.paint.stamp) := by
  obtain ⟨paint, reach⟩ := s
  cases reach with
  | offset o =>
    have single : (write ⟨paint, .offset o⟩).run b = (Put.run b ⟨paint, o⟩, []) := by
      cases paint <;> rfl
    rw [single, Put.run_eq_lay]
    rfl
  | cell x y =>
    have single : (write ⟨paint, .cell x y⟩).run b = (Put.run b ⟨paint, x + y * b.width⟩, []) := by
      cases paint <;> rfl
    rw [single, Put.run_eq_lay]
    rfl
  | region r =>
    have filled : (write ⟨paint, .region r⟩).run b =
        (paint.fillWhere b (fun i => r.covers b.width i), []) := by
      cases paint <;> rfl
    rw [filled, Paint.fillWhere_eq_lay]
    apply lay_congr
    intro o inside
    have covered : r.covers b.width o.toNat = true ↔ (Reach.region r).Addresses b.width o := by
      rw [Int.toNat_of_nonneg inside.1, Region.covers_iff b.width_pos]
      rfl
    simp only [Overlay.wherever, covered, decide_eq_true_eq]
  | everywhere =>
    have filled : (write ⟨paint, .everywhere⟩).run b = (paint.fillWhere b (fun _ => true), []) := by
      cases paint <;> rfl
    rw [filled, Paint.fillWhere_eq_lay]
    rfl

theorem lastChar?_cons (width : Nat) (o : Int) (s : Stroke) (rest : List Stroke) :
    lastChar? width o (s :: rest) = (lastChar? width o rest).or (char? width o s) :=
  getLast?_filterMap_cons ..

theorem lastColour?_cons (width : Nat) (o : Int) (s : Stroke) (rest : List Stroke) :
    lastColour? width o (s :: rest) = (lastColour? width o rest).or (colour? width o s) :=
  getLast?_filterMap_cons ..

theorem overlay_cons (width : Nat) (s : Stroke) (rest : List Stroke) :
    overlay width (s :: rest) =
      (overlay width rest).atop
        (.wherever (fun o => s.reach.Addresses width o) s.paint.stamp) := by
  funext o
  simp only [overlay, lastChar?_cons, lastColour?_cons, char?, colour?, Overlay.atop,
    Overlay.wherever, Stamp.atop, decide_eq_true_eq]
  split <;> rfl

/-- Strokes in a row lay on each cell the last that there is for it. -/
theorem runAll_eq_lay (b : Buffer) (strokes : List Stroke) :
    (Write.runAll b (strokes.map write)).1 = b.lay (overlay b.width strokes) := by
  induction strokes generalizing b with
  | nil => exact b.lay_blank.symm
  | cons s rest ih =>
    calc
      (Write.runAll b ((s :: rest).map write)).1
        = (Write.runAll (s.write.run b).1 (rest.map write)).1 := rfl
      _ = (b.lay (.wherever (fun o => s.reach.Addresses b.width o) s.paint.stamp)).lay
            (overlay b.width rest) := by rw [ih, run_eq_lay, width_lay]
      _ = b.lay (overlay b.width (s :: rest)) := by rw [lay_lay, overlay_cons]

end Stroke

namespace Unchecked

open Buffer

theorem holds?_int (b : Buffer) (o : Int) : holds? b (.int o) = some (decide (b.Holds o)) := by
  rw [show decide (b.Holds o) = decide (0 ≤ o ∧ o < b.size) from rfl, Bool.decide_and]
  rfl

theorem cellAt_of_cell? {b : Buffer} {o : Int} {cell : Cell} (found : b.cell? o = some cell) :
    cellAt b (.int o) = .ok cell := by
  have inside : b.Holds o := cell?_isSome_iff.mp (by rw [found]; rfl)
  have address : (address? (.int o)).bind b.cell? = some cell := found
  rw [cellAt, holds?_int, decide_eq_true inside, address]

theorem cellAt_of_outside {b : Buffer} {o : Int} (outside : ¬ b.Holds o) :
    cellAt b (.int o) =
      .error (if Numeral.isShort o then .screen (.outside (.int o) b.size) else .longOffset) := by
  rw [cellAt, holds?_int, decide_eq_false outside]
  cases short : Numeral.isShort o <;> simp [isLong, short]

theorem cellAtXY_int (b : Buffer) (x y : Int) :
    cellAtXY b (.int x) (.int y) = cellAt b (.int (x + y * b.width)) := rfl

end Unchecked

namespace Buffer

theorem cell?_new {width height : Size} {o : Int} (nonneg : 0 ≤ o)
    (bound : o < width.val * height.val) : (new width height).cell? o = some Cell.blank := by
  rw [← Int.natCast_mul] at bound
  exact (cell?_filled Cell.blank width height o).trans (if_pos ⟨nonneg, bound⟩)

theorem charAt_of_cell? {b : Buffer} {o : Int} {cell : Cell} (found : b.cell? o = some cell) :
    b.charAt o = .ok cell.char := by rw [charAt, found]

theorem colourAt_of_cell? {b : Buffer} {o : Int} {cell : Cell} (found : b.cell? o = some cell) :
    b.colourAt o = .ok cell.colour := by rw [colourAt, found]

theorem reads_of_outside {b : Buffer} {o : Int} (outside : ¬ b.Holds o) :
    b.charAt o = .error (.outside (.int o) b.size) ∧
      b.colourAt o = .error (.outside (.int o) b.size) := by
  rw [charAt, colourAt, cell?_eq_none_iff.mpr outside]
  exact ⟨rfl, rfl⟩

end Buffer

namespace Stroke

open Buffer Unchecked

theorem colourAt_char (b : Buffer) (s : String) (reach : Reach) (o : Int) :
    ((write ⟨.char s, reach⟩).run b).1.colourAt o = b.colourAt o := by
  rw [run_eq_lay, colourAt_lay]
  have leaves : (Overlay.wherever (fun o => reach.Addresses b.width o) (Paint.char s).stamp o).colour =
      none := by
    rw [Overlay.wherever]
    split <;> rfl
  rw [leaves]
  cases b.colourAt o <;> rfl

theorem charAt_colour (b : Buffer) (v : Value) (reach : Reach) (o : Int) :
    ((write ⟨.colour v, reach⟩).run b).1.charAt o = b.charAt o := by
  rw [run_eq_lay, charAt_lay]
  have leaves : (Overlay.wherever (fun o => reach.Addresses b.width o) (Paint.colour v).stamp o).char =
      none := by
    rw [Overlay.wherever]
    split <;> rfl
  rw [leaves]
  cases b.charAt o <;> rfl

/-- On a new buffer a cell shows the character and the colour of the last strokes that have one for it, and
reading fails outside the grid and nowhere else. -/
theorem runAll_last_stroke (width height : Size) (strokes : List Stroke) :
    let b := (Write.runAll (Buffer.new width height) (strokes.map write)).1
    (∀ o : Int, 0 ≤ o ∧ o < width.val * height.val →
      let char := (lastChar? width.val o strokes).getD ' '
      let colour := lastColour? width.val o strokes
      b.charAt o = .ok char ∧ b.colourAt o = .ok colour ∧ cellAt b (.int o) = .ok ⟨char, colour⟩) ∧
    (∀ o : Int, ¬ (0 ≤ o ∧ o < width.val * height.val) →
      if Numeral.isShort o then
        b.charAt o = .error (.outside (.int o) (width.val * height.val)) ∧
          b.colourAt o = .error (.outside (.int o) (width.val * height.val)) ∧
          cellAt b (.int o) = .error (.screen (.outside (.int o) (width.val * height.val)))
      else cellAt b (.int o) = .error .longOffset) ∧
    (∀ x y : Int, cellAtXY b (.int x) (.int y) = cellAt b (.int (x + y * width.val))) ∧
    ∀ (a : Buffer) (reach : Reach) (o : Int),
      (∀ s, ((write ⟨.char s, reach⟩).run a).1.colourAt o = a.colourAt o) ∧
        ∀ v, ((write ⟨.colour v, reach⟩).run a).1.charAt o = a.charAt o := by
  intro b
  have laid : b = (Buffer.new width height).lay (overlay width.val strokes) :=
    runAll_eq_lay (Buffer.new width height) strokes
  have holds : ∀ o, b.Holds o ↔ 0 ≤ o ∧ o < width.val * height.val := by
    intro o
    rw [laid, ← Int.natCast_mul]
    rfl
  refine ⟨?_, ?_, ?_, ?_⟩
  · intro o inside char colour
    have found : b.cell? o = some ⟨char, colour⟩ := by
      rw [laid, cell?_lay, cell?_new inside.1 inside.2]
      simp [Stamp.press, overlay, Cell.blank, char, colour]
    exact ⟨charAt_of_cell? found, colourAt_of_cell? found, cellAt_of_cell? found⟩
  · intro o outside
    have size : b.size = width.val * height.val := by
      rw [laid]
      rfl
    have off : ¬ b.Holds o := mt (holds o).mp outside
    have reads := reads_of_outside off
    have failed := cellAt_of_outside off
    rw [size] at reads failed
    cases short : Numeral.isShort o with
    | true =>
      rw [short] at failed
      exact ⟨reads.1, reads.2, failed⟩
    | false =>
      rw [short] at failed
      exact failed
  · intro x y
    rw [cellAtXY_int, laid]
    rfl
  · intro a reach o
    exact ⟨fun s => colourAt_char a s reach o, fun v => charAt_colour a v reach o⟩

end Stroke

namespace Unchecked

/-- The offset lies outside the grid, but it has a digit too many for the message that would say so. -/
theorem cellAtXY_longOffset :
    let b := Buffer.new ⟨10, by decide⟩ ⟨1, by decide⟩
    let row : Int := 10 ^ (Numeral.mostDigits - 1)
    let o := b.offset 0 row
    ¬ b.Holds o ∧ cellAtXY b (.int 0) (.int row) = .error .longOffset ∧
      cellAtXY b (.int 0) (.int row) ≠ .error (.screen (.outside (.int o) b.size)) := by
  intro b row o
  have named : o = 10 ^ Numeral.mostDigits := by
    change 0 + (10 : Int) ^ (Numeral.mostDigits - 1) * 10 = 10 ^ Numeral.mostDigits
    rw [Int.zero_add, ← Int.pow_succ]
    rfl
  have outside : ¬ b.Holds o := by
    have pos : 0 < row := Int.pow_pos (by decide)
    have size : b.size = 10 := rfl
    have at_o : o = 0 + row * 10 := rfl
    rw [Buffer.Holds, size]
    omega
  have failed : cellAtXY b (.int 0) (.int row) = .error .longOffset := by
    rw [cellAtXY_int]
    change cellAt b (.int o) = _
    rw [cellAt_of_outside outside, named, Numeral.not_isShort_pow]
    rfl
  refine ⟨outside, failed, ?_⟩
  rw [failed]
  rintro ⟨⟩

end Unchecked

end C64Screen
