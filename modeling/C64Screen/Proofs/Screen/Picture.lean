import C64Screen.Proofs.Buffer.Layout
import C64Screen.Screen
import Mathlib.Data.List.Chain

/-!
# The test picture

Five pieces of text, each of them a single line that goes on from row to row: a banner, and the glyphs of both banks
under a caption each. Where they begin is a matter of rows, so the wider the grid the further they are apart. With 29
columns no piece comes to the next one any more. With 28 the uppercase glyphs reach into the row of the second caption,
which covers them. The last piece is covered by nothing.
-/

namespace C64Screen

namespace Bank

theorem lineFeed_notMem_glyphs (b : Bank) : lineFeed ∉ b.glyphs := by
  have none : ∀ k, b.glyph k ≠ lineFeed := by cases b <;> decide +kernel
  intro listed
  obtain ⟨k, -, here⟩ := List.mem_map.mp listed
  exact none k here

end Bank

/-- Letters in a line, and the offset of the first. -/
structure Piece where
  start : Int
  letters : List Char

namespace Piece

def Covers (p : Piece) (o : Int) : Prop := p.start ≤ o ∧ o < p.start + p.letters.length

/-- No offset belongs to both. -/
def Disjoint (p q : Piece) : Prop := ∀ o, ¬ (p.Covers o ∧ q.Covers o)

def spots (p : Piece) : List Spot := Spot.ofLine p.start p.letters

/-- Everything that pieces have for a grid, one after another. -/
def layout (pieces : List Piece) : List Spot := pieces.flatMap spots

variable {p q : Piece} {pieces : List Piece} {o : Int}

/-- The one has ended where the other begins. -/
def Before (p q : Piece) : Prop := p.start + p.letters.length ≤ q.start

instance : Trans Before Before Before where
  trans first second := by
    unfold Before at *
    omega

theorem Before.disjoint (h : Before p q) : Disjoint p q := by
  rintro o ⟨⟨-, ended⟩, ⟨begun, -⟩⟩
  unfold Before at h
  omega

theorem pairwise_disjoint_of_isChain (chain : pieces.IsChain Before) : pieces.Pairwise Disjoint :=
  chain.pairwise.imp Before.disjoint

theorem covers_of_getElem? {j : Nat} {c : Char} (letter : p.letters[j]? = some c) : p.Covers (p.start + j) := by
  obtain ⟨bound, -⟩ := List.getElem?_eq_some_iff.mp letter
  exact ⟨by omega, by omega⟩

theorem lastChar?_spots {j : Nat} {c : Char} (letter : p.letters[j]? = some c) :
    Spot.lastChar? (p.start + j) p.spots = some c :=
  Spot.lastChar?_ofLine_eq_some_iff.mpr ⟨j, letter, rfl⟩

theorem lastChar?_spots_eq_none_iff : Spot.lastChar? o p.spots = none ↔ ¬ p.Covers o := by
  rw [spots, Spot.lastChar?_ofLine, Covers]
  split
  · rw [List.getElem?_eq_none_iff]
    omega
  · exact iff_of_true rfl (by omega)

theorem lastChar?_layout_cons (p : Piece) (rest : List Piece) (o : Int) :
    Spot.lastChar? o (layout (p :: rest)) = (Spot.lastChar? o (layout rest)).or (Spot.lastChar? o p.spots) := by
  rw [layout, List.flatMap_cons, Spot.lastChar?_append]
  rfl

theorem lastChar?_layout_eq_none_iff :
    Spot.lastChar? o (layout pieces) = none ↔ ∀ p ∈ pieces, ¬ p.Covers o := by
  induction pieces with
  | nil => exact iff_of_true rfl nofun
  | cons p rest ih =>
    rw [lastChar?_layout_cons, Option.or_eq_none_iff, ih, lastChar?_spots_eq_none_iff, List.forall_mem_cons]
    exact And.comm

/-- What comes last is covered by nothing. -/
theorem lastChar?_layout_last {j : Nat} {c : Char} (letter : p.letters[j]? = some c) (earlier : List Piece) :
    Spot.lastChar? (p.start + j) (layout (earlier ++ [p])) = some c := by
  have here : Spot.lastChar? (p.start + j) (layout [p]) = some c := by
    rw [lastChar?_layout_cons, lastChar?_spots letter]
    rfl
  rw [layout, List.flatMap_append, Spot.lastChar?_append]
  exact Option.or_eq_some_iff.mpr (.inl here)

theorem lastChar?_layout_of_pairwise (apart : pieces.Pairwise Disjoint) (listed : p ∈ pieces) {j : Nat} {c : Char}
    (letter : p.letters[j]? = some c) : Spot.lastChar? (p.start + j) (layout pieces) = some c := by
  induction pieces with
  | nil => cases listed
  | cons q rest ih =>
    obtain ⟨first, later⟩ := List.pairwise_cons.mp apart
    rw [lastChar?_layout_cons]
    rcases List.mem_cons.mp listed with rfl | behind
    · have missed : Spot.lastChar? (p.start + j) (layout rest) = none :=
        lastChar?_layout_eq_none_iff.mpr fun r among covered =>
          first r among _ ⟨covers_of_getElem? letter, covered⟩
      rw [missed, lastChar?_spots letter]
      rfl
    · rw [ih later behind]
      rfl

end Piece

namespace Buffer

/-- Pieces placed one after another, in one colour. -/
def placePieces (colour : Value) (pieces : List Piece) (b : Buffer) : Buffer :=
  pieces.foldl (fun b p => b.placeText p.letters p.start colour) b

theorem placePieces_eq_lay {pieces : List Piece} (unbroken : ∀ p ∈ pieces, lineFeed ∉ p.letters) (k : Colour)
    (b : Buffer) : placePieces k.toValue pieces b = b.lay (Spot.overlay (some k) (Piece.layout pieces)) := by
  induction pieces generalizing b with
  | nil => exact b.lay_blank.symm
  | cons p rest ih =>
    obtain ⟨first, later⟩ := List.forall_mem_cons.mp unbroken
    have placed : b.placeText p.letters p.start k.toValue = b.lay (Spot.overlay (some k) p.spots) := by
      rw [placeText_eq_lay, Colour.ofValue?_toValue, Spot.ofText_of_unbroken first, Piece.spots]
    calc
      placePieces k.toValue (p :: rest) b
        = placePieces k.toValue rest (b.placeText p.letters p.start k.toValue) := rfl
      _ = placePieces k.toValue rest (b.lay (Spot.overlay (some k) p.spots)) := by rw [placed]
      _ = (b.lay (Spot.overlay (some k) p.spots)).lay (Spot.overlay (some k) (Piece.layout rest)) := ih later _
      _ = b.lay (Spot.overlay (some k) (Piece.layout (p :: rest))) := by
        rw [lay_lay, ← Spot.overlay_append]
        rfl

/-- A piece stands on a grid in one colour, as far as the grid goes. -/
def Shows (k : Colour) (p : Piece) (b : Buffer) : Prop :=
  ∀ (j : Nat) (c : Char), p.letters[j]? = some c → b.Holds (p.start + j) →
    b.cell? (p.start + j) = some ⟨c, some k⟩

end Buffer

namespace Screen

open Buffer Spot

/-- The pieces of the test picture. -/
def pieces (width : Nat) : List Piece :=
  [⟨width + 6, banner.toList⟩,
   ⟨4 * width, uppercaseCaption.toList⟩,
   ⟨6 * width, Bank.uppercase.glyphs⟩,
   ⟨15 * width, lowercaseCaption.toList⟩,
   ⟨17 * width, Bank.lowercase.glyphs⟩]

theorem testPicture_eq_placePieces (b : Buffer) (colour : Value) :
    testPicture b colour = placePieces colour (pieces b.width) b := by
  have second_row : (b.width : Int) + 6 = 6 + 1 * b.width := by omega
  simp only [testPicture, placePieces, pieces, Buffer.offset, width_placeText, List.foldl_cons, List.foldl_nil,
    second_row, Int.zero_add]

theorem pieces_unbroken (width : Nat) : ∀ p ∈ pieces width, lineFeed ∉ p.letters := by
  simp only [pieces, List.forall_mem_cons]
  refine ⟨?_, ?_, Bank.uppercase.lineFeed_notMem_glyphs, ?_, Bank.lowercase.lineFeed_notMem_glyphs, nofun⟩
  all_goals decide +kernel

theorem length_uppercaseCaption : uppercaseCaption.toList.length = 24 := by decide +kernel

theorem length_lowercaseCaption : lowercaseCaption.toList.length = 24 := by decide +kernel

theorem length_banner : banner.toList.length = 28 := by decide +kernel

theorem pairwise_pieces_iff {width : Nat} : (pieces width).Pairwise Piece.Disjoint ↔ 29 ≤ width := by
  constructor
  · intro apart
    simp only [pieces, List.pairwise_cons, List.forall_mem_cons] at apart
    obtain ⟨-, -, ⟨glyphs_caption, -⟩, -⟩ := apart
    by_contra narrow
    apply glyphs_caption (15 * width)
    simp only [Piece.Covers, Bank.length_glyphs, length_lowercaseCaption]
    omega
  · intro wide
    apply Piece.pairwise_disjoint_of_isChain
    simp only [pieces, List.isChain_cons_cons, List.isChain_singleton, Piece.Before, Bank.length_glyphs, length_banner,
      length_uppercaseCaption, length_lowercaseCaption, and_true]
    omega

theorem size_printTestPicture (s : Screen) :
    s.printTestPicture.width = s.width ∧ s.printTestPicture.height = s.height := by
  simp [printTestPicture, testPicture, width, height]

theorem holds_printTestPicture {s : Screen} {o : Int} :
    s.printTestPicture.buffer.Holds o ↔ s.buffer.Holds o := by
  obtain ⟨columns, lines⟩ := s.size_printTestPicture
  unfold width at columns
  unfold height at lines
  rw [Holds, Holds, size, size, columns, lines]

theorem cell?_printTestPicture (s : Screen) (o : Int) :
    s.printTestPicture.buffer.cell? o =
      match lastChar? o (Piece.layout (pieces s.width)) with
      | some c => (s.buffer.cell? o).map fun _ => ⟨c, some s.cursor⟩
      | none => s.buffer.cell? o := by
  simp only [printTestPicture, width]
  rw [testPicture_eq_placePieces, placePieces_eq_lay (pieces_unbroken _), cell?_lay, overlay]
  cases lastChar? o (Piece.layout (pieces s.buffer.width)) with
  | none => rw [Stamp.press_blank, Option.map_id, id_eq]
  | some c => rfl

theorem shows_of_lastChar? {s : Screen} {p : Piece}
    (last : ∀ (j : Nat) (c : Char), p.letters[j]? = some c →
      lastChar? (p.start + j) (Piece.layout (pieces s.width)) = some c) :
    s.printTestPicture.buffer.Shows s.cursor p := by
  intro j c letter held
  obtain ⟨cell, found⟩ := exists_cell? (holds_printTestPicture.mp held)
  rw [cell?_printTestPicture, last j c letter, found]
  rfl

/-- The glyphs of the lowercase bank stand in their place whatever the width, and all five pieces from 29 columns on,
where they do not overlap. What they cover has the colour of the cursor, and the rest is left as it was. -/
theorem printTestPicture_exact (s : Screen) :
    let t := s.printTestPicture
    t.width = s.width ∧ t.height = s.height ∧ t = { s with buffer := t.buffer } ∧
      banner = "**** PETSCII View 1.0.0 ****" ∧
      t.buffer.Shows s.cursor ⟨17 * s.width, Bank.lowercase.glyphs⟩ ∧
      ((pieces s.width).Pairwise Piece.Disjoint ↔ 29 ≤ s.width) ∧
      (29 ≤ s.width → ∀ p ∈ pieces s.width, t.buffer.Shows s.cursor p) ∧
      (∀ p ∈ pieces s.width, ∀ o cell, p.Covers o → t.buffer.cell? o = some cell → cell.colour = some s.cursor) ∧
      ∀ o, (∀ p ∈ pieces s.width, ¬ p.Covers o) → t.buffer.cell? o = s.buffer.cell? o := by
  intro t
  obtain ⟨columns, lines⟩ := s.size_printTestPicture
  have rest : t = { s with buffer := t.buffer } := by
    simp only [t, printTestPicture]
  refine ⟨columns, lines, rest, by decide +kernel, ?_, pairwise_pieces_iff, ?_, ?_, ?_⟩
  · apply shows_of_lastChar?
    intro j c letter
    exact Piece.lastChar?_layout_last letter (pieces s.width).dropLast
  · intro wide p listed
    apply shows_of_lastChar?
    intro j c letter
    exact Piece.lastChar?_layout_of_pairwise (pairwise_pieces_iff.mpr wide) listed letter
  · intro p listed o cell covered found
    rw [cell?_printTestPicture] at found
    split at found
    · obtain ⟨under, -, rfl⟩ := Option.map_eq_some_iff.mp found
      rfl
    · next nothing => exact absurd covered (Piece.lastChar?_layout_eq_none_iff.mp nothing p listed)
  · intro o spared
    rw [cell?_printTestPicture, Piece.lastChar?_layout_eq_none_iff.mpr spared]

/-- With 29 columns, the narrowest grid that the picture fits, cut off below the first row of glyphs. -/
theorem printTestPicture_exact_narrow :
    let s : Screen :=
      { buffer := blankBuffer .blue ⟨29, by decide⟩ ⟨7, by decide⟩, border := .red, background := .black,
        cursor := .green, fontSize := defaultFontSize, charsEnabled := true, coloursEnabled := true }
    29 ≤ s.width ∧ (pieces s.width).Pairwise Piece.Disjoint ∧
      s.printTestPicture.buffer.cell? 179 = some ⟨'E', some .green⟩ ∧
      s.printTestPicture.buffer.cell? 173 = some ⟨' ', some .blue⟩ := by
  intro s
  have wide : 29 ≤ s.width := Nat.le_refl 29
  obtain ⟨-, -, -, -, -, apart, shown, -, spared⟩ := s.printTestPicture_exact
  have glyphs : ⟨6 * s.width, Bank.uppercase.glyphs⟩ ∈ pieces s.width := .tail _ (.tail _ (.head _))
  have letter : Bank.uppercase.glyphs[5]? = some 'E' := by decide +kernel
  have between : ∀ p ∈ pieces s.width, ¬ p.Covers 173 := by
    have columns : s.width = 29 := rfl
    simp only [pieces, columns, List.forall_mem_cons, Piece.Covers, length_uppercaseCaption, length_lowercaseCaption,
      length_banner, Bank.length_glyphs]
    refine ⟨by omega, by omega, by omega, by omega, by omega, nofun⟩
  have held : s.printTestPicture.buffer.Holds 179 := holds_printTestPicture.mpr (by decide)
  refine ⟨wide, apart.mpr wide, shown wide _ glyphs 5 'E' letter held, ?_⟩
  rw [spared 173 between]
  exact (cell?_filled ..).trans (if_pos (by decide))

end Screen

end C64Screen
