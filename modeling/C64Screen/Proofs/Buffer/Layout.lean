import C64Screen.Proofs.Buffer.Strokes
import C64Screen.Proofs.Value.Kinds

/-!
# Where a text comes to stand

A text is placed character by character, by a cursor that a line feed sends to the next line. Here it is laid
out without a cursor. The text is divided at its line feeds, and a character has its offset from the number of
its line and its number in the line, wherever the grid begins and ends. A cell shows the last character, in the
order of reading, that has the offset of the cell. So a line that is longer than a row runs into the next one
and is covered by what the next one has there, and what falls outside the grid is missed by nothing else.

The proof goes along with the cursor. What is left of its line stands where the cursor goes on, and the lines
behind begin below the start of that line.
-/

namespace C64Screen

/-- A character and the offset at which it comes to stand. -/
structure Spot where
  offset : Int
  char : Char

namespace Spot

def ofLine (o : Int) (line : List Char) : List Spot :=
  line.zipIdx.map fun (c, j) => ⟨o + j, c⟩

/-- Lines in the order of reading, each of them a row below the one before. -/
def ofLines (width : Nat) (start : Int) (lines : List (List Char)) : List Spot :=
  lines.zipIdx.flatMap fun (line, i) => ofLine (start + i * width) line

def ofText (width : Nat) (start : Int) (text : List Char) : List Spot :=
  ofLines width start (text.splitOn lineFeed)

def char? (o : Int) (s : Spot) : Option Char := if s.offset = o then some s.char else none

def lastChar? (o : Int) (spots : List Spot) : Option Char := (spots.filterMap (char? o)).getLast?

/-- What spots lay on a grid, all in one colour if there is one. -/
def overlay (ink : Option Colour) (spots : List Spot) : Overlay := fun o =>
  match lastChar? o spots with
  | some c => ⟨some c, ink⟩
  | none => .blank

/-- Some character of the line with the number `i` has the offset. -/
def HasAt (width : Nat) (start : Int) (lines : List (List Char)) (o : Int) (i : Nat) (c : Char) : Prop :=
  ∃ (letters : List Char) (j : Nat),
    lines[i]? = some letters ∧ letters[j]? = some c ∧ start + i * width + j = o

@[simp] theorem ofLine_nil (o : Int) : ofLine o [] = [] := rfl

theorem ofLine_cons (o : Int) (c : Char) (line : List Char) :
    ofLine o (c :: line) = ⟨o, c⟩ :: ofLine (o + 1) line := by
  rw [ofLine, List.zipIdx_cons', List.map_cons, List.map_map]
  refine congrArg₂ _ (Spot.mk.injEq .. ▸ ⟨Int.add_zero o, rfl⟩) (List.map_congr_left fun x _ => ?_)
  have next : o + (x.2 + 1 : Nat) = o + 1 + x.2 := by omega
  exact Spot.mk.injEq .. ▸ ⟨next, rfl⟩

theorem row_below (width : Nat) (start : Int) (i : Nat) :
    start + (i + 1 : Nat) * width = start + width + i * width := by
  rw [Int.natCast_add, Int.natCast_one, Int.add_mul, Int.one_mul]
  omega

theorem ofLines_cons (width : Nat) (start : Int) (line : List Char) (later : List (List Char)) :
    ofLines width start (line :: later) = ofLine start line ++ ofLines width (start + width) later := by
  rw [ofLines, List.zipIdx_cons', List.flatMap_cons, List.flatMap_map]
  simp only [Prod.map, id_eq, row_below, Int.natCast_zero, Int.zero_mul, Int.add_zero]
  rfl

theorem lastChar?_cons (o : Int) (s : Spot) (rest : List Spot) :
    lastChar? o (s :: rest) = (lastChar? o rest).or (char? o s) :=
  Stroke.getLast?_filterMap_cons ..

theorem lastChar?_append (o : Int) (first second : List Spot) :
    lastChar? o (first ++ second) = (lastChar? o second).or (lastChar? o first) := by
  rw [lastChar?, List.filterMap_append, List.getLast?_append]
  rfl

/-- A line has one character at most for an offset. -/
theorem lastChar?_ofLine (o start : Int) (letters : List Char) :
    lastChar? o (ofLine start letters) = if start ≤ o then letters[(o - start).toNat]? else none := by
  induction letters generalizing start with
  | nil =>
    rw [ofLine_nil, List.getElem?_nil, ite_self]
    rfl
  | cons c letters ih =>
    rw [ofLine_cons, lastChar?_cons, ih]
    change Option.or _ (if start = o then some c else none) = _
    rcases Int.lt_trichotomy start o with before | here | behind
    · obtain ⟨k, ahead⟩ : ∃ k : Nat, (o - start).toNat = k + 1 := ⟨(o - start).toNat - 1, by omega⟩
      have next : (o - (start + 1)).toNat = k := by omega
      rw [if_pos (by omega), if_neg (by omega), if_pos (by omega), ahead, next, List.getElem?_cons_succ,
        Option.or_none]
    · subst here
      rw [if_neg (by omega), if_pos rfl, if_pos (by omega), Int.sub_self]
      rfl
    · rw [if_neg (by omega), if_neg (by omega), if_neg (by omega)]
      rfl

theorem lastChar?_ofLine_eq_some_iff {o start : Int} {letters : List Char} {c : Char} :
    lastChar? o (ofLine start letters) = some c ↔ ∃ j : Nat, letters[j]? = some c ∧ start + j = o := by
  rw [lastChar?_ofLine]
  constructor
  · intro found
    split at found
    · next ahead => exact ⟨_, found, by omega⟩
    · cases found
  · rintro ⟨j, found, rfl⟩
    have count : (start + j - start).toNat = j := by omega
    rw [if_pos (by omega), count, found]

/-! Among several lines the last one that has something at an offset decides. -/

theorem hasAt_cons_zero {width : Nat} {start o : Int} {line : List Char} {later : List (List Char)}
    {c : Char} :
    HasAt width start (line :: later) o 0 c ↔ lastChar? o (ofLine start line) = some c := by
  simp [HasAt, lastChar?_ofLine_eq_some_iff]

theorem hasAt_cons_succ {width : Nat} {start o : Int} {line : List Char} {later : List (List Char)}
    {i : Nat} {c : Char} :
    HasAt width start (line :: later) o (i + 1) c ↔ HasAt width (start + width) later o i c := by
  simp only [HasAt, List.getElem?_cons_succ, row_below]

theorem lastChar?_ofLines_eq_none_iff {width : Nat} {start o : Int} {lines : List (List Char)} :
    lastChar? o (ofLines width start lines) = none ↔ ∀ i c, ¬ HasAt width start lines o i c := by
  induction lines generalizing start with
  | nil =>
    refine ⟨fun _ i c has => ?_, fun _ => rfl⟩
    obtain ⟨line, j, found, -⟩ := has
    rw [List.getElem?_nil] at found
    cases found
  | cons line later ih =>
    rw [ofLines_cons, lastChar?_append, Option.or_eq_none_iff, ih, Option.eq_none_iff_forall_ne_some]
    constructor
    · rintro ⟨elsewhere, missing⟩ i c has
      cases i with
      | zero => exact missing c (hasAt_cons_zero.mp has)
      | succ i => exact elsewhere i c (hasAt_cons_succ.mp has)
    · intro missing
      exact ⟨fun i c has => missing (i + 1) c (hasAt_cons_succ.mpr has),
        fun c found => missing 0 c (hasAt_cons_zero.mpr found)⟩

theorem lastChar?_ofLines_eq_some_iff {width : Nat} {start o : Int} {lines : List (List Char)} {c : Char} :
    lastChar? o (ofLines width start lines) = some c ↔
      ∃ i, HasAt width start lines o i c ∧ ∀ k d, HasAt width start lines o k d → k ≤ i := by
  induction lines generalizing start with
  | nil =>
    refine ⟨nofun, fun ⟨i, has, _⟩ => ?_⟩
    obtain ⟨line, j, found, -⟩ := has
    rw [List.getElem?_nil] at found
    cases found
  | cons line later ih =>
    rw [ofLines_cons, lastChar?_append, Option.or_eq_some_iff, ih, lastChar?_ofLines_eq_none_iff]
    constructor
    · rintro (⟨i, has, last⟩ | ⟨elsewhere, found⟩)
      · refine ⟨i + 1, hasAt_cons_succ.mpr has, fun k d other => ?_⟩
        cases k with
        | zero => exact Nat.zero_le _
        | succ k => exact Nat.succ_le_succ (last k d (hasAt_cons_succ.mp other))
      · refine ⟨0, hasAt_cons_zero.mpr found, fun k d other => ?_⟩
        cases k with
        | zero => exact Nat.le_refl 0
        | succ k => exact absurd (hasAt_cons_succ.mp other) (elsewhere k d)
    · rintro ⟨i, has, last⟩
      cases i with
      | zero =>
        refine .inr ⟨fun k d other => ?_, hasAt_cons_zero.mp has⟩
        exact absurd (last (k + 1) d (hasAt_cons_succ.mpr other)) (Nat.not_succ_le_zero k)
      | succ i =>
        refine .inl ⟨i, hasAt_cons_succ.mp has, fun k d other => ?_⟩
        exact Nat.le_of_succ_le_succ (last (k + 1) d (hasAt_cons_succ.mpr other))

/-- No line begins in front of the first, and no character stands in front of its line. -/
theorem start_le_offset {width : Nat} {start : Int} {text : List Char} {s : Spot}
    (listed : s ∈ ofText width start text) : start ≤ s.offset := by
  obtain ⟨⟨letters, i⟩, -, inside⟩ := List.mem_flatMap.mp listed
  obtain ⟨⟨c, j⟩, -, rfl⟩ := List.mem_map.mp inside
  have below : 0 ≤ (i : Int) * width := Int.mul_nonneg (Int.natCast_nonneg i) (Int.natCast_nonneg width)
  change start ≤ start + i * width + j
  omega

theorem lastChar?_ofText_eq_none {width : Nat} {start o : Int} (before : o < start) (text : List Char) :
    lastChar? o (ofText width start text) = none := by
  rw [lastChar?, List.getLast?_eq_none_iff, List.filterMap_eq_nil_iff]
  intro s listed
  have behind : start ≤ s.offset := start_le_offset listed
  exact if_neg (by omega)

theorem ofText_of_unbroken {text : List Char} (unbroken : lineFeed ∉ text) (width : Nat) (start : Int) :
    ofText width start text = ofLine start text := by
  rw [ofText, List.splitOn_eq_singleton unbroken, ofLines_cons]
  exact List.append_nil _

/-! Spots laid on a grid. -/

theorem overlay_append (ink : Option Colour) (first second : List Spot) :
    overlay ink (first ++ second) = (overlay ink second).atop (overlay ink first) := by
  funext o
  simp only [overlay, lastChar?_append, Overlay.atop]
  cases lastChar? o second with
  | none => simp
  | some c =>
    cases lastChar? o first with
    | none => simp
    | some _ => cases ink <;> simp [Stamp.atop]

theorem overlay_singleton (ink : Option Colour) (s : Spot) :
    overlay ink [s] = .wherever (· = s.offset) ⟨some s.char, ink⟩ := by
  funext o
  by_cases here : s.offset = o
  · simp [overlay, lastChar?, char?, Overlay.wherever, here]
  · have elsewhere : ¬ o = s.offset := Ne.symm here
    simp [overlay, lastChar?, char?, Overlay.wherever, here, elsewhere]

theorem overlay_cons (ink : Option Colour) (s : Spot) (rest : List Spot) :
    overlay ink (s :: rest) = (overlay ink rest).atop (.wherever (· = s.offset) ⟨some s.char, ink⟩) := by
  rw [← overlay_singleton]
  exact overlay_append ink [s] rest

/-- What is left of a text where the present line, begun at `start`, goes on from `o`. -/
def fromLine (width : Nat) (o start : Int) : List (List Char) → List Spot
  | [] => []
  | line :: later => ofLine o line ++ ofLines width (start + width) later

theorem fromLine_self (width : Nat) (start : Int) (lines : List (List Char)) :
    fromLine width start start lines = ofLines width start lines := by
  cases lines with
  | nil => rfl
  | cons line later => exact (ofLines_cons width start line later).symm

theorem fromLine_lineFeed (width : Nat) (o start : Int) (rest : List Char) :
    fromLine width o start ((lineFeed :: rest).splitOn lineFeed) =
      fromLine width (start + width) (start + width) (rest.splitOn lineFeed) := by
  rw [List.splitOn_eq_splitOnP, List.splitOnP_cons_eq_if_modifyHead, if_pos (beq_self_eq_true _),
    fromLine_self]
  rfl

theorem fromLine_cons {c : Char} (other : c ≠ lineFeed) (width : Nat) (o start : Int) (rest : List Char) :
    fromLine width o start ((c :: rest).splitOn lineFeed) =
      ⟨o, c⟩ :: fromLine width (o + 1) start (rest.splitOn lineFeed) := by
  have nonempty : rest.splitOnP (· == lineFeed) ≠ [] := fun empty => List.splitOnP_ne_nil _ _ empty
  obtain ⟨line, later, lines⟩ := List.exists_cons_of_ne_nil nonempty
  rw [List.splitOn_eq_splitOnP, List.splitOn_eq_splitOnP, List.splitOnP_cons_eq_if_modifyHead,
    if_neg (by simpa using other), lines, List.modifyHead_cons, fromLine, fromLine, ofLine_cons,
    List.cons_append]

end Spot

namespace Buffer

open Spot

theorem place_eq_lay (b : Buffer) (c : Char) (o : Int) (colour : Value) :
    b.place c o colour = b.lay (.wherever (· = o) ⟨some c, Colour.ofValue? colour⟩) := by
  have both : (Overlay.wherever (· = o) ⟨none, Colour.ofValue? colour⟩).atop (.wherever (· = o) (.ofChar c)) =
      .wherever (· = o) ⟨some c, Colour.ofValue? colour⟩ := by
    funext p
    by_cases here : p = o <;> simp [Overlay.atop, Overlay.wherever, Stamp.atop, Stamp.ofChar, here]
  calc
    b.place c o colour = Put.run (b.modify o (Stamp.ofChar c).press) ⟨.colour colour, o⟩ := rfl
    _ = (b.lay (.wherever (· = o) (.ofChar c))).lay
          (.wherever (· = o) ⟨none, Colour.ofValue? colour⟩) := by
      rw [Put.run_eq_lay, modify_eq_lay]
      rfl
    _ = b.lay (.wherever (· = o) ⟨some c, Colour.ofValue? colour⟩) := by rw [lay_lay, both]

theorem placeFrom_eq_lay (b : Buffer) (colour : Value) (text : List Char) (o start : Int) :
    placeFrom colour text o start b =
      b.lay (overlay (Colour.ofValue? colour) (fromLine b.width o start (text.splitOn lineFeed))) := by
  -- Along the cursor: a line feed begins the next line, and a character is laid below all that follow.
  induction text generalizing b o start with
  | nil => exact b.lay_blank.symm
  | cons c rest ih =>
    by_cases feed : c = lineFeed
    · subst feed
      rw [placeFrom_lineFeed, ih, fromLine_lineFeed]
    · rw [placeFrom_cons feed, ih, fromLine_cons feed, overlay_cons, place_eq_lay, lay_lay, width_lay]

theorem placeText_eq_lay (b : Buffer) (text : List Char) (start : Int) (colour : Value) :
    b.placeText text start colour =
      b.lay (overlay (Colour.ofValue? colour) (ofText b.width start text)) := by
  rw [placeText, placeFrom_eq_lay, fromLine_self, ofText]

theorem cell?_lay_overlay {b : Buffer} {o : Int} {cell : Cell} (found : b.cell? o = some cell)
    (ink : Option Colour) (spots : List Spot) :
    (b.lay (overlay ink spots)).cell? o =
      some (match lastChar? o spots with
        | some c => ⟨c, ink.or cell.colour⟩
        | none => cell) := by
  rw [cell?_lay, found, overlay]
  cases lastChar? o spots with
  | none => simp
  | some c => rfl

/-- A cell shows the last character that its offset has in the text, in the given colour if that is one, and
otherwise what it held. The last character is that of the last line which reaches the offset. -/
theorem placeText_closed_form (b : Buffer) (text : List Char) (start : Int) (colour : Value) :
    let lines := text.splitOn lineFeed
    let spots := ofLines b.width start lines
    let placed := b.placeText text start colour
    placed.width = b.width ∧ placed.height = b.height ∧
    (∀ o cell, b.cell? o = some cell →
      (lastChar? o spots = none → placed.cell? o = some cell) ∧
      ∀ c, lastChar? o spots = some c → ∃ ink, placed.cell? o = some ⟨c, ink⟩ ∧
        (∀ k : Colour, colour = k.toValue → ink = some k) ∧ (¬ colour.IsColour → ink = cell.colour)) ∧
    ∀ o,
      (lastChar? o spots = none ↔ ∀ i c, ¬ HasAt b.width start lines o i c) ∧
      ∀ c, lastChar? o spots = some c ↔
        ∃ i, HasAt b.width start lines o i c ∧ ∀ k d, HasAt b.width start lines o k d → k ≤ i := by
  intro lines spots placed
  have laid : placed = b.lay (overlay (Colour.ofValue? colour) spots) := placeText_eq_lay ..
  refine ⟨width_placeText .., height_placeText .., ?_, ?_⟩
  · intro o cell found
    have shown := cell?_lay_overlay found (Colour.ofValue? colour) spots
    rw [← laid] at shown
    constructor
    · intro nothing
      rw [shown, nothing]
    · intro c last
      rw [last] at shown
      refine ⟨_, shown, ?_, ?_⟩
      · rintro k rfl
        rw [Colour.ofValue?_toValue, Option.some_or]
      · intro other
        rw [Colour.ofValue?_of_not_isColour other, Option.none_or]
  · intro o
    exact ⟨lastChar?_ofLines_eq_none_iff, fun c => lastChar?_ofLines_eq_some_iff⟩

/-- The first line begins in front of the grid and runs into the second, which covers it. -/
theorem placeText_closed_form_covered :
    let b := Buffer.new ⟨3, by decide⟩ ⟨2, by decide⟩
    let text := ['A', 'B', 'C', 'D', 'E', '\n', 'F', '\n', 'G', 'H', 'I', 'J']
    let placed := b.placeText text (-1) (.int 7)
    b.cell? 2 = some ⟨' ', none⟩ ∧ lastChar? 2 (ofLines 3 (-1) (text.splitOn lineFeed)) = some 'F' ∧
      placed.cell? 2 = some ⟨'F', some .yellow⟩ := by
  intro b text placed
  have found : b.cell? 2 = some ⟨' ', none⟩ := rfl
  have last : lastChar? 2 (ofLines 3 (-1) (text.splitOn lineFeed)) = some 'F' := by decide
  obtain ⟨-, -, cells, -⟩ := placeText_closed_form b text (-1) (.int 7)
  obtain ⟨ink, shown, coloured, -⟩ := (cells 2 _ found).2 'F' last
  refine ⟨found, last, ?_⟩
  rw [shown, coloured .yellow rfl]

end Buffer

end C64Screen
