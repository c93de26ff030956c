import C64Screen.Proofs.Buffer.Fitting
import C64Screen.Proofs.Buffer.Layout
import C64Screen.Proofs.Buffer.Rows
import C64Screen.Proofs.Charset.Reversal
import C64Screen.Proofs.Json.Grammar
import C64Screen.Proofs.Screen.Unbroken

/-!
# The look of a diagnostic

A diagnostic puts its headline on the grid from the first cell on, and then the text that it is about from the
second row on. The headline has no line feed in it, so it goes on from row to row, and where the grid is narrow
the text covers what of it has come below the first row. The text never comes to the first row.

The headline is in reverse video. All its letters, digits and blanks are in the uppercase bank, in the half that
is not reversed, so each of them is turned over and back again.

The position is named in the headline. With a digit too many for that there is no diagnostic.
-/

namespace C64Screen

/-! Characters that can be turned over and back. -/

namespace Charset

/-- Blanks, digits, capitals and the signs among them, all of them among the first glyphs of the uppercase bank. -/
def IsLow (c : Char) : Prop := 0x20 ≤ c.toNat ∧ c.toNat ≤ 0x5A

instance : DecidablePred IsLow := fun c =>
  inferInstanceAs (Decidable (0x20 ≤ c.toNat ∧ c.toNat ≤ 0x5A))

theorem IsLow.exists_code {c : Char} (low : IsLow c) :
    ∃ k : ScreenCode, Bank.uppercase.code? c = some k ∧ k < reverseBit := by
  have each : ∀ k : Fin (0x5A - 0x20 + 1),
      ((Bank.uppercase.code? (Char.ofNat (0x20 + k))).any fun code : ScreenCode => code < reverseBit) = true := by
    decide +kernel
  obtain ⟨first, last⟩ := low
  have named : c = Char.ofNat (0x20 + (c.toNat - 0x20)) := by
    rw [Nat.add_sub_cancel' first]
    exact (Char.ofNat_toNat c).symm
  rw [named]
  obtain ⟨k, found, below⟩ := (Option.any_eq_true _ _).mp (each ⟨c.toNat - 0x20, by omega⟩)
  exact ⟨k, found, of_decide_eq_true below⟩

theorem IsLow.turns {c : Char} (low : IsLow c) : isReversed (reverse c) = true ∧ reverse (reverse c) = c := by
  obtain ⟨k, found, plain⟩ := low.exists_code
  exact turns_of_code? found plain

theorem isLow_digit {c : Char} (digit : c.isDigit = true) : IsLow c := by
  obtain ⟨first, last⟩ := Unicode.range_of_isDigit digit
  exact ⟨by omega, by omega⟩

theorem isLow_of_all {cs : List Char} (each : cs.all (fun c => decide (IsLow c)) = true) : ∀ c ∈ cs, IsLow c :=
  fun c listed => of_decide_eq_true (List.all_eq_true.mp each c listed)

theorem isReversed_lineFeed : isReversed lineFeed = false := by decide +kernel

end Charset

/-- How a grid looks on which a head and a text have been put, all in one colour. The text covers the head, and
nothing else is touched. -/
structure Buffer.Diagnosed (before after : Buffer) (head text : List Char) (ink : Colour) : Prop where
  width : after.width = before.width
  height : after.height = before.height
  texted : ∀ (o : Nat) (c : Char), before.Holds o →
    Spot.lastChar? o (Spot.ofText before.width before.width text) = some c → after.cell? o = some ⟨c, some ink⟩
  headed : ∀ (o : Nat) (c : Char), before.Holds o →
    Spot.lastChar? o (Spot.ofText before.width before.width text) = none → head[o]? = some c →
    after.cell? o = some ⟨c, some ink⟩
  untouched : ∀ o : Nat, Spot.lastChar? o (Spot.ofText before.width before.width text) = none →
    head.length ≤ o → after.cell? o = before.cell? o

namespace Markup

open Spot Charset

theorem isLow_headline (fault : Fault) {position : Int} (nonneg : 0 ≤ position) :
    ∀ c ∈ (headline fault.kind position).toList, IsLow c := by
  have kinds : ∀ c ∈ fault.kind.toList, IsLow c := isLow_of_all (by cases fault <;> decide +kernel)
  have middle : ∀ c ∈ " AT POSITION ".toList, IsLow c := isLow_of_all (by decide +kernel)
  obtain ⟨n, rfl⟩ := Int.eq_ofNat_of_zero_le nonneg
  intro c listed
  simp only [headline, String.toList_append, List.mem_append] at listed
  rcases listed with (kind | between) | digit
  · exact kinds c kind
  · exact middle c between
  · apply isLow_digit
    simp only [Numeral.text, Numeral.written, String.toList_ofList] at digit
    exact (Json.natural_toDigits n).digits c digit

/-- The two lots of text of a diagnostic, as one. -/
theorem report_eq_lay {kind : String} {position : Int}
    (unbroken : lineFeed ∉ (headline kind position).toList.map reverse) (b : Buffer) (text : List Char) :
    (report b kind text position).1 =
      b.lay (overlay (some diagnosticColour)
        (ofLine 0 ((headline kind position).toList.map reverse) ++ ofText b.width b.width text)) := by
  simp only [report, Buffer.placeText_eq_lay, Buffer.lay_lay, Buffer.width_lay, Colour.ofValue?_toValue,
    overlay_append, ofText_of_unbroken unbroken]

theorem report_diagnosed {kind : String} {position : Int}
    (unbroken : lineFeed ∉ (headline kind position).toList.map reverse) (b : Buffer) (text : List Char) :
    b.Diagnosed (report b kind text position).1 ((headline kind position).toList.map reverse) text
      diagnosticColour := by
  have at_head (o : Nat) (letters : List Char) : lastChar? o (ofLine 0 letters) = letters[o]? := by
    rw [lastChar?_ofLine, if_pos (Int.natCast_nonneg o), Int.sub_zero, Int.toNat_natCast]
  have shown {o : Nat} {cell : Cell} (found : b.cell? o = some cell) :=
    Buffer.cell?_lay_overlay found (some diagnosticColour)
      (ofLine 0 ((headline kind position).toList.map reverse) ++ ofText b.width b.width text)
  simp only [lastChar?_append, at_head] at shown
  rw [report_eq_lay unbroken]
  constructor
  · rfl
  · rfl
  · intro o c inside last
    obtain ⟨cell, found⟩ := Buffer.exists_cell? inside
    rw [shown found, last]
    rfl
  · intro o c inside missing there
    obtain ⟨cell, found⟩ := Buffer.exists_cell? inside
    rw [shown found, missing, there]
    rfl
  · intro o missing beyond
    cases found : b.cell? o with
    | none => rw [Buffer.cell?_lay, found, Option.map_none]
    | some cell =>
      rw [shown found, missing, List.getElem?_eq_none beyond]
      rfl

end Markup

namespace Buffer

/-- The text stays below the first row. -/
theorem Diagnosed.take_prefix_row {before after : Buffer} {head text : List Char} {ink : Colour}
    (diagnosed : before.Diagnosed after head text ink) :
    head.take before.width <+: (after.row 0).map Cell.char := by
  have columns : after.width = before.width := diagnosed.width
  rw [List.prefix_iff_getElem?]
  intro x short
  obtain ⟨left, there⟩ : x < before.width ∧ x < head.length := by simpa using short
  have below : 0 < after.height := after.height_pos
  have inside : before.Holds x := by
    have wide : before.width ≤ before.size := Nat.le_mul_of_pos_right _ before.height_pos
    constructor <;> omega
  have missing : Spot.lastChar? x (Spot.ofText before.width before.width text) = none :=
    Spot.lastChar?_ofText_eq_none (by omega) text
  have place : after.offset x (0 : Nat) = x := by simp [offset]
  have shown := diagnosed.headed x _ inside missing (List.getElem?_eq_getElem there)
  rw [List.getElem?_map, getElem?_row (by omega) below, place, shown, List.getElem_take]
  rfl

end Buffer

namespace Unchecked

open Charset Markup

/-- A diagnostic is the headline in reverse video, on a grid of any size, with the text in the rows below it. -/
theorem report_layout (b : Buffer) (fault : Fault) (text : String) {position : Int} (nonneg : 0 ≤ position) :
    let words := (fault.kind ++ " AT POSITION " ++ Numeral.text position).toList
    let head := words.map reverse
    let called := (Call.report (.text fault.kind) (.text text) (.int position)).run b
    (∀ c ∈ head, isReversed c = true) ∧ head.map reverse = words ∧
    (∀ s ∈ Spot.ofText b.width b.width text.toList, (b.width : Int) ≤ s.offset) ∧
    if Numeral.isShort position then
      called.fits = true ∧ called.longNumber = false ∧
      b.Diagnosed called.buffer head text.toList .white ∧
      head.take b.width <+: (called.buffer.row 0).map Cell.char
    else called.longNumber = true ∧ called.buffer = b := by
  intro words head called
  have low : ∀ c ∈ words, IsLow c := isLow_headline fault nonneg
  have turned : ∀ c ∈ head, isReversed c = true := List.forall_mem_map.mpr fun c listed => (low c listed).turns.1
  have back : head.map reverse = words := by
    rw [List.map_map]
    exact (List.map_congr_left fun c listed => (low c listed).turns.2).trans (List.map_id words)
  -- A line feed is in neither bank, so it is not in reverse video as all of the head is.
  have unbroken : lineFeed ∉ head := by
    intro listed
    have lineFeed_turned := turned _ listed
    rw [isReversed_lineFeed] at lineFeed_turned
    cases lineFeed_turned
  refine ⟨turned, back, fun s => Spot.start_le_offset, ?_⟩
  have ran : called = _ := report_fit fault.kind text position b
  rw [Write.run] at ran
  split at ran
  · next short =>
    have diagnosed := report_diagnosed unbroken b text.toList
    rw [if_pos short, ran, short]
    exact ⟨rfl, rfl, diagnosed, diagnosed.take_prefix_row⟩
  · next long =>
    rw [if_neg long, ran, Bool.eq_false_iff.mpr long]
    exact ⟨rfl, rfl⟩

/-- Five columns are too few for the headline, and what has come of it into the second row is covered by the
text in two cells. -/
theorem report_layout_narrow :
    let b := Buffer.new ⟨5, by decide⟩ ⟨2, by decide⟩
    let called := (Call.report (.text Fault.parsing.kind) (.text "HI") (.int 7)).run b
    (0 : Int) ≤ 7 ∧ Numeral.isShort 7 = true ∧
      called.buffer.cell? 4 = some ⟨reverse 'I', some .white⟩ ∧
      called.buffer.cell? 5 = some ⟨'H', some .white⟩ ∧ called.buffer.cell? 6 = some ⟨'I', some .white⟩ ∧
      called.buffer.cell? 8 = some ⟨reverse 'E', some .white⟩ := by
  intro b called
  have short : Numeral.isShort 7 = true := by decide
  obtain ⟨-, -, -, ran⟩ := report_layout b .parsing "HI" (by decide : (0 : Int) ≤ 7)
  rw [if_pos short] at ran
  obtain ⟨-, -, diagnosed, -⟩ := ran
  refine ⟨by decide, short, ?_, ?_, ?_, ?_⟩
  · exact diagnosed.headed 4 _ (by decide) (by decide +kernel) (by decide +kernel)
  · exact diagnosed.texted 5 'H' (by decide) (by decide +kernel)
  · exact diagnosed.texted 6 'I' (by decide) (by decide +kernel)
  · exact diagnosed.headed 8 _ (by decide) (by decide +kernel) (by decide +kernel)

/-- A position with a digit too many cannot be named, and not even the kind of the fault is put on the grid. -/
theorem report_longPosition :
    let b := Buffer.new ⟨10, by decide⟩ ⟨3, by decide⟩
    let position : Int := 10 ^ Numeral.mostDigits
    let head := (Markup.headline Fault.parsing.kind position).toList.map reverse
    let called := (Call.report (.text Fault.parsing.kind) (.text "x") (.int position)).run b
    0 ≤ position ∧ called.longNumber = true ∧ called.buffer.cell? 0 = some ⟨' ', none⟩ ∧
      ¬ b.Diagnosed called.buffer head ['x'] .white := by
  intro b position head called
  have ran : called = ⟨b, [], false, true⟩ := by
    change (Call.report _ _ _).run b = _
    rw [report_fit, Write.run, Numeral.not_isShort_pow]
    rfl
  have blank : called.buffer.cell? 0 = some ⟨' ', none⟩ := by
    rw [ran]
    rfl
  refine ⟨Int.pow_nonneg (by decide), by rw [ran], blank, fun diagnosed => ?_⟩
  have first : head[0]? = some (reverse 'P') := by
    simp only [head, Markup.headline, String.toList_append, List.map_append]
    rfl
  have shown := diagnosed.headed 0 _ (by decide) (by decide) first
  rw [Int.natCast_zero, blank] at shown
  cases shown

end Unchecked

end C64Screen
