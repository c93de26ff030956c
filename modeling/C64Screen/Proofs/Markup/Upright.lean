import C64Screen.Proofs.Charset.Reversal
import C64Screen.Proofs.Markup.Outcome
import C64Screen.Proofs.Markup.Whereabouts

/-!
# Markup without reverse video

Reverse video can be written out. The tokens that switch it on and off are left out, and each character is written
as it would have been shown. Whatever is written out in this way, no opening brace and no line feed comes up where
there was none, for neither is a glyph, so the items stay what they are. A run of the one text goes along with a
run of the other, item by item, and apart from the direction of video the two drafts are the same.
-/

namespace C64Screen.Markup

theorem reverse_ne_tokenStart {c : Char} (other : c ≠ tokenStart) : Charset.reverse c ≠ tokenStart :=
  Charset.reverse_ne (by decide +kernel) other

/-- The items that do the same without reverse video, for an item that is met with the video reversed or not. -/
def Item.recast (reverse : Bool) : Item → List Item
  | .plain c brace =>
    if reverse ∧ c ≠ C64Screen.lineFeed then [.plain (Charset.reverse c) (reverse_ne_tokenStart brace)]
    else [.plain c brace]
  | .bare .reverseOn _ | .bare .reverseOff _ => []
  | i => [i]

def recast (reverse : Bool) : List Item → List Item
  | [] => []
  | i :: rest => i.recast reverse ++ recast (i.video?.getD reverse) rest

theorem Item.video?_of_mem_recast {i j : Item} {reverse : Bool} (listed : j ∈ i.recast reverse) :
    j.video? = none := by
  cases i with
  | plain c brace =>
    rw [recast] at listed
    split at listed <;> obtain rfl := List.mem_singleton.mp listed <;> rfl
  | bare name closing =>
    cases name with
    | reverseOn => cases listed
    | reverseOff => cases listed
    | clear => obtain rfl := List.mem_singleton.mp listed; rfl
    | home => obtain rfl := List.mem_singleton.mp listed; rfl
  | numeric name separator field closing => obtain rfl := List.mem_singleton.mp listed; rfl

theorem video?_of_mem_recast {items : List Item} {i : Item} {reverse : Bool} (listed : i ∈ recast reverse items) :
    i.video? = none := by
  induction items generalizing reverse with
  | nil => cases listed
  | cons j rest ih =>
    rcases List.mem_append.mp listed with here | later
    · exact Item.video?_of_mem_recast here
    · exact ih later

namespace Draft

/-- The same draft with the pen out of reverse video. -/
def upright (d : Draft) : Draft := { d with pen := { d.pen with reverse := false } }

theorem reverse_apply_item (d : Draft) (i : Item) :
    (d.apply i.effect).pen.reverse = i.video?.getD d.pen.reverse := by
  cases i with
  | plain c brace =>
    rw [Item.effect]
    split <;> rfl
  | bare name closing => cases name <;> rfl
  | numeric name separator field closing => cases name <;> rfl

theorem upright_apply_write (d : Draft) (c : Char) :
    (d.apply (.write c)).upright = d.upright.apply (.write (d.pen.cursor.shown c)) := rfl

/-- One item, and the items that take its place. -/
theorem upright_apply (d : Draft) (i : Item) :
    (d.apply i.effect).upright = d.upright.applyAll (i.recast d.pen.reverse) := by
  cases i with
  | plain c brace =>
    rw [Item.recast]
    -- A line feed draws nothing, so reverse video is nothing to it.
    by_cases feed : c = C64Screen.lineFeed
    · have kept : ¬ (d.pen.reverse ∧ c ≠ C64Screen.lineFeed) := fun turns => turns.2 feed
      rw [if_neg kept, applyAll_cons, applyAll_nil, Item.effect, if_pos feed]
      rfl
    · by_cases video : d.pen.reverse
      · have shown : d.pen.cursor.shown c = Charset.reverse c := if_pos video
        have turned : Charset.reverse c ≠ C64Screen.lineFeed := Charset.reverse_ne_lineFeed feed
        rw [if_pos ⟨video, feed⟩, applyAll_cons, applyAll_nil, Item.effect, Item.effect, if_neg feed,
          if_neg turned, upright_apply_write, shown]
      · have shown : d.pen.cursor.shown c = c := if_neg video
        have kept : ¬ (d.pen.reverse ∧ c ≠ C64Screen.lineFeed) := fun turns => video turns.1
        rw [if_neg kept, applyAll_cons, applyAll_nil, Item.effect, if_neg feed, upright_apply_write, shown]
  | bare name closing => cases name <;> rfl
  | numeric name separator field closing => cases name <;> rfl

theorem upright_applyAll (d : Draft) (items : List Item) :
    (d.applyAll items).upright = d.upright.applyAll (recast d.pen.reverse items) := by
  induction items generalizing d with
  | nil => rfl
  | cons i rest ih => rw [applyAll_cons, ih, upright_apply, reverse_apply_item, recast, applyAll_append]

theorem recast_append (d : Draft) (before rest : List Item) :
    recast d.pen.reverse (before ++ rest) =
      recast d.pen.reverse before ++ recast (d.applyAll before).pen.reverse rest := by
  induction before generalizing d with
  | nil => rfl
  | cons i before ih =>
    rw [List.cons_append, recast, recast, ← reverse_apply_item, ih, List.append_assoc]
    rfl

end Draft

/-- A text that is run to its end and the text that reverse video is left out of come to the same end. Each item is
recast with the direction of video that the run has come to in front of it. -/
theorem interpret_recast (b : Buffer) (text : List Char) (offset : Int) (colour : Value)
    (done : (run ⟨b, .start (some offset) colour⟩ 0 text).halt = none) :
    ∃ items, (∀ others, spell others = text ↔ others = items) ∧
      (∀ before i rest, items = before ++ i :: rest →
        let reached := (run ⟨b, .start (some offset) colour⟩ 0 (spell before)).state.cursor
        let next := (run ⟨b, .start (some offset) colour⟩ 0 (spell (before ++ [i]))).state.cursor
        recast false items = recast false before ++ i.recast reached.reverse ++ recast next.reverse rest) ∧
      (∀ i ∈ recast false items, i.video? = none) ∧
      (run ⟨b, .start (some offset) colour⟩ 0 (spell (recast false items))).halt = none ∧
      interpret b (spell (recast false items)) (some offset) colour = interpret b text (some offset) colour := by
  obtain ⟨items, rfl⟩ := exists_items_of_run (d := .start b offset colour) done
  refine ⟨items, fun _ => spell_inj, ?_, ?_, ?_, ?_⟩
  · rintro before i rest rfl
    dsimp only
    have parts := Draft.recast_append (.start b offset colour) before (i :: rest)
    rw [recast, ← Draft.reverse_apply_item] at parts
    rw [run_start_spell, run_start_spell, Draft.applyAll_append, List.append_assoc]
    exact parts
  · intro i listed
    exact video?_of_mem_recast listed
  · rw [run_start_spell]
  · have together := Draft.upright_applyAll (.start b offset colour) items
    rw [interpret_spell, interpret_spell]
    exact congrArg (fun d => (d.buffer, [])) together.symm

/-- Clearing and a line feed do not end reverse video, and a character outside both banks is shown as it is. -/
theorem interpret_recast_mixed :
    let b := Buffer.new ⟨3, by decide⟩ ⟨2, by decide⟩
    let before : List Item := [.bare .reverseOn '}', .plain 'x' (by decide), .bare .clear '}']
    let after : List Item := [.plain '\n' (by decide), .plain 'ß' (by decide), .bare .reverseOff ')', .plain 'A' (by decide)]
    let items := before ++ .plain 'A' (by decide) :: after
    let text := [Charset.reverse 'x', '{', 'C', 'L', 'R', '}', Charset.reverse 'A', '\n', 'ß', 'A']
    (run ⟨b, .start (some 1) (.int 5)⟩ 0 (spell items)).halt = none ∧
      (run ⟨b, .start (some 1) (.int 5)⟩ 0 text).halt = none ∧
      interpret b text (some 1) (.int 5) = interpret b (spell items) (some 1) (.int 5) := by
  intro b before after items text
  have done : (run ⟨b, .start (some 1) (.int 5)⟩ 0 (spell items)).halt = none := by rw [run_start_spell]
  obtain ⟨found, same, -, -, ends, drawn⟩ := interpret_recast b (spell items) 1 (.int 5) done
  obtain rfl : items = found := (same items).mp rfl
  have written : spell (recast false items) = text := by decide +kernel
  rw [written] at ends drawn
  exact ⟨done, ends, drawn⟩

end C64Screen.Markup
