import C64Screen.Proofs.Markup.Scanning

/-!
# Runs of joined texts

A text that runs to its end leaves everything that the run of a text behind it depends on in the buffer and
the cursor. So the second text may as well be run by itself from there: it does the same and stops for the
same reason, with positions that count from its own start.
-/

namespace C64Screen.Markup

def Halt.shift (k : Nat) : Halt → Halt
  | .broken fault position => .broken fault (k + position)
  | .adrift position => .adrift (k + position)

def Stop.shift (k : Nat) (stop : Stop) : Stop := { stop with halt := stop.halt.map (Halt.shift k) }

theorem Ending.run_shift (e : Ending) (s : State) (k index : Nat) :
    e.run s (k + index) = (e.run s index).shift k := by
  cases e with
  | complete => rfl
  | broken fault ahead =>
    rw [Ending.run, Nat.add_assoc]
    rfl
  | unclosed effect ahead =>
    rw [Ending.run, Ending.run]
    split
    · rw [Nat.add_assoc]
      rfl
    · rw [Nat.add_assoc]
      rfl

theorem runItems_shift (ending : Ending) (s : State) (k index : Nat) (items : List Item) :
    runItems ending s (k + index) items = (runItems ending s index items).shift k := by
  induction items generalizing s index with
  | nil => exact ending.run_shift s k index
  | cons i items ih =>
    rw [runItems, runItems]
    split
    · rw [Nat.add_assoc, ih]
    · rw [Nat.add_assoc]
      rfl

/-- The index of the first character has no part in a run but to count positions from it. -/
theorem run_shift (s : State) (k : Nat) (text : List Char) :
    run s k text = (run s 0 text).shift k :=
  runItems_shift (Script.ofText text).ending s k 0 (Script.ofText text).items

theorem run_append_of_done {d : Draft} {index : Nat} {first : List Char}
    (done : (run d.state index first).halt = none) (second : List Char) :
    run d.state index (first ++ second) =
      run (run d.state index first).state (index + first.length) second := by
  obtain ⟨items, rfl⟩ := exists_items_of_run done
  rw [run_spell_append, run_spell]

/-- The run of two texts joined is the run of the first and then that of the second by itself, read by
position as well as by items. -/
theorem run_joined (b : Buffer) (first second : List Char) (offset : Int) (colour : Value)
    (done : (run ⟨b, .start (some offset) colour⟩ 0 first).halt = none) :
    let start : State := ⟨b, .start (some offset) colour⟩
    let middle := (run start 0 first).state
    let whole := run start 0 (first ++ second)
    let alone := run middle 0 second
    (whole.halt = none ↔ alone.halt = none) ∧
      whole.state = alone.state ∧
      whole.halt = alone.halt.map (Halt.shift first.length) ∧
      scan (first ++ second) ⟨start, 0⟩ = whole ∧
      scan (first ++ second) ⟨middle, first.length⟩ = whole ∧
      scan second ⟨middle, 0⟩ = alone := by
  intro start middle whole alone
  have continued : whole = run middle first.length second := by
    have := run_append_of_done (d := .start b offset colour) done second
    rwa [Nat.zero_add] at this
  have shifted : whole = alone.shift first.length := continued.trans (run_shift ..)
  refine ⟨?_, ?_, ?_, scan_eq_run .., ?_, scan_eq_run ..⟩
  · rw [shifted]
    exact Option.map_eq_none_iff
  · rw [shifted]
    rfl
  · rw [shifted]
    rfl
  · rw [scan_eq_run, List.drop_left, continued]

/-- The second text starts in reverse video and stops five characters into itself. -/
theorem run_joined_reverse :
    let start : State := ⟨.new ⟨8, by decide⟩ ⟨2, by decide⟩, .start (some 3) (.int 1)⟩
    let first := ['A', '{', 'R', 'O', 'N', '}']
    let second := ['{', 'C', 'L', 'R']
    (run start 0 first).halt = none ∧
      (run (run start 0 first).state 0 second).halt = some (.broken .parsing 5) ∧
      (run start 0 (first ++ second)).halt = some (.broken .parsing 11) := by
  intro start first second
  have done : (run start 0 first).halt = none := by decide +kernel
  have alone : (run (run start 0 first).state 0 second).halt = some (.broken .parsing 5) := by
    decide +kernel
  obtain ⟨-, -, halt, -⟩ := run_joined _ first second 3 (.int 1) done
  rw [alone] at halt
  exact ⟨done, alone, halt⟩

end C64Screen.Markup
