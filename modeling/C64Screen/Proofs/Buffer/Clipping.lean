import C64Screen.Proofs.Buffer.Overriding

/-!
# Clipping

A buffer on top of a taller one of the same width shows what the taller one shows in its first rows. As
the overlay that writes lay is a matter of the width alone, the shorter buffer takes of it what lies within
its rows, and that is all that clipping does: what is dropped below the last row moves nothing above it and
changes no diagnostic.
-/

namespace C64Screen

namespace Buffer

/-- The grid of a buffer is the first rows of the grid of another. -/
structure IsTopOf (a b : Buffer) : Prop where
  width : a.width = b.width
  height : a.height ≤ b.height
  cells : a.cells.toList = b.cells.toList.take (a.width * a.height)

/-- Said cell by cell: within the shorter grid both hold the same. -/
theorem isTopOf_iff {a b : Buffer} :
    a.IsTopOf b ↔
      a.width = b.width ∧ a.height ≤ b.height ∧ ∀ o, a.Holds o → a.cell? o = b.cell? o := by
  constructor
  · rintro ⟨width, height, cells⟩
    refine ⟨width, height, fun o inside => ?_⟩
    obtain ⟨nonneg, bounded⟩ := inside
    have below : o.toNat < a.width * a.height := by
      rw [size] at bounded
      omega
    have := congrArg (·[o.toNat]?) cells
    simpa [cell?, nonneg, List.getElem?_take, below] using this
  · rintro ⟨width, height, cells⟩
    refine ⟨width, height, List.ext_getElem? fun i => ?_⟩
    by_cases below : i < a.width * a.height
    · have inside : a.Holds i := by
        rw [Holds, size]
        omega
      have := cells i inside
      simpa [cell?, List.getElem?_take, below] using this
    · have short : a.cells.toList.length ≤ i := by
        rw [Array.length_toList, a.size_cells]
        omega
      have cut : (b.cells.toList.take (a.width * a.height)).length ≤ i := by
        rw [List.length_take]
        omega
      rw [List.getElem?_eq_none short, List.getElem?_eq_none cut]

theorem IsTopOf.lay {a b : Buffer} (h : a.IsTopOf b) (p : Overlay) : (a.lay p).IsTopOf (b.lay p) := by
  obtain ⟨width, height, cells⟩ := isTopOf_iff.mp h
  apply isTopOf_iff.mpr
  refine ⟨width, height, fun o inside => ?_⟩
  rw [cell?_lay, cell?_lay, cells o inside]

end Buffer

namespace Write

open Buffer

/-- Writes to the top of a buffer leave what they leave there on the whole of it, and report the same. -/
theorem runAll_clipped (writes : List Write) (a b : Buffer) (top : a.IsTopOf b) :
    (runAll a writes).1.width = a.width ∧ (runAll a writes).1.height = a.height ∧
      (runAll a writes).1.IsTopOf (runAll b writes).1 ∧
      (runAll a writes).2 = (runAll b writes).2 := by
  obtain ⟨p, events, laid⟩ := runAll_settled a.width writes
  have onTop : runAll a writes = (a.lay p, events) := laid a rfl
  have below : runAll b writes = (b.lay p, events) := laid b top.width.symm
  rw [onTop, below]
  exact ⟨rfl, rfl, top.lay p, rfl⟩

/-- The text runs off the shorter buffer and stops at a fault that is found beyond its end. -/
theorem runAll_clipped_fault :
    let a := Buffer.new ⟨4, by decide⟩ ⟨1, by decide⟩
    let b := Buffer.new ⟨4, by decide⟩ ⟨3, by decide⟩
    let writes : List Write :=
      [.fillCharRegion "*" ⟨3, 0, 5, 7⟩, .putCharXY "-" 9 (-1),
       .interpret ['A', '\n', 'B', '\n', 'C', '{', 'X'] (some (-1)) (.int 3)]
    a.IsTopOf b ∧ (runAll a writes).1.IsTopOf (runAll b writes).1 ∧
      (runAll a writes).2 = (runAll b writes).2 := by
  intro a b writes
  have top : a.IsTopOf b := ⟨rfl, by decide, rfl⟩
  obtain ⟨-, -, still, events⟩ := runAll_clipped writes a b top
  exact ⟨top, still, events⟩

end Write

end C64Screen
