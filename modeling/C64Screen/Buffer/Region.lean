import C64Screen.Buffer

/-!
# Regions

A closed rectangle of columns and rows, with any integers for bounds. Every pair of a column and a row in
it addresses an offset, so a column beyond an edge of the grid lands on a neighbouring row, and what falls
outside the grid altogether is dropped. Whether an offset is covered is settled by arithmetic: the rows
that reach it form an interval.
-/

namespace C64Screen

structure Region where
  left : Int
  top : Int
  right : Int
  bottom : Int
  deriving DecidableEq, Repr

namespace Region

def Covers (r : Region) (width : Nat) (o : Int) : Prop :=
  ∃ x y, r.left ≤ x ∧ x ≤ r.right ∧ r.top ≤ y ∧ y ≤ r.bottom ∧ x + y * width = o

def covers (r : Region) (width : Nat) (o : Int) : Bool :=
  let first := max r.top (-((r.right - o) / width))
  let last := min r.bottom ((o - r.left) / width)
  first ≤ last

theorem covers_iff {r : Region} {width : Nat} (h : 0 < width) {o : Int} :
    r.covers width o = true ↔ r.Covers width o := by
  have hw : (0 : Int) < width := by omega
  simp only [covers, decide_eq_true_eq]
  constructor
  · intro hle
    let y : Int := max r.top (-((r.right - o) / width))
    have hright : -y ≤ (r.right - o) / width := by omega
    have hleft : y ≤ (o - r.left) / width := by omega
    rw [Int.le_ediv_iff_mul_le hw] at hright hleft
    rw [Int.neg_mul] at hright
    exact ⟨o - y * width, y, by omega, by omega, by omega, by omega, by omega⟩
  · rintro ⟨x, y, hl, hr, ht, hb, ho⟩
    have hright : -y ≤ (r.right - o) / width := by
      rw [Int.le_ediv_iff_mul_le hw, Int.neg_mul]; omega
    have hleft : y ≤ (o - r.left) / width := by
      rw [Int.le_ediv_iff_mul_le hw]; omega
    omega

end Region

namespace Buffer

def fillCharRegion (b : Buffer) (char : String) (r : Region) : Buffer :=
  b.fillCharWhere (fun i => r.covers b.width i) char

def fillColourRegion (b : Buffer) (colour : Value) (r : Region) : Buffer :=
  b.fillColourWhere (fun i => r.covers b.width i) colour

end Buffer

end C64Screen
