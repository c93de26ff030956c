/-!
# The order of texts

Texts are ordered by the code points of their characters, a text before those that it begins.
-/

namespace C64Screen.Text

def atMost : List Char → List Char → Bool
  | [], _ => true
  | _ :: _, [] => false
  | a :: as, b :: bs => a.toNat < b.toNat || (a.toNat == b.toNat && atMost as bs)

theorem atMost_total (as bs : List Char) : (atMost as bs || atMost bs as) = true := by
  induction as generalizing bs with
  | nil => simp [atMost]
  | cons a as ih =>
    cases bs with
    | nil => simp [atMost]
    | cons b bs =>
      have := ih bs
      simp only [atMost, Bool.or_eq_true, Bool.and_eq_true, decide_eq_true_eq, beq_iff_eq] at this ⊢
      rcases Nat.lt_trichotomy a.toNat b.toNat with h | h | h
      · exact .inl (.inl h)
      · exact this.imp (fun p => .inr ⟨h, p⟩) (fun p => .inr ⟨h.symm, p⟩)
      · exact .inr (.inl h)

theorem atMost_trans {as bs cs : List Char} (h : atMost as bs = true) (k : atMost bs cs = true) :
    atMost as cs = true := by
  induction as generalizing bs cs with
  | nil => simp [atMost]
  | cons a as ih =>
    cases bs with
    | nil => simp [atMost] at h
    | cons b bs =>
      cases cs with
      | nil => simp [atMost] at k
      | cons c cs =>
        have := @ih bs cs
        simp only [atMost, Bool.or_eq_true, Bool.and_eq_true, decide_eq_true_eq, beq_iff_eq] at h k ⊢
        rcases h with h | ⟨h, h'⟩ <;> rcases k with k | ⟨k, k'⟩
        · exact .inl (by omega)
        · exact .inl (by omega)
        · exact .inl (by omega)
        · exact .inr ⟨by omega, this h' k'⟩

/-- In ascending order, texts that are equal once. -/
def sorted (texts : List String) : List String :=
  texts.eraseDups.mergeSort (fun a b => atMost a.toList b.toList)

end C64Screen.Text
