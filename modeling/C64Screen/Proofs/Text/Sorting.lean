import C64Screen.Text.Order
import Mathlib.Data.String.Basic

/-!
# Texts in order

The order of texts is the one that a linear order on characters gives to lists of them. A sorted list of texts ascends
without repetition, and there is only one such list of the same texts, so in what order they were given does not matter.
-/

namespace C64Screen.Text

theorem atMost_iff {as bs : List Char} : atMost as bs = true ↔ ¬ bs < as := by
  induction as generalizing bs with
  | nil => exact iff_of_true rfl (List.not_lt_nil bs)
  | cons a as ih =>
    cases bs with
    | nil => exact iff_of_false nofun (not_not_intro (List.nil_lt_cons a as))
    | cons b bs =>
      have earlier : a.toNat < b.toNat ↔ a < b := Iff.rfl
      rw [atMost, Bool.or_eq_true, Bool.and_eq_true, decide_eq_true_iff, beq_iff_eq, ih, Char.toNat_inj,
        List.cons_lt_cons_iff, earlier]
      rcases lt_trichotomy a b with below | rfl | above
      · simp [below, below.ne', below.not_gt]
      · simp
      · simp [above, above.ne', above.not_gt]

theorem nodup_eraseDups (texts : List String) : texts.eraseDups.Nodup := by
  cases texts with
  | nil => exact .nil
  | cons text rest =>
    have shorter : (rest.filter fun t => !t == text).length ≤ rest.length := List.length_filter_le ..
    rw [List.eraseDups_cons, List.nodup_cons, List.mem_eraseDups]
    exact ⟨by simp, nodup_eraseDups _⟩
termination_by texts.length

variable {texts names : List String}

theorem mem_sorted {text : String} : text ∈ sorted texts ↔ text ∈ texts := by
  rw [sorted, List.mem_mergeSort, List.mem_eraseDups]

theorem pairwise_sorted (texts : List String) : (sorted texts).Pairwise (· < ·) := by
  have distinct : (sorted texts).Nodup := (List.mergeSort_perm ..).nodup_iff.mpr (nodup_eraseDups texts)
  have ascending : (sorted texts).Pairwise fun a b => atMost a.toList b.toList = true :=
    @List.pairwise_mergeSort _ (fun a b => atMost a.toList b.toList) (fun _ _ _ => atMost_trans)
      (fun _ _ => atMost_total ..) texts.eraseDups
  refine (ascending.and distinct).imp ?_
  rintro a b ⟨least, other⟩
  have unordered : ¬ b < a := mt String.lt_iff_toList_lt.mp (atMost_iff.mp least)
  exact lt_of_le_of_ne (not_lt.mp unordered) other

theorem eq_sorted_iff :
    names = sorted texts ↔ names.Pairwise (· < ·) ∧ ∀ text, text ∈ names ↔ text ∈ texts := by
  constructor
  · rintro rfl
    exact ⟨pairwise_sorted texts, fun _ => mem_sorted⟩
  · rintro ⟨ascending, same⟩
    have distinct : names.Nodup := ascending.imp ne_of_lt
    have perm : names.Perm (sorted texts) := by
      rw [List.perm_ext_iff_of_nodup distinct ((pairwise_sorted texts).imp ne_of_lt)]
      intro text
      rw [same, mem_sorted]
    exact perm.eq_of_pairwise (fun a b _ _ below above => absurd above (lt_asymm below)) ascending
      (pairwise_sorted texts)

end C64Screen.Text
