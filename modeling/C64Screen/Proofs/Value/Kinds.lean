import C64Screen.Colour

/-!
# Values that are colours, values that are sizes

Said without the types `Colour` and `Size`: which values are taken for a colour, and which for a width, a
height or a font size. Truth values and floats are neither.
-/

namespace C64Screen

namespace Value

def IsColour : Value → Prop
  | .int n => 0 ≤ n ∧ n ≤ 15
  | _ => False

def IsSize : Value → Prop
  | .int n => 0 < n
  | _ => False

instance : DecidablePred IsColour
  | .int n => inferInstanceAs (Decidable (0 ≤ n ∧ n ≤ 15))
  | .null | .bool _ | .float _ | .text _ | .list _ | .table _ | .moment _ =>
    inferInstanceAs (Decidable False)

instance : DecidablePred IsSize
  | .int n => inferInstanceAs (Decidable (0 < n))
  | .null | .bool _ | .float _ | .text _ | .list _ | .table _ | .moment _ =>
    inferInstanceAs (Decidable False)

end Value

theorem Colour.isColour_toValue (c : Colour) : c.toValue.IsColour := by
  have := c.code_lt
  simp only [toValue, toInt, Value.IsColour]
  omega

theorem Colour.isColour_iff {v : Value} : v.IsColour ↔ ∃ c : Colour, v = c.toValue := by
  have found : v.IsColour ↔ (ofValue? v).isSome = true := by
    cases v with
    | int n =>
      rw [ofValue?, ofInt?_isSome_iff, Value.IsColour]
      omega
    | _ => simp [Value.IsColour, ofValue?]
  rw [found, Option.isSome_iff_exists]
  exact exists_congr fun c => ofValue?_eq_some_iff

theorem Colour.ofValue?_of_not_isColour {v : Value} (other : ¬ v.IsColour) : ofValue? v = none :=
  Option.eq_none_iff_forall_ne_some.mpr fun c found =>
    other (isColour_iff.mpr ⟨c, ofValue?_eq_some_iff.mp found⟩)

/-- What is no colour leaves the colour there was. -/
theorem Colour.toValue_getD (v : Value) (c : Colour) :
    ((ofValue? v).getD c).toValue = if v.IsColour then v else c.toValue := by
  split
  · next colour =>
    obtain ⟨d, rfl⟩ := isColour_iff.mp colour
    rw [ofValue?_toValue]
    rfl
  · next other =>
    rw [ofValue?_of_not_isColour other]
    rfl

theorem Size.isSize_toValue (s : Size) : s.toValue.IsSize := by
  have := s.pos
  simp only [toValue, toInt, Value.IsSize]
  omega

theorem Size.isSize_iff {v : Value} : v.IsSize ↔ ∃ s : Size, v = s.toValue := by
  constructor
  · intro size
    cases v with
    | int n =>
      have pos : 0 < n := size
      refine ⟨⟨n.toNat, by omega⟩, ?_⟩
      rw [toValue, toInt, Int.toNat_of_nonneg (by omega)]
    | _ => exact size.elim
  · rintro ⟨s, rfl⟩
    exact s.isSize_toValue

namespace Quantity

theorem require_of_not_isSize {v : Value} (refused : ¬ v.IsSize) (quantity : Quantity) :
    quantity.require v = .error (.notPositive quantity v) := by
  rw [require]
  cases found : Size.ofValue? v with
  | none => rfl
  | some size => exact absurd (Size.isSize_iff.mpr ⟨size, Size.ofValue?_eq_some_iff.mp found⟩) refused

/-- The first of some values that is refused as a size. -/
def firstRefused? : List (Quantity × Value) → Option ScreenError
  | [] => none
  | (quantity, v) :: rest => if v.IsSize then firstRefused? rest else some (.notPositive quantity v)

theorem firstRefused?_eq_none_iff {values : List (Quantity × Value)} :
    firstRefused? values = none ↔ ∀ x ∈ values, x.2.IsSize := by
  induction values with
  | nil => exact ⟨fun _ _ listed => (List.not_mem_nil listed).elim, fun _ => rfl⟩
  | cons x rest ih =>
    obtain ⟨quantity, v⟩ := x
    rw [firstRefused?, List.forall_mem_cons]
    by_cases accepted : v.IsSize
    · rw [if_pos accepted, ih]
      exact ⟨fun others => ⟨accepted, others⟩, And.right⟩
    · rw [if_neg accepted]
      exact ⟨nofun, fun all => absurd all.1 accepted⟩

theorem firstRefused?_eq_some {values : List (Quantity × Value)} {e : ScreenError}
    (refused : firstRefused? values = some e) :
    ∃ x ∈ values, ¬ x.2.IsSize ∧ e = .notPositive x.1 x.2 := by
  induction values with
  | nil => cases refused
  | cons x rest ih =>
    obtain ⟨quantity, v⟩ := x
    rw [firstRefused?] at refused
    split at refused
    · obtain ⟨y, listed, found⟩ := ih refused
      exact ⟨y, List.mem_cons_of_mem _ listed, found⟩
    · next notSize =>
      cases refused
      exact ⟨(quantity, v), List.mem_cons_self, notSize, rfl⟩

theorem firstRefused?_singleton {quantity : Quantity} {v : Value} {e : ScreenError} :
    firstRefused? [(quantity, v)] = some e ↔ ¬ v.IsSize ∧ .notPositive quantity v = e := by
  by_cases accepted : v.IsSize <;> simp [firstRefused?, accepted]

variable {width height : Value}

theorem sizes_of_not_refused
    (accepted : firstRefused? [(.width, width), (.height, height)] = none) :
    ∃ w h : Size, width = w.toValue ∧ height = h.toValue := by
  rw [firstRefused?_eq_none_iff] at accepted
  obtain ⟨w, columns⟩ := Size.isSize_iff.mp (accepted (.width, width) (by simp))
  obtain ⟨h, lines⟩ := Size.isSize_iff.mp (accepted (.height, height) (by simp))
  exact ⟨w, h, columns, lines⟩

theorem refused_cases {e : ScreenError}
    (refused : firstRefused? [(.width, width), (.height, height)] = some e) :
    (¬ width.IsSize ∧ e = .notPositive .width width) ∨
      ∃ w : Size, width = w.toValue ∧ ¬ height.IsSize ∧ e = .notPositive .height height := by
  by_cases columns : width.IsSize
  · obtain ⟨w, size⟩ := Size.isSize_iff.mp columns
    rw [firstRefused?, if_pos columns, firstRefused?_singleton] at refused
    exact .inr ⟨w, size, refused.1, refused.2.symm⟩
  · rw [firstRefused?, if_neg columns] at refused
    exact .inl ⟨columns, (Option.some.inj refused).symm⟩

/-- Where a width and a height are both required, the first that is refused settles the outcome. -/
theorem require_both_refused {e : ScreenError} {α : Type}
    (refused : firstRefused? [(.width, width), (.height, height)] = some e)
    (next : Size → Size → Except ScreenError α) :
    (do
      let w ← Quantity.width.require width
      let h ← Quantity.height.require height
      next w h) = .error e := by
  rcases refused_cases refused with ⟨notSize, rfl⟩ | ⟨w, rfl, notSize, rfl⟩
  · rw [require_of_not_isSize notSize]
    rfl
  · rw [require_toValue, require_of_not_isSize notSize]
    rfl

end Quantity

end C64Screen
