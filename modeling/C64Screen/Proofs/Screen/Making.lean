import C64Screen.Proofs.Buffer.Puts
import C64Screen.Proofs.Value.Kinds
import C64Screen.Screen

/-!
# Making screens

What comes of the sizes that a screen is asked for, when it is made and when it is resized. They are looked at
in a fixed order, the first that is refused settles the outcome, and if none is, there is a screen whose buffer
is new, filled with spaces and then with the cursor colour.
-/

namespace C64Screen

namespace Buffer

theorem modifyWhere_filled (cell : Cell) (width height : Size) (f : Cell → Cell) :
    (filled cell width height).modifyWhere (fun _ => true) f = filled (f cell) width height := by
  refine ext_cell? rfl rfl fun o => ?_
  rw [cell?_modifyWhere, cell?_filled, cell?_filled]
  change Option.map f (if (filled cell width height).Holds o then some cell else none) =
    if (filled cell width height).Holds o then some (f cell) else none
  split
  · rfl
  · rfl

/-- A new buffer filled with spaces and with a colour. -/
theorem fill_new (cursor : Colour) (width height : Size) :
    ((Buffer.new width height).fillChar " ").fillColour cursor.toValue =
      Screen.blankBuffer cursor width height := by
  calc
    ((Buffer.new width height).fillChar " ").fillColour cursor.toValue
      = ((Buffer.new width height).modifyWhere (fun _ => true) (Cell.withChar ' ')).fillColour
          cursor.toValue := rfl
    _ = (filled Cell.blank width height).fillColour cursor.toValue := by
      rw [new, modifyWhere_filled]
      rfl
    _ = (filled Cell.blank width height).modifyWhere (fun _ => true) (Cell.withColour cursor) := by
      rw [fillColour, fillColourWhere, Colour.ofValue?_toValue]
    _ = Screen.blankBuffer cursor width height := modifyWhere_filled ..

end Buffer

namespace Screen

theorem resize_toValue (s : Screen) (width height : Size) :
    s.resize width.toValue height.toValue = .ok (s.allocate width height) := by
  rw [resize, Quantity.require_toValue, Quantity.require_toValue]
  rfl

theorem resize_refused {width height : Value} {e : ScreenError}
    (refused : Quantity.firstRefused? [(.width, width), (.height, height)] = some e) (s : Screen) :
    s.resize width height = .error e := Quantity.require_both_refused refused _

/-- The screen made from options whose sizes are these, still without a test picture. -/
def bare (o : Options) (fontSize width height : Size) : Screen where
  buffer := blankBuffer ((Colour.ofValue? o.cursor).getD defaultCursor) width height
  border := (Colour.ofValue? o.border).getD defaultBorder
  background := (Colour.ofValue? o.background).getD defaultBackground
  cursor := (Colour.ofValue? o.cursor).getD defaultCursor
  fontSize := fontSize
  charsEnabled := true
  coloursEnabled := true

variable {o : Options} {fontSize width height : Size}

/-- Either all three sizes are accepted, or the font size is not, or else one of the dimensions. -/
theorem sizes_cases (o : Options) :
    (∃ n w h : Size, o.fontSize = n.toValue ∧ o.width = w.toValue ∧ o.height = h.toValue) ∨
      ¬ o.fontSize.IsSize ∨
      ∃ (n : Size) (e : ScreenError), o.fontSize = n.toValue ∧
        Quantity.firstRefused? [(.width, o.width), (.height, o.height)] = some e := by
  by_cases sized : o.fontSize.IsSize
  · obtain ⟨n, size⟩ := Size.isSize_iff.mp sized
    cases found : Quantity.firstRefused? [(.width, o.width), (.height, o.height)] with
    | none =>
      obtain ⟨w, h, columns, lines⟩ := Quantity.sizes_of_not_refused found
      exact .inl ⟨n, w, h, size, columns, lines⟩
    | some e => exact .inr (.inr ⟨n, e, size, rfl⟩)
  · exact .inr (.inl sized)

theorem ofOptions_of_sizes (size : o.fontSize = fontSize.toValue) (columns : o.width = width.toValue)
    (lines : o.height = height.toValue) :
    ofOptions o =
      .ok (if o.testPicture then (bare o fontSize width height).printTestPicture
        else bare o fontSize width height, [.allocated width.val height.val]) := by
  rw [ofOptions, size, columns, lines, Quantity.require_toValue, Quantity.require_toValue,
    Quantity.require_toValue]
  rfl

theorem ofOptions_of_fontSize_refused (refused : ¬ o.fontSize.IsSize) :
    ofOptions o = .error (.notPositive .fontSize o.fontSize) := by
  rw [ofOptions, Quantity.require_of_not_isSize refused]
  rfl

theorem ofOptions_refused (size : o.fontSize = fontSize.toValue) {e : ScreenError}
    (refused : Quantity.firstRefused? [(.width, o.width), (.height, o.height)] = some e) :
    ofOptions o = .error e := by
  rw [ofOptions, size, Quantity.require_toValue]
  exact Quantity.require_both_refused refused _

end Screen

end C64Screen
