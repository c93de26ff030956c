import C64Screen.Proofs.Json.Reading
import C64Screen.Screen.Payload

/-!
# Payloads on a line

The value of a payload holds integers, texts and lists of them under four different keys, so what is written for
it is read back, and it is the value of no other payload. So one line holds one payload.
-/

namespace C64Screen

namespace Payload

theorem exact_colourValue (c : Option Colour) : Json.Exact (colourValue c) := by
  cases c with
  | none => exact .null
  | some c => exact .int c.toInt

theorem exact_toValue (p : Payload) : Json.Exact p.toValue := by
  have distinct : ["width", "height", "rows", "colours"].Nodup := by decide
  refine .table distinct ?_
  simp only [List.forall_mem_cons]
  refine ⟨.int p.width, .int p.height, .list ?_, .list ?_, nofun⟩
  · intro v listed
    obtain ⟨row, -, rfl⟩ := List.mem_map.mp listed
    exact .text row
  · intro v listed
    obtain ⟨row, -, rfl⟩ := List.mem_map.mp listed
    refine .list ?_
    intro v listed
    obtain ⟨c, -, rfl⟩ := List.mem_map.mp listed
    exact exact_colourValue c

theorem ofValue?_colourValue (c : Option Colour) : Colour.ofValue? (colourValue c) = c := by
  cases c with
  | none => rfl
  | some c => exact c.ofValue?_toValue

theorem colourValue_injective : Function.Injective colourValue :=
  Function.LeftInverse.injective ofValue?_colourValue

/-- Each of the four entries gives one part of the payload back. -/
theorem toValue_injective : Function.Injective toValue := by
  intro p q same
  simp only [toValue, Value.table.injEq, List.cons.injEq, Prod.mk.injEq, Value.int.injEq,
    Value.list.injEq] at same
  obtain ⟨⟨-, width⟩, ⟨-, height⟩, ⟨-, rows⟩, ⟨-, colours⟩, -⟩ := same
  have texts : Function.Injective Value.text := fun _ _ => Value.text.inj
  have lists : Function.Injective fun row : List (Option Colour) => Value.list (row.map colourValue) :=
    fun _ _ h => colourValue_injective.list_map (Value.list.inj h)
  cases p
  cases q
  obtain rfl := Int.ofNat.inj width
  obtain rfl := Int.ofNat.inj height
  obtain rfl := texts.list_map rows
  obtain rfl := lists.list_map colours
  rfl

/-- The line is a text for the payload and for no other. -/
structure OnLine (p : Payload) (line : List Char) : Prop where
  unbroken : lineFeed ∉ line
  isText : Json.IsText line p.toValue
  read : Json.read? line = some p.toValue
  only : ∀ q : Payload, Json.IsText line q.toValue → q = p

theorem onLine_write (p : Payload) : p.OnLine (Json.write p.toValue) where
  unbroken := by
    intro listed
    exact absurd (Json.printed_write p.exact_toValue _ listed) (by decide)
  isText := Json.isText_write p.exact_toValue
  read := Json.read?_write p.exact_toValue
  only q text := toValue_injective (text.unique (Json.isText_write p.exact_toValue))

end Payload

end C64Screen
