import C64Screen.Size
import C64Screen.Value.Shown

/-!
# Refused arguments

Writing never fails: what cannot be written is dropped. Sizes, colours and offsets that a screen cannot
do without are refused, with the value that was received.
-/

namespace C64Screen

inductive Quantity where
  | width
  | height
  | fontSize
  deriving DecidableEq, Repr

def Quantity.name : Quantity → String
  | .width => "width"
  | .height => "height"
  | .fontSize => "font size"

inductive ScreenError where
  | notPositive (quantity : Quantity) (received : Value)
  | notAColour (received : Value)
  | outside (offset : Value) (cells : Nat)

def ScreenError.message : ScreenError → String
  | .notPositive quantity received =>
    quantity.name ++ " must be a positive integer, received " ++ received.shown
  | .notAColour received => "colour " ++ received.shown ++ " outside supported range 0-15"
  | .outside offset cells =>
    "offset " ++ offset.shown ++ " outside screen of " ++ Numeral.text cells ++ " cells"

def Quantity.require (quantity : Quantity) (v : Value) : Except ScreenError Size :=
  match Size.ofValue? v with
  | some s => .ok s
  | none => .error (.notPositive quantity v)

@[simp] theorem Quantity.require_toValue (quantity : Quantity) (s : Size) :
    quantity.require s.toValue = .ok s := by simp [Quantity.require]

end C64Screen
