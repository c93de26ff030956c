import C64Screen.Value
import C64Screen.Decimal.Notation
import C64Screen.Text.Numeral
import C64Screen.Text.Quoted

/-!
# Values in messages

How a message quotes a value that was not what it should have been.
-/

namespace C64Screen.Value

mutual

def shown : Value → String
  | .null => "None"
  | .bool true => "True"
  | .bool false => "False"
  | .int n => Numeral.text n
  | .float x => Decimal.ofFloat Decimal.quoted x
  | .text s => Text.quoted s
  | .list items => "[" ++ ", ".intercalate (shownItems items) ++ "]"
  | .table entries => "\x7b" ++ ", ".intercalate (shownEntries entries) ++ "\x7d"
  | .moment written => written

def shownItems : List Value → List String
  | [] => []
  | v :: rest => v.shown :: shownItems rest

def shownEntries : List (String × Value) → List String
  | [] => []
  | (k, v) :: rest => (Text.quoted k ++ ": " ++ v.shown) :: shownEntries rest

end

end C64Screen.Value
