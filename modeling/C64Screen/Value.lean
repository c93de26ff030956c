/-!
# Values

What arrives from a settings table, a JSON text or a caller before its kind has been checked. A truth
value is never an integer, and neither is a float, even a whole one. The entries of a table keep the
order in which they were written.
-/

namespace C64Screen

inductive Value where
  | null
  | bool (b : Bool)
  | int (n : Int)
  | float (x : Float)
  | text (s : String)
  | list (items : List Value)
  | table (entries : List (String × Value))
  /-- A date, a time of day or both, kept as it was written. -/
  | moment (written : String)
  deriving Inhabited

namespace Value

/-- The value of a key in the entries of a table. -/
def lookup (key : String) : List (String × Value) → Option Value
  | [] => none
  | (k, v) :: rest => if k = key then some v else lookup key rest

/-- Gives a key a value: in its place if the key is present, at the end otherwise. -/
def assign (key : String) (v : Value) : List (String × Value) → List (String × Value)
  | [] => [(key, v)]
  | (k, w) :: rest => if k = key then (key, v) :: rest else (k, w) :: assign key v rest

end Value

end C64Screen
