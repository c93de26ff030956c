import C64Screen.Value.Shown

/-!
# Values of any kind

What can be made of a value where its kind has not been settled: whether it is true, which parts it has,
and sums and multiples of values. A truth value counts as a number here, and a float is a number that is
never whole.
-/

namespace C64Screen

inductive Number where
  | whole (n : Int)
  | real (x : Float)

namespace Number

def toFloat : Number → Float
  | .whole n => Float.ofInt n
  | .real x => x

def add : Number → Number → Number
  | .whole m, .whole n => .whole (m + n)
  | m, n => .real (m.toFloat + n.toFloat)

def times (count : Nat) : Number → Number
  | .whole n => .whole (n * count)
  | .real x => .real (x * Float.ofNat count)

def isBelow (limit : Nat) : Number → Bool
  | .whole n => 0 ≤ n && n < limit
  | .real x => 0 ≤ x && x < Float.ofNat limit

/-- Without what is behind the point. -/
def truncated : Number → Int
  | .whole n => n
  | .real x => x.toInt64.toInt

def toValue : Number → Value
  | .whole n => .int n
  | .real x => .float x

end Number

namespace Value

def number? : Value → Option Number
  | .bool b => some (.whole (if b then 1 else 0))
  | .int n => some (.whole n)
  | .float x => some (.real x)
  | _ => none

/-- Zero is not true, and neither is what is empty. -/
def isTrue : Value → Bool
  | .null => false
  | .bool b => b
  | .int n => n ≠ 0
  | .float x => x != 0
  | .text s => s ≠ ""
  | .list items => !items.isEmpty
  | .table entries => !entries.isEmpty
  | .moment _ => true

/-- The characters of a text, the items of a list or the keys of a table. -/
def parts? : Value → Option (List Value)
  | .text s => some (s.toList.map (fun c => .text (String.singleton c)))
  | .list items => some items
  | .table entries => some (entries.map (fun e => .text e.1))
  | _ => none

def isText (s : String) : Value → Bool
  | .text t => t = s
  | _ => false

/-- A text as it stands, and anything else as a message quotes it. -/
def spoken : Value → String
  | .text s => s
  | v => v.shown

/-- Numbers are added, texts and lists are joined. -/
def plus? (v w : Value) : Option Value :=
  match v.number?, w.number?, v, w with
  | some m, some n, _, _ => some (m.add n).toValue
  | _, _, .text s, .text t => some (.text (s ++ t))
  | _, _, .list xs, .list ys => some (.list (xs ++ ys))
  | _, _, _, _ => none

/-- Texts and lists are repeated. -/
def times? (count : Nat) (v : Value) : Option Value :=
  match v.number?, v with
  | some n, _ => some (n.times count).toValue
  | none, .text s => some (.text (String.join (List.replicate count s)))
  | none, .list items => some (.list (List.replicate count items).flatten)
  | none, _ => none

end Value

end C64Screen
