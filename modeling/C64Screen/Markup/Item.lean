import C64Screen.Buffer.Placement
import C64Screen.Unicode.DecimalDigit

/-!
# Items of markup

Markup is a sequence of items. An item is a single character other than an opening brace, or a token: a
brace, a name of three letters and a closing character, with a separator and a field of two characters in
front of the closing character if the name takes a number. Separator and closing character are any
characters. What an item does to a cursor and a buffer is its effect.
-/

namespace C64Screen.Markup

open Unicode

def tokenStart : Char := '{'

/-- Names that stand alone. -/
inductive Bare where
  | clear
  | home
  | reverseOn
  | reverseOff
  deriving DecidableEq, Repr

/-- Names that take a number. -/
inductive Numeric where
  | up
  | down
  | forward
  | back
  | colour
  deriving DecidableEq, Repr

inductive Name where
  | bare (n : Bare)
  | numeric (n : Numeric)
  deriving DecidableEq, Repr

def Bare.letters : Bare → List Char
  | .clear => ['C', 'L', 'R']
  | .home => ['H', 'O', 'M']
  | .reverseOn => ['R', 'O', 'N']
  | .reverseOff => ['R', 'O', 'F']

/-- `CLT` moves forward and `CRT` back. -/
def Numeric.letters : Numeric → List Char
  | .up => ['C', 'U', 'P']
  | .down => ['C', 'D', 'N']
  | .forward => ['C', 'L', 'T']
  | .back => ['C', 'R', 'T']
  | .colour => ['C', 'O', 'L']

def Name.letters : Name → List Char
  | .bare n => n.letters
  | .numeric n => n.letters

def Name.all : List Name :=
  [.bare .clear, .bare .home, .numeric .up, .numeric .down, .numeric .forward, .numeric .back,
   .numeric .colour, .bare .reverseOn, .bare .reverseOff]

theorem Name.mem_all (n : Name) : n ∈ Name.all := by
  cases n with
  | bare n => cases n <;> decide
  | numeric n => cases n <;> decide

@[simp] theorem Name.length_letters (n : Name) : n.letters.length = 3 := by
  cases n with
  | bare n => cases n <;> rfl
  | numeric n => cases n <;> rfl

theorem Name.letters_injective {m n : Name} (h : m.letters = n.letters) : m = n := by
  have : ∀ m ∈ Name.all, ∀ n ∈ Name.all, m.letters = n.letters → m = n := by decide
  exact this m m.mem_all n n.mem_all h

def Name.ofLetters? (cs : List Char) : Option Name := Name.all.find? (·.letters = cs)

theorem Name.ofLetters?_eq_some_iff {cs : List Char} {n : Name} :
    Name.ofLetters? cs = some n ↔ cs = n.letters := by
  constructor
  · intro h
    simpa [eq_comm] using List.find?_some h
  · rintro rfl
    cases h : Name.ofLetters? n.letters with
    | none =>
      have := List.find?_eq_none.mp h n n.mem_all
      simp at this
    | some m =>
      have := List.find?_some h
      simp only [decide_eq_true_eq] at this
      rw [Name.letters_injective this]

/-- A field is a sign or a digit, and then a digit. -/
def fieldValue? (lead last : Char) : Option Int :=
  match digitValue? last with
  | none => none
  | some d =>
    if lead = '+' then some d
    else if lead = '-' then some (-d)
    else (digitValue? lead).map (fun (tens : Nat) => ((10 * tens + d : Nat) : Int))

theorem fieldValue?_bounds {lead last : Char} {n : Int} (h : fieldValue? lead last = some n) :
    -9 ≤ n ∧ n ≤ 99 := by
  unfold fieldValue? at h
  split at h
  · cases h
  · next d hd =>
    have := digitValue?_lt hd
    split at h
    · cases h; omega
    · split at h
      · cases h; omega
      · obtain ⟨t, ht, rfl⟩ := Option.map_eq_some_iff.mp h
        have := digitValue?_lt ht
        omega

structure Field where
  lead : Char
  last : Char
  value : Int
  reads : fieldValue? lead last = some value

inductive Item where
  | plain (c : Char) (h : c ≠ tokenStart)
  | bare (name : Bare) (closing : Char)
  | numeric (name : Numeric) (separator : Char) (field : Field) (closing : Char)

namespace Item

/-- The characters that an item is written with. -/
def letters : Item → List Char
  | .plain c _ => [c]
  | .bare name closing => tokenStart :: (name.letters ++ [closing])
  | .numeric name separator field closing =>
    tokenStart :: (name.letters ++ [separator, field.lead, field.last, closing])

def width : Item → Nat
  | .plain .. => 1
  | .bare .. => 5
  | .numeric .. => 8

@[simp] theorem length_letters (i : Item) : i.letters.length = i.width := by
  cases i with
  | plain => rfl
  | bare name => cases name <;> rfl
  | numeric name => cases name <;> rfl

theorem width_pos (i : Item) : 0 < i.width := by cases i <;> simp [width]

end Item

/-- What an item does. -/
inductive Effect where
  | write (c : Char)
  | lineFeed
  | clear
  | home
  | move (rows cells : Int)
  | ink (code : Int)
  | reverse (on : Bool)
  deriving DecidableEq, Repr

def Bare.effect : Bare → Effect
  | .clear => .clear
  | .home => .home
  | .reverseOn => .reverse true
  | .reverseOff => .reverse false

def Numeric.effect (n : Int) : Numeric → Effect
  | .up => .move (-n) 0
  | .down => .move n 0
  | .forward => .move 0 n
  | .back => .move 0 (-n)
  | .colour => .ink n

def Item.effect : Item → Effect
  | .plain c _ => if c = C64Screen.lineFeed then .lineFeed else .write c
  | .bare name _ => name.effect
  | .numeric name _ field _ => name.effect field.value

end C64Screen.Markup
