import C64Screen.Markup.Item

/-!
# Scripts

The items of a text and how the text ends: after its last item, at a brace that begins no token, or with a
token that lacks nothing but its closing character. A script is read from the text alone; where the cursor
stands or what the buffer holds has no part in it.
-/

namespace C64Screen.Markup

inductive Fault where
  | unknownFormatter
  | numberFormat
  | parsing
  deriving DecidableEq, Repr

def Fault.kind : Fault → String
  | .unknownFormatter => "UNKNOWN FORMATTER ERROR"
  | .numberFormat => "NUMBER FORMAT ERROR"
  | .parsing => "PARSING ERROR"

/-- The line that names a kind of fault and the position where it was found. -/
def headline (kind : String) (position : Int) : String :=
  kind ++ " AT POSITION " ++ Numeral.text position

inductive Ending where
  | complete
  /-- A fault, so many characters beyond the brace of its token. -/
  | broken (fault : Fault) (ahead : Nat)
  /-- A token cut off in front of its closing character still has its effect. -/
  | unclosed (effect : Effect) (ahead : Nat)
  deriving DecidableEq, Repr

structure Script where
  items : List Item
  ending : Ending

namespace Script

def cons (i : Item) (s : Script) : Script := ⟨i :: s.items, s.ending⟩

@[simp] theorem items_cons (i : Item) (s : Script) : (s.cons i).items = i :: s.items := rfl

@[simp] theorem ending_cons (i : Item) (s : Script) : (s.cons i).ending = s.ending := rfl

/-- What a text begins with. -/
inductive Head where
  | item (i : Item) (rest : List Char)
  | ending (e : Ending)

/-- Reads a numeric token behind its name. -/
def numericToken (name : Numeric) : List Char → Head
  | separator :: lead :: last :: tail =>
    match h : fieldValue? lead last with
    | none => .ending (.broken .numberFormat 5)
    | some n =>
      match tail with
      | [] => .ending (.unclosed (name.effect n) 8)
      | closing :: rest => .item (.numeric name separator ⟨lead, last, n, h⟩ closing) rest
  | _ => .ending (.broken .parsing 0)

/-- Reads a token behind its brace. -/
def token (cs : List Char) : Head :=
  match Name.ofLetters? (cs.take 3) with
  | none => .ending (.broken .unknownFormatter 1)
  | some (.bare name) =>
    match cs.drop 3 with
    | [] => .ending (.unclosed name.effect 5)
    | closing :: rest => .item (.bare name closing) rest
  | some (.numeric name) => numericToken name (cs.drop 3)

theorem letters_of_numericToken {name : Numeric} {cs rest : List Char} {i : Item}
    (h : numericToken name cs = .item i rest) :
    tokenStart :: (name.letters ++ cs) = i.letters ++ rest := by
  unfold numericToken at h
  split at h
  · split at h
    · cases h
    · split at h
      · cases h
      · cases h; simp [Item.letters]
  · cases h

theorem letters_of_token {cs rest : List Char} {i : Item} (h : token cs = .item i rest) :
    tokenStart :: cs = i.letters ++ rest := by
  unfold token at h
  split at h
  · cases h
  · next name hn =>
    have hcs := List.take_append_drop 3 cs
    rw [Name.ofLetters?_eq_some_iff.mp hn] at hcs
    split at h
    · cases h
    · next hd =>
      cases h
      rw [hd] at hcs
      simp [← hcs, Item.letters, Name.letters]
  · next name hn =>
    have hcs := List.take_append_drop 3 cs
    rw [Name.ofLetters?_eq_some_iff.mp hn] at hcs
    rw [← letters_of_numericToken h]
    exact congrArg _ hcs.symm

theorem length_of_token {cs rest : List Char} {i : Item} (h : token cs = .item i rest) :
    rest.length < cs.length + 1 := by
  have := congrArg List.length (letters_of_token h)
  simp only [List.length_cons, List.length_append, Item.length_letters] at this
  have := i.width_pos
  omega

def ofText : List Char → Script
  | [] => ⟨[], .complete⟩
  | c :: cs =>
    if hc : c = tokenStart then
      match h : token cs with
      | .item i rest =>
        have := length_of_token h
        (ofText rest).cons i
      | .ending e => ⟨[], e⟩
    else (ofText cs).cons (.plain c hc)
termination_by cs => cs.length

end Script

end C64Screen.Markup
