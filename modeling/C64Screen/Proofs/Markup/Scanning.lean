import C64Screen.Proofs.Markup.Running

/-!
# Reading by position

The same run once more, with the whole text in view and an index that moves along it. Names and fields are
looked up at absolute positions, and whether a token is cut off is asked of the length of the text, once in
front of its field and once behind its effect. That what stands in front of the index has no part in any
of it is `scan_eq_run`.
-/

namespace C64Screen.Markup

structure Progress where
  state : State
  index : Nat

/-- The number in the field of the token whose brace is at an index. -/
def numberAt (text : List Char) (index : Nat) : Except Halt Int :=
  match text[index + 5]?, text[index + 6]? with
  | some lead, some last =>
    match fieldValue? lead last with
    | some n => .ok n
    | none => .error (.broken .numberFormat (index + 5))
  | _, _ => .error (.broken .parsing index)

/-- The effect of the token whose brace is at an index, and the number of its characters. -/
def tokenAt (text : List Char) (index : Nat) : Except Halt (Effect × Nat) :=
  match Name.ofLetters? ((text.drop (index + 1)).take 3) with
  | none => .error (.broken .unknownFormatter (index + 1))
  | some (.bare name) => .ok (name.effect, 5)
  | some (.numeric name) => (numberAt text index).map (fun n => (name.effect n, 8))

def effectAt (text : List Char) (index : Nat) (c : Char) : Except Halt (Effect × Nat) :=
  if c = tokenStart then tokenAt text index
  else .ok (if c = lineFeed then .lineFeed else .write c, 1)

inductive Round where
  | done (stop : Stop)
  | next (p : Progress)

/-- An effect is carried out before it is asked whether its token was complete. -/
def carryOut (text : List Char) (p : Progress) (effect : Effect) (width : Nat) : Round :=
  match effect.steer p.state.buffer.width p.state.cursor with
  | none => .done ⟨p.state, some (.adrift (p.index + effect.adriftAhead width))⟩
  | some cursor =>
    let state : State := ⟨effect.draw p.state.cursor p.state.buffer, cursor⟩
    if text.length < p.index + width then
      .done ⟨state, some (.broken .parsing (p.index + width))⟩
    else .next ⟨state, p.index + width⟩

def round (text : List Char) (p : Progress) : Round :=
  match text[p.index]? with
  | none => .done ⟨p.state, none⟩
  | some c =>
    match effectAt text p.index c with
    | .error halt => .done ⟨p.state, some halt⟩
    | .ok (effect, width) => carryOut text p effect width

theorem width_of_effectAt {text : List Char} {index width : Nat} {c : Char} {effect : Effect}
    (h : effectAt text index c = .ok (effect, width)) : width = 1 ∨ width = 5 ∨ width = 8 := by
  unfold effectAt at h
  split at h
  · unfold tokenAt at h
    split at h
    · cases h
    · cases h
      exact .inr (.inl rfl)
    · cases hn : numberAt text index with
      | error halt => rw [hn] at h; cases h
      | ok n =>
        rw [hn] at h
        cases h
        exact .inr (.inr rfl)
  · cases h
    exact .inl rfl

theorem index_of_carryOut {text : List Char} {p q : Progress} {effect : Effect} {width : Nat}
    (h : carryOut text p effect width = .next q) :
    q.index = p.index + width ∧ q.index ≤ text.length := by
  unfold carryOut at h
  split at h
  · cases h
  · dsimp only at h
    split at h
    · cases h
    · next within =>
      cases h
      exact ⟨rfl, Nat.le_of_not_lt within⟩

/-- A round that goes on takes one, five or eight characters and stays within the text. -/
theorem index_of_round {text : List Char} {p q : Progress} (h : round text p = .next q) :
    (q.index = p.index + 1 ∨ q.index = p.index + 5 ∨ q.index = p.index + 8) ∧
      q.index ≤ text.length := by
  unfold round at h
  split at h
  · cases h
  · split at h
    · cases h
    · next effect width found =>
      obtain ⟨index, bounded⟩ := index_of_carryOut h
      refine ⟨?_, bounded⟩
      rcases width_of_effectAt found with rfl | rfl | rfl
      · exact .inl index
      · exact .inr (.inl index)
      · exact .inr (.inr index)

def scan (text : List Char) (p : Progress) : Stop :=
  match h : round text p with
  | .done stop => stop
  | .next q =>
    have := index_of_round h
    scan text q
termination_by text.length - p.index

/-! What is found at an index is what the text from there on begins with. -/

theorem length_of_drop {text w : List Char} {index : Nat} (h : text.drop index = w)
    (ne : w ≠ []) : text.length = index + w.length := by
  have := congrArg List.length h
  have := List.length_pos_iff.mpr ne
  rw [List.length_drop] at *
  omega

theorem getElem?_of_drop {text w : List Char} {index : Nat} (h : text.drop index = w) (k : Nat) :
    text[index + k]? = w[k]? := by
  rw [← h, List.getElem?_drop]

theorem drop_of_drop {text u w : List Char} {index : Nat} (h : text.drop index = u ++ w) :
    text.drop (index + u.length) = w := by
  rw [← List.drop_drop, h, List.drop_left]

theorem numberAt_eq {text tail : List Char} {separator lead last : Char} {index : Nat}
    (h : text.drop (index + 4) = separator :: lead :: last :: tail) :
    numberAt text index =
      match fieldValue? lead last with
      | some n => .ok n
      | none => .error (.broken .numberFormat (index + 5)) := by
  have first : text[index + 5]? = some lead := getElem?_of_drop h 1
  have second : text[index + 6]? = some last := getElem?_of_drop h 2
  simp only [numberAt, first, second]

theorem numberAt_of_short {text tail : List Char} {index : Nat} (h : text.drop (index + 4) = tail)
    (short : tail.length < 3) : numberAt text index = .error (.broken .parsing index) := by
  have second : text[index + 6]? = none :=
    (getElem?_of_drop h 2).trans (List.getElem?_eq_none (Nat.le_of_lt_succ short))
  rw [numberAt, second]
  split
  · contradiction
  · rfl

theorem drop_brace {text cs : List Char} {index : Nat} (h : text.drop index = tokenStart :: cs) :
    text.drop (index + 1) = cs := drop_of_drop (u := [tokenStart]) h

theorem drop_name {text tail : List Char} {index : Nat} (name : Name)
    (h : text.drop index = tokenStart :: (name.letters ++ tail)) : text.drop (index + 4) = tail := by
  have := drop_of_drop (u := tokenStart :: name.letters) h
  rwa [List.length_cons, name.length_letters] at this

/-- A name is looked up at an index as it is read behind a brace. -/
theorem nameAt_eq {text tail : List Char} {index : Nat} (name : Name)
    (h : text.drop index = tokenStart :: (name.letters ++ tail)) :
    Name.ofLetters? ((text.drop (index + 1)).take 3) = some name := by
  rw [drop_brace h, Script.take_letters, Script.ofLetters?_letters]

theorem tokenAt_of_item {text cs rest : List Char} {index : Nat} {i : Item}
    (h : text.drop index = tokenStart :: cs) (hi : Script.token cs = .item i rest) :
    tokenAt text index = .ok (i.effect, i.width) := by
  have letters := Script.letters_of_token hi
  rw [letters] at h
  cases i with
  | plain c hc =>
    cases letters
    exact absurd rfl hc
  | bare name closing =>
    have spelled : text.drop index = tokenStart :: ((Name.bare name).letters ++ closing :: rest) := by
      rw [h]
      simp [Item.letters, Name.letters]
    rw [tokenAt, nameAt_eq _ spelled]
    rfl
  | numeric name separator field closing =>
    have spelled : text.drop index = tokenStart :: ((Name.numeric name).letters ++
        separator :: field.lead :: field.last :: closing :: rest) := by
      rw [h]
      simp [Item.letters, Name.letters]
    rw [tokenAt, nameAt_eq _ spelled]
    simp only [numberAt_eq (drop_name _ spelled), field.reads]
    rfl

theorem tokenAt_of_ending {text cs : List Char} {index : Nat} {e : Ending}
    (h : text.drop index = tokenStart :: cs) (he : Script.token cs = .ending e) :
    (∃ fault ahead, e = .broken fault ahead ∧
      tokenAt text index = .error (.broken fault (index + ahead))) ∨
    ∃ effect ahead, e = .unclosed effect ahead ∧ tokenAt text index = .ok (effect, ahead) ∧
      text.length < index + ahead := by
  have length := length_of_drop h (List.cons_ne_nil _ _)
  cases Script.fragment_of_token he with
  | unknown unknown =>
    refine .inl ⟨_, _, rfl, ?_⟩
    rw [tokenAt, drop_brace h, unknown]
  | bare name =>
    refine .inr ⟨_, _, rfl, ?_, ?_⟩
    · rw [← List.append_nil name.letters] at h
      rw [tokenAt, nameAt_eq (.bare name) h]
    · rw [length]
      simp
  | short name short =>
    refine .inl ⟨_, _, rfl, ?_⟩
    rw [tokenAt, nameAt_eq (.numeric name) h]
    simp only [numberAt_of_short (drop_name (.numeric name) h) short]
    rfl
  | illegal name separator tail illegal =>
    refine .inl ⟨_, _, rfl, ?_⟩
    rw [tokenAt, nameAt_eq (.numeric name) h]
    simp only [numberAt_eq (drop_name (.numeric name) h), illegal]
    rfl
  | numeric name separator field =>
    refine .inr ⟨_, _, rfl, ?_, ?_⟩
    · rw [tokenAt, nameAt_eq (.numeric name) h]
      simp only [numberAt_eq (drop_name (.numeric name) h), field.reads]
      rfl
    · rw [length]
      simp

/-! A round goes as far as the first item of what is left. -/

theorem carryOut_eq {text : List Char} {p : Progress} {effect : Effect} {width : Nat}
    (within : p.index + width ≤ text.length) :
    carryOut text p effect width =
      match effect.steer p.state.buffer.width p.state.cursor with
      | none => .done ⟨p.state, some (.adrift (p.index + effect.adriftAhead width))⟩
      | some cursor =>
        .next ⟨⟨effect.draw p.state.cursor p.state.buffer, cursor⟩, p.index + width⟩ := by
  rw [carryOut]
  split
  · rfl
  · exact if_neg (Nat.not_lt.mpr within)

/-- What a round makes of the run that is still to come. -/
def Round.run (text : List Char) : Round → Stop
  | .done stop => stop
  | .next q => Markup.run q.state q.index (text.drop q.index)

theorem run_of_item {text rest : List Char} {p : Progress} {i : Item}
    (h : text.drop p.index = i.letters ++ rest)
    (hr : round text p = carryOut text p i.effect i.width) :
    run p.state p.index (text.drop p.index) = (round text p).run text := by
  have next : text.drop (p.index + i.width) = rest := by
    rw [← i.length_letters]
    exact drop_of_drop h
  have within : p.index + i.width ≤ text.length := by
    have ne : i.letters ++ rest ≠ [] := by
      intro nil
      have := congrArg List.length nil
      rw [List.length_append, i.length_letters] at this
      have := i.width_pos
      simp_all
    have := length_of_drop h ne
    rw [List.length_append, i.length_letters] at this
    omega
  rw [hr, carryOut_eq within, h, run, Script.ofText_letters]
  rw [Script.run, Script.items_cons, Script.ending_cons, runItems]
  cases i.effect.steer p.state.buffer.width p.state.cursor with
  | none => rfl
  | some cursor =>
    dsimp only [Round.run]
    rw [next]
    rfl

theorem effectAt_brace (text : List Char) (index : Nat) :
    effectAt text index tokenStart = tokenAt text index := if_pos rfl

theorem effectAt_plain {c : Char} (h : c ≠ tokenStart) (text : List Char) (index : Nat) :
    effectAt text index c = .ok ((Item.plain c h).effect, 1) := if_neg h

theorem round_of_ok {text : List Char} {p : Progress} {c : Char} {effect : Effect} {width : Nat}
    (found : text[p.index]? = some c) (ok : effectAt text p.index c = .ok (effect, width)) :
    round text p = carryOut text p effect width := by
  rw [round, found]
  simp only [ok]

theorem round_of_error {text : List Char} {p : Progress} {c : Char} {halt : Halt}
    (found : text[p.index]? = some c) (error : effectAt text p.index c = .error halt) :
    round text p = .done ⟨p.state, some halt⟩ := by
  rw [round, found]
  simp only [error]

theorem run_of_round (text : List Char) (p : Progress) :
    run p.state p.index (text.drop p.index) = (round text p).run text := by
  cases h : text.drop p.index with
  | nil =>
    have none : text[p.index]? = none := getElem?_of_drop h 0
    rw [round, none, run, Script.ofText_nil]
    rfl
  | cons c cs =>
    have found : text[p.index]? = some c := getElem?_of_drop h 0
    rw [← h]
    by_cases hc : c = tokenStart
    · subst hc
      cases ht : Script.token cs with
      | item i rest =>
        have ok := tokenAt_of_item h ht
        rw [← effectAt_brace] at ok
        exact run_of_item (by rw [h, Script.letters_of_token ht]) (round_of_ok found ok)
      | ending e =>
        rw [h, run_of_ends (.token ht)]
        rcases tokenAt_of_ending h ht with ⟨fault, ahead, rfl, error⟩ | ⟨effect, ahead, rfl, ok, cut⟩
        · rw [← effectAt_brace] at error
          rw [round_of_error found error]
          rfl
        · rw [← effectAt_brace] at ok
          rw [round_of_ok found ok, Ending.run, carryOut]
          cases effect.steer p.state.buffer.width p.state.cursor with
          | none => rfl
          | some cursor =>
            dsimp only
            rw [if_pos cut]
            rfl
    · exact run_of_item (i := .plain c hc) h (round_of_ok found (effectAt_plain hc text p.index))

/-- Reading by position is reading what is left: nothing in front of the index is looked at. -/
theorem scan_eq_run (text : List Char) (p : Progress) :
    scan text p = run p.state p.index (text.drop p.index) := by
  fun_induction scan text p with
  | case1 p stop h => rw [run_of_round, h]; rfl
  | case2 p q h _ ih => rw [ih, run_of_round text p, h]; rfl

end C64Screen.Markup
