import C64Screen.Proofs.Markup.Fields
import C64Screen.Proofs.Markup.Scanning

/-!
# The loop over a text

The run by position once more, as routines that assign to an index. A routine that is broken off leaves what it
has assigned by then, a field that has the form of a number might still be no numeral, and nothing makes the
loop end but what its rounds do to the index. A round that is not broken off moves the index past one item and
no further than the end of the text. So there are no more rounds than characters, and a loop that is not broken
off ends exactly behind the last of them.
-/

namespace C64Screen.Markup

open Unicode

/-- What breaks a routine off. -/
inductive Raised where
  | broken (fault : Fault) (position : Nat)
  | noNumeral
  | noPlace
  deriving DecidableEq, Repr

abbrev Reading (α : Type) := EStateM Raised Progress α

abbrev Outcome (α : Type) := EStateM.Result Raised Progress α

/-! Routines. -/

def advance (width : Nat) : Reading Unit :=
  modify fun p => { p with index := p.index + width }

/-- The two characters of a field, or those of them that there are. -/
def fieldAt (text : List Char) (index : Nat) : List Char := (text.drop (index + 5)).take 2

/-- A number is read only after its field has been found to have the form of one. -/
def readNumber (text : List Char) : Reading Int := do
  let p ← get
  let field := fieldAt text p.index
  if text.length < p.index + 7 then
    throw (.broken .parsing p.index)
  else if Numeral.isSignedDigits field then do
    advance 8
    match Numeral.integer? (trim isMargin field) with
    | some n => return n
    | none => throw .noNumeral
  else
    throw (.broken .numberFormat (p.index + 5))

def perform (effect : Effect) : Reading Unit := do
  let p ← get
  match effect.steer p.state.buffer.width p.state.cursor with
  | some cursor => set { p with state := ⟨effect.draw p.state.cursor p.state.buffer, cursor⟩ }
  | none => throw .noPlace

def applyName (text : List Char) : Name → Reading Unit
  | .bare name => do
    advance 5
    perform name.effect
  | .numeric name => do
    let n ← readNumber text
    perform (name.effect n)

/-- An index beyond the end belongs to a token that has been cut off. -/
def checkClosed (text : List Char) : Reading Unit := do
  let p ← get
  if text.length < p.index then throw (.broken .parsing p.index)

/-- The names are tried one after another. -/
def applyToken (text : List Char) : Reading Unit := do
  let p ← get
  match Name.all.find? (·.letters.isPrefixOf (text.drop (p.index + 1))) with
  | none => throw (.broken .unknownFormatter (p.index + 1))
  | some name => do
    applyName text name
    checkClosed text

/-- One round, for the character at the index. -/
def turn (text : List Char) (c : Char) : Reading Unit :=
  if c = tokenStart then applyToken text
  else do
    perform (if c = lineFeed then .lineFeed else .write c)
    advance 1

/-- The loop, given up if it is not over after so many rounds. -/
def loop (text : List Char) : (rounds : Nat) → Progress → Option (Outcome Unit)
  | 0, p =>
    match text[p.index]? with
    | none => some (.ok () p)
    | some _ => none
  | rounds + 1, p =>
    match text[p.index]? with
    | none => some (.ok () p)
    | some c =>
      match (turn text c).run p with
      | .ok () q => loop text rounds q
      | .error e q => some (.error e q)

/-- What is not a fault of the text is reported where the index is. -/
def Raised.halt (index : Nat) : Raised → Halt
  | .broken fault position => .broken fault position
  | .noNumeral => .adrift index
  | .noPlace => .adrift index

def Outcome.stop : Outcome Unit → Stop
  | .ok () p => ⟨p.state, none⟩
  | .error e p => ⟨p.state, some (e.halt p.index)⟩

/-- A round of the loop as one of the run by position. -/
def Outcome.round : Outcome Unit → Round
  | .ok () p => .next p
  | .error e p => .done ⟨p.state, some (e.halt p.index)⟩

section

variable {text : List Char} {p q : Progress} {c lead last : Char}

theorem Outcome.round_eq_next_iff {outcome : Outcome Unit} :
    outcome.round = .next q ↔ outcome = .ok () q := by
  constructor
  · intro next
    cases outcome with
    | ok u r =>
      cases next
      rfl
    | error e r => cases next
  · rintro rfl
    rfl

theorem Outcome.round_eq_done_iff {outcome : Outcome Unit} {stop : Stop} :
    outcome.round = .done stop ↔ ∃ e q, outcome = .error e q ∧ outcome.stop = stop := by
  constructor
  · intro last
    cases outcome with
    | ok u r => cases last
    | error e r =>
      cases last
      exact ⟨e, r, rfl, rfl⟩
  · rintro ⟨e, q, rfl, rfl⟩
    rfl

/-- A field that is there has two characters, and these are where a number is looked up. -/
theorem exists_field {index : Nat} (long : index + 7 ≤ text.length) :
    ∃ lead last, fieldAt text index = [lead, last] ∧
      numberAt text index =
        match fieldValue? lead last with
        | some n => .ok n
        | none => .error (.broken .numberFormat (index + 5)) := by
  have length : 3 ≤ (text.drop (index + 4)).length := by
    rw [List.length_drop]
    omega
  have field : fieldAt text index = ((text.drop (index + 4)).drop 1).take 2 := by
    rw [fieldAt, List.drop_drop]
  cases spelled : text.drop (index + 4) with
  | nil =>
    rw [spelled] at length
    cases length
  | cons separator rest =>
    rw [spelled] at length field
    obtain ⟨lead, last, tail, rfl⟩ : ∃ lead last tail, rest = lead :: last :: tail := by
      match rest, length with
      | lead :: last :: tail, _ => exact ⟨lead, last, tail, rfl⟩
    exact ⟨lead, last, field, numberAt_eq spelled⟩

/-! What a routine comes to. -/

section

variable {α β : Type} {routine : Reading α}

theorem run_bind_of_ok {a : α} (done : routine.run p = .ok a q) (next : α → Reading β) :
    (routine >>= next).run p = (next a).run q := by
  rw [EStateM.run_bind, done]

theorem run_bind_of_error {e : Raised} (broken : routine.run p = .error e q) (next : α → Reading β) :
    (routine >>= next).run p = .error e q := by
  rw [EStateM.run_bind, broken]

end

theorem run_readNumber_short (short : text.length < p.index + 7) :
    (readNumber text).run p = .error (.broken .parsing p.index) p := by
  rw [readNumber, run_bind_of_ok (EStateM.run_get p), if_pos short]
  rfl

theorem run_readNumber_long (long : p.index + 7 ≤ text.length) (field : fieldAt text p.index = [lead, last]) :
    (readNumber text).run p =
      match fieldValue? lead last with
      | some n => .ok n { p with index := p.index + 8 }
      | none => .error (.broken .numberFormat (p.index + 5)) p := by
  rw [readNumber, run_bind_of_ok (EStateM.run_get p), if_neg (Nat.not_lt.mpr long), field]
  cases value : fieldValue? lead last with
  | none =>
    have form : ¬ Numeral.isSignedDigits [lead, last] = true := by
      rwa [isSignedDigits_pair_iff, ← fieldValue?_eq_none_iff]
    rw [if_neg form]
    rfl
  | some n =>
    have form : Numeral.isSignedDigits [lead, last] = true :=
      isSignedDigits_pair_iff.mpr (isField_iff.mpr ⟨n, value⟩)
    rw [if_pos form, integer?_trim_of_fieldValue? value]
    rfl

theorem run_readNumber_illegal (long : p.index + 7 ≤ text.length)
    (illegal : ¬ IsField (fieldAt text p.index)) :
    (readNumber text).run p = .error (.broken .numberFormat (p.index + 5)) p := by
  obtain ⟨lead, last, field, -⟩ := exists_field long
  rw [field] at illegal
  rw [run_readNumber_long long field, fieldValue?_eq_none_iff.mpr illegal]

theorem run_readNumber_legal (long : p.index + 7 ≤ text.length) (legal : IsField (fieldAt text p.index)) :
    ∃ n, Numeral.Denotes (fieldAt text p.index) n ∧ -9 ≤ n ∧ n ≤ 99 ∧
      (readNumber text).run p = .ok n { p with index := p.index + 8 } := by
  obtain ⟨lead, last, field, -⟩ := exists_field long
  rw [field] at legal ⊢
  obtain ⟨n, value⟩ := isField_iff.mp legal
  obtain ⟨low, high⟩ := fieldValue?_bounds value
  refine ⟨n, Numeral.integer?_eq_some_iff.mp (integer?_of_fieldValue? value), low, high, ?_⟩
  rw [run_readNumber_long long field, value]

/-- Reading by routine and reading by position find the same in a field. -/
theorem run_readNumber (text : List Char) (p : Progress) :
    (∃ n, numberAt text p.index = .ok n ∧
      (readNumber text).run p = .ok n { p with index := p.index + 8 }) ∨
    ∃ fault position, numberAt text p.index = .error (.broken fault position) ∧
      (readNumber text).run p = .error (.broken fault position) p := by
  by_cases short : text.length < p.index + 7
  · refine .inr ⟨_, _, numberAt_of_short rfl ?_, run_readNumber_short short⟩
    rw [List.length_drop]
    omega
  · have long := Nat.not_lt.mp short
    obtain ⟨lead, last, field, found⟩ := exists_field long
    have read := run_readNumber_long long field
    cases value : fieldValue? lead last with
    | none =>
      rw [value] at found read
      exact .inr ⟨_, _, found, read⟩
    | some n =>
      rw [value] at found read
      exact .inl ⟨n, found, read⟩

theorem run_perform (effect : Effect) (p : Progress) :
    (perform effect).run p =
      match effect.steer p.state.buffer.width p.state.cursor with
      | some cursor => .ok () { p with state := ⟨effect.draw p.state.cursor p.state.buffer, cursor⟩ }
      | none => .error .noPlace p := by
  rw [perform, run_bind_of_ok (EStateM.run_get p)]
  cases effect.steer p.state.buffer.width p.state.cursor with
  | none => rfl
  | some cursor => rfl

theorem run_checkClosed (text : List Char) (p : Progress) :
    (checkClosed text).run p =
      if text.length < p.index then .error (.broken .parsing p.index) p else .ok () p := by
  rw [checkClosed, run_bind_of_ok (EStateM.run_get p)]
  split
  · rfl
  · rfl

/-- A token is asked for its closing character once its effect has been carried out. -/
theorem round_closed {routine : Reading Unit} {effect : Effect} {width : Nat}
    (comes : routine.run p = (perform effect).run ⟨p.state, p.index + width⟩)
    (ahead : effect.steer p.state.buffer.width p.state.cursor = none → effect.adriftAhead width = width) :
    Outcome.round ((do routine; checkClosed text : Reading Unit).run p) = carryOut text p effect width := by
  rw [run_perform] at comes
  rw [carryOut]
  cases steered : effect.steer p.state.buffer.width p.state.cursor with
  | none =>
    rw [steered] at comes
    rw [run_bind_of_error comes, ahead steered]
    rfl
  | some cursor =>
    rw [steered] at comes
    rw [run_bind_of_ok comes, run_checkClosed]
    dsimp only
    split
    · rfl
    · rfl

theorem find?_isPrefixOf (cs : List Char) :
    Name.all.find? (·.letters.isPrefixOf cs) = Name.ofLetters? (cs.take 3) := by
  have same (name : Name) : name.letters.isPrefixOf cs = decide (name.letters = cs.take 3) := by
    rw [Bool.eq_iff_iff, List.isPrefixOf_iff_prefix, List.prefix_iff_eq_take, name.length_letters,
      decide_eq_true_iff]
  simp only [same, Name.ofLetters?]

theorem round_applyToken (text : List Char) (p : Progress) :
    Outcome.round ((applyToken text).run p) =
      match tokenAt text p.index with
      | .error halt => .done ⟨p.state, some halt⟩
      | .ok (effect, width) => carryOut text p effect width := by
  rw [applyToken, run_bind_of_ok (EStateM.run_get p), find?_isPrefixOf, tokenAt]
  cases Name.ofLetters? ((text.drop (p.index + 1)).take 3) with
  | none => rfl
  | some name =>
    cases name with
    | bare name =>
      apply round_closed
      · rfl
      · intro nowhere
        cases name <;> cases nowhere
    | numeric name =>
      rcases run_readNumber text p with ⟨n, found, read⟩ | ⟨fault, position, found, broken⟩
      · rw [found]
        apply round_closed
        · exact run_bind_of_ok read _
        · intro nowhere
          cases name with
          | colour => cases nowhere
          | _ => rfl
      · rw [found]
        have broken : (applyName text (.numeric name)).run p = .error (.broken fault position) p :=
          run_bind_of_error broken _
        dsimp only
        rw [run_bind_of_error broken]
        rfl

/-- A round of the loop is one of the run by position. -/
theorem round_turn (found : text[p.index]? = some c) :
    Outcome.round ((turn text c).run p) = round text p := by
  rw [round, found]
  dsimp only
  by_cases brace : c = tokenStart
  · rw [turn, if_pos brace, brace, effectAt_brace]
    exact round_applyToken text p
  · obtain ⟨within, -⟩ := List.getElem?_eq_some_iff.mp found
    rw [turn, if_neg brace, effectAt, if_neg brace]
    dsimp only
    have ahead : (if c = lineFeed then Effect.lineFeed else .write c).adriftAhead 1 = 0 := by
      split
      · rfl
      · rfl
    generalize (if c = lineFeed then Effect.lineFeed else .write c) = effect at ahead ⊢
    have performed := run_perform effect p
    rw [carryOut_eq within]
    cases steered : effect.steer p.state.buffer.width p.state.cursor with
    | none =>
      rw [steered] at performed
      rw [run_bind_of_error performed, ahead]
      rfl
    | some cursor =>
      rw [steered] at performed
      rw [run_bind_of_ok performed]
      rfl

theorem index_of_turn (found : text[p.index]? = some c) (done : (turn text c).run p = .ok () q) :
    (q.index = p.index + 1 ∨ q.index = p.index + 5 ∨ q.index = p.index + 8) ∧
      q.index ≤ text.length := by
  rw [← Outcome.round_eq_next_iff, round_turn found] at done
  exact index_of_round done

/-! The loop. -/

theorem loop_of_none (ended : text[p.index]? = none) (rounds : Nat) :
    loop text rounds p = some (.ok () p) := by
  cases rounds with
  | zero => rw [loop, ended]
  | succ rounds => rw [loop, ended]

theorem loop_of_some (found : text[p.index]? = some c) (rounds : Nat) :
    loop text (rounds + 1) p =
      match (turn text c).run p with
      | .ok () q => loop text rounds q
      | .error e q => some (.error e q) := by
  rw [loop, found]

theorem loop_of_next (next : round text p = .next q) (rounds : Nat) :
    loop text (rounds + 1) p = loop text rounds q := by
  cases found : text[p.index]? with
  | none =>
    rw [round, found] at next
    cases next
  | some c =>
    rw [← round_turn found, Outcome.round_eq_next_iff] at next
    rw [loop_of_some found, next]

/-- The last round breaks off, or there is none since the index has come to the end. -/
theorem loop_of_done {stop : Stop} (last : round text p = .done stop) (within : p.index ≤ text.length) :
    ∃ outcome : Outcome Unit,
      (∀ rounds, text.length - p.index ≤ rounds → loop text rounds p = some outcome) ∧
      (∀ q, outcome = .ok () q → q.index = text.length) ∧ outcome.stop = stop := by
  cases found : text[p.index]? with
  | none =>
    rw [round, found] at last
    cases last
    refine ⟨.ok () p, fun rounds _ => loop_of_none found rounds, ?_, rfl⟩
    rintro q ⟨⟩
    exact Nat.le_antisymm within (List.getElem?_eq_none_iff.mp found)
  | some c =>
    obtain ⟨inside, -⟩ := List.getElem?_eq_some_iff.mp found
    rw [← round_turn found, Outcome.round_eq_done_iff] at last
    obtain ⟨e, q, broken, stops⟩ := last
    rw [broken] at stops
    refine ⟨.error e q, ?_, ?_, stops⟩
    · intro rounds enough
      obtain ⟨more, rfl⟩ : ∃ more, rounds = more + 1 := Nat.exists_eq_add_one.mpr (by omega)
      rw [loop_of_some found, broken]
    · intro r done
      cases done

/-- As many rounds as there are characters left are enough, and any more are not used. -/
theorem exists_outcome (text : List Char) (p : Progress) (within : p.index ≤ text.length) :
    ∃ outcome : Outcome Unit,
      (∀ rounds, text.length - p.index ≤ rounds → loop text rounds p = some outcome) ∧
      (∀ q, outcome = .ok () q → q.index = text.length) ∧ outcome.stop = scan text p := by
  -- Along the run by position, of which every round leaves less of the text to the next.
  fun_induction scan text p with
  | case1 p stop last => exact loop_of_done last within
  | case2 p q next advanced ih =>
    obtain ⟨outcome, comes, ends, stops⟩ := ih advanced.2
    refine ⟨outcome, ?_, ends, stops⟩
    intro rounds enough
    obtain ⟨more, rfl⟩ : ∃ more, rounds = more + 1 := Nat.exists_eq_add_one.mpr (by omega)
    rw [loop_of_next next]
    exact comes more (by omega)

end

/-- A number is read, with the index eight characters on, or its field is at fault and nothing has changed. So a round
that is not broken off takes one, five or eight characters, there are no more rounds than characters, and
a loop that is not broken off ends exactly at the end of the text. -/
theorem loop_within_length (text : List Char) :
    (∀ p : Progress,
      (text.length < p.index + 7 →
        (readNumber text).run p = .error (.broken .parsing p.index) p) ∧
      (p.index + 7 ≤ text.length → ¬ IsField (fieldAt text p.index) →
        (readNumber text).run p = .error (.broken .numberFormat (p.index + 5)) p) ∧
      (p.index + 7 ≤ text.length → IsField (fieldAt text p.index) →
        ∃ n, Numeral.Denotes (fieldAt text p.index) n ∧ -9 ≤ n ∧ n ≤ 99 ∧
          (readNumber text).run p = .ok n { p with index := p.index + 8 })) ∧
    (∀ field : List Char, field.length = 2 → Numeral.isSignedDigits field = true →
      ∃ n, Numeral.integer? (trim isMargin field) = some n) ∧
    (∀ (p q : Progress) (c : Char), text[p.index]? = some c → (turn text c).run p = .ok () q →
      (q.index = p.index + 1 ∨ q.index = p.index + 5 ∨ q.index = p.index + 8) ∧
        q.index ≤ text.length) ∧
    ∀ p : Progress, p.index ≤ text.length → ∃ outcome : Outcome Unit,
      (∀ rounds, text.length - p.index ≤ rounds → loop text rounds p = some outcome) ∧
      (∀ q, outcome = .ok () q → q.index = text.length) ∧
      outcome.stop = run p.state p.index (text.drop p.index) := by
  refine ⟨fun p => ⟨run_readNumber_short, run_readNumber_illegal, run_readNumber_legal⟩, ?_,
    fun p q c => index_of_turn, ?_⟩
  · intro field length form
    obtain ⟨lead, last, rfl⟩ := List.length_eq_two.mp length
    obtain ⟨n, value⟩ := isField_iff.mp (isSignedDigits_pair_iff.mp form)
    exact ⟨n, integer?_trim_of_fieldValue? value⟩
  · intro p within
    rw [← scan_eq_run]
    exact exists_outcome text p within

/-- Digits of three scripts, a letter in a field, and a field that is cut off. -/
theorem loop_within_length_scripts :
    let start : State := ⟨.new ⟨8, by decide⟩ ⟨2, by decide⟩, .start (some 3) (.int 1)⟩
    let inked : State := { start with cursor := { start.cursor with colour := .int 17 } }
    let whole := ['A', '{', 'C', 'L', 'T', ':', '-', '٣', '}', '{', 'C', 'O', 'L', ':', '१', '٧', '}']
    let broken := ['{', 'C', 'U', 'P', ':', 'x', '1', '}', '{', 'C', 'D', 'N', ':']
    (readNumber whole).run ⟨start, 9⟩ = .ok 17 ⟨start, 17⟩ ∧
      (∃ n, Numeral.integer? (trim isMargin ['-', '٣']) = some n) ∧
      (turn whole '{').run ⟨start, 9⟩ = .ok () ⟨inked, 17⟩ ∧ 17 ≤ whole.length ∧
      (∃ q, loop whole 17 ⟨start, 0⟩ = some (.ok () q) ∧ q.index = 17) ∧
      (readNumber broken).run ⟨start, 0⟩ = .error (.broken .numberFormat 5) ⟨start, 0⟩ ∧
      (readNumber broken).run ⟨start, 8⟩ = .error (.broken .parsing 8) ⟨start, 8⟩ := by
  intro start inked whole broken
  have legal : IsField ['१', '٧'] := isField_pair_iff.mpr (by decide)
  have illegal : ¬ IsField ['x', '1'] := fun form => absurd (isField_pair_iff.mp form) (by decide)
  have turned : (turn whole '{').run ⟨start, 9⟩ = .ok () ⟨inked, 17⟩ := by rfl
  obtain ⟨reads, numerals, turns, loops⟩ := loop_within_length whole
  obtain ⟨reads', -⟩ := loop_within_length broken
  refine ⟨?_, numerals _ rfl (by decide), turned, (turns ⟨start, 9⟩ _ '{' rfl turned).2, ?_,
    (reads' ⟨start, 0⟩).2.1 (by decide) illegal, (reads' ⟨start, 8⟩).1 (by decide)⟩
  · obtain ⟨n, denotes, -, -, read⟩ := (reads ⟨start, 9⟩).2.2 (by decide) legal
    have seventeen : Numeral.Denotes ['१', '٧'] 17 := Numeral.integer?_eq_some_iff.mp (by decide)
    have same : some n = some 17 :=
      (Numeral.integer?_eq_some_iff.mpr denotes).symm.trans (Numeral.integer?_eq_some_iff.mpr seventeen)
    cases same
    exact read
  · obtain ⟨outcome, comes, ends, stops⟩ := loops ⟨start, 0⟩ (by decide)
    have done : (run start 0 whole).halt = none := by decide +kernel
    cases outcome with
    | ok u q => exact ⟨q, comes 17 (by decide), ends q rfl⟩
    | error e q =>
      have halted : some (e.halt q.index) = none := (congrArg Stop.halt stops).trans done
      cases halted

end C64Screen.Markup
