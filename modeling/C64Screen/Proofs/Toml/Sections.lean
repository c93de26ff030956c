import C64Screen.Proofs.Text.Lines
import C64Screen.Proofs.Toml.Scalars
import C64Screen.Proofs.Value.Entries
import C64Screen.Toml.Document

/-!
# A table line by line

A document of one table, whose header is followed by lines with a bare key, an equals sign and a plain value
each. Wherever the lines end in a way that is allowed, the entries of the table are those of the lines, in their
order, as long as no key comes twice.

The document that has been read so far is the table with the entries so far, opened by its header and with
nothing closed in it. One line adds one entry and leaves the rest so, and the run goes along with the lines.
-/

namespace C64Screen.Toml

structure BareKey (key : String) : Prop where
  nonempty : key.toList ≠ []
  bare : ∀ c ∈ key.toList, isBareKeyChar c = true

/-- A line that gives a key a value. -/
structure Line where
  key : String
  text : List Char
  value : Value

namespace Line

def letters (l : Line) : List Char := l.key.toList ++ [' ', '=', ' '] ++ l.text

def entry (l : Line) : String × Value := (l.key, l.value)

structure WellFormed (l : Line) : Prop where
  key : BareKey l.key
  text : Plain l.text l.value

end Line

def headerLine (name : String) : List Char := '[' :: (name.toList ++ [']'])

/-! Keys. -/

section Keys

variable {key : String} {rest : List Char}

theorem skipBlanks_bare {c : Char} (bare : isBareKeyChar c = true) (more : List Char) :
    skipBlanks (c :: more) = c :: more := by
  have printed : isBlank c = false := isBlank_of_class bare (by decide) (by decide)
  rw [skipBlanks, List.dropWhile_cons, printed]
  rfl

theorem BareKey.of_all (nonempty : key.toList ≠ []) (each : key.toList.all isBareKeyChar = true) : BareKey key :=
  ⟨nonempty, List.all_eq_true.mp each⟩

theorem BareKey.exists_cons (bare : BareKey key) : ∃ c more, key.toList = c :: more ∧ isBareKeyChar c = true := by
  obtain ⟨c, more, letters⟩ := List.exists_cons_of_ne_nil bare.nonempty
  exact ⟨c, more, letters, bare.bare c (letters ▸ List.mem_cons_self)⟩

theorem keyPart?_bare (bare : BareKey key) (stops : ∀ c ∈ rest.head?, isBareKeyChar c = false) :
    keyPart? (key.toList ++ rest) = some (key, rest) := by
  have taken := Text.takeWhile_run bare.bare stops
  have behind := Text.dropWhile_run bare.bare stops
  obtain ⟨c, more, letters, first⟩ := bare.exists_cons
  unfold keyPart?
  split
  · next same =>
    rw [letters] at same
    exact absurd (List.cons.inj same).1 (Text.ne_of_class first (by decide))
  · next same =>
    rw [letters] at same
    exact absurd (List.cons.inj same).1 (Text.ne_of_class first (by decide))
  · simp [taken, behind, bare.nonempty]

/-- A bare key in front of blanks and something that is no point. -/
theorem path?_bare (bare : BareKey key) {c : Char} {more : List Char}
    (stops : ∀ c ∈ rest.head?, isBareKeyChar c = false) (behind : skipBlanks rest = c :: more)
    (point : c ≠ '.') : path? (key.toList ++ rest) = some ([key], c :: more) := by
  rw [path?, pathFrom?, keyPart?_bare bare stops]
  simp only [behind]
  split
  · next same => exact absurd (List.cons.inj same).1 point
  · rfl

end Keys

/-! Statements. -/

section Statements

variable {rest : List Char}

theorem statement_of_no_bracket {c : Char} (bracket : c ≠ '[') (more : List Char) :
    statement (c :: more) =
      match path? (c :: more) with
      | some (path, '=' :: rest) =>
        (value (2 * rest.length + 1) (skipBlanks rest)).map (fun (v, rest) => (.assign path v, rest))
      | _ => .error .malformed := by
  unfold statement
  split
  · next same => exact absurd (List.cons.inj same).1 bracket
  · next same => exact absurd (List.cons.inj same).1 bracket
  · rfl

theorem Line.WellFormed.exists_cons {l : Line} (well_formed : l.WellFormed) :
    ∃ c more, l.letters = c :: more ∧ isBareKeyChar c = true := by
  obtain ⟨c, more, letters, first⟩ := well_formed.key.exists_cons
  refine ⟨c, more ++ ([' ', '=', ' '] ++ l.text), ?_, first⟩
  rw [Line.letters, letters, List.append_assoc, List.cons_append]

theorem statement_line {l : Line} (well_formed : l.WellFormed) (ended : AtLineEnd rest) :
    statement (l.letters ++ rest) = .ok (.assign [l.key] l.value, rest) := by
  have path : path? (l.letters ++ rest) = some ([l.key], '=' :: ' ' :: (l.text ++ rest)) := by
    have spread : l.letters ++ rest = l.key.toList ++ (' ' :: '=' :: ' ' :: (l.text ++ rest)) := by
      simp [Line.letters]
    rw [spread]
    refine path?_bare well_formed.key ?_ rfl (by decide)
    rintro _ ⟨⟩
    rfl
  obtain ⟨c, more, letters, first⟩ := well_formed.exists_cons
  rw [letters, List.cons_append] at path ⊢
  rw [statement_of_no_bracket (Text.ne_of_class first (by decide)), path]
  simp only
  rw [well_formed.text.skipBlanks, value_plain well_formed.text ended]
  rfl

theorem statement_header {name : String} (bare : BareKey name) (rest : List Char) :
    statement (headerLine name ++ rest) = .ok (.table [name], rest) := by
  have path : path? (name.toList ++ ']' :: rest) = some ([name], ']' :: rest) := by
    refine path?_bare bare ?_ rfl (by decide)
    rintro _ ⟨⟩
    rfl
  have spread : headerLine name ++ rest = '[' :: (name.toList ++ ']' :: rest) := by simp [headerLine]
  obtain ⟨c, more, letters, first⟩ := bare.exists_cons
  rw [letters, List.cons_append] at path spread
  rw [spread]
  unfold statement
  split
  · next same =>
    obtain ⟨-, same⟩ := List.cons.inj same
    exact absurd (List.cons.inj same).1 (Text.ne_of_class first (by decide))
  · next same =>
    obtain ⟨-, rfl⟩ := List.cons.inj same
    rw [skipBlanks_bare first, path]
    rfl
  · next _ no_bracket => exact absurd rfl (no_bracket _)

end Statements

/-! Documents. -/

theorem BareKey.return_not_mem {key : String} (bare : BareKey key) : '\r' ∉ key.toList :=
  fun listed => absurd (bare.bare '\r' listed) (by decide)

theorem BareKey.return_not_mem_headerLine {name : String} (bare : BareKey name) : '\r' ∉ headerLine name := by
  simp [headerLine, bare.return_not_mem]

theorem Line.WellFormed.return_not_mem {l : Line} (well_formed : l.WellFormed) : '\r' ∉ l.letters := by
  simp [Line.letters, well_formed.key.return_not_mem, well_formed.text.return_not_mem]

/-- The first of some lines, with what is left of the text behind it. -/
theorem exists_rest_of_lined {line cs : List Char} {later : List (List Char)}
    (lined : Text.Lined Text.lineFeedAlone (line :: later) cs) :
    ∃ rest, cs = line ++ rest ∧ AtLineEnd rest ∧ Text.Lined Text.lineFeedAlone later rest.tail := by
  rcases Text.lined_cons_iff.mp lined with ⟨rfl, rfl⟩ | ⟨last, ended, behind, rfl, tail⟩
  · exact ⟨[], (List.append_nil _).symm, .text, .nil⟩
  · obtain rfl := List.mem_singleton.mp ended
    exact ⟨'\n' :: behind, rfl, .line behind, tail⟩

namespace Document

/-- The document that has a table alone, which its header has opened. -/
def ofTable (name : String) (entries : Entries) : Document :=
  ⟨[(name, .table entries)], [name], [[name]], [], []⟩

theorem run?_header (name : String) : empty.run? (.table [name]) = some (ofTable name []) := rfl

theorem run?_assign {key : String} {entries : Entries} {v : Value} (fresh : key ∉ entries.map Prod.fst)
    (open_ended : closes v = false) (name : String) :
    (ofTable name entries).run? (.assign [key] v) = some (ofTable name (entries ++ [(key, v)])) := by
  rw [← Value.assign_of_not_mem fresh]
  simp [run?, assign?, ofTable, between, isWithin, insert?, within?, Value.lookup, Value.assign,
    Value.lookup_eq_none_iff.mpr fresh, open_ended]

/-- One statement and the end of its line. -/
theorem readFrom_statement {d e : Document} {s : Statement} {c : Char} {more rest : List Char}
    (printed : skipBlanks (c :: more) = c :: more) (stands : c ≠ '\n' ∧ c ≠ '#')
    (read : statement (c :: more) = .ok (s, rest)) (ran : d.run? s = some e) (ended : AtLineEnd rest) (fuel : Nat) :
    readFrom (fuel + 1) d (c :: more) = readFrom fuel e rest.tail := by
  rw [readFrom, printed]
  simp only [stands.1, stands.2, or_self, if_false, read, ran, endLine?_of_atLineEnd ended]

theorem readFrom_line {l : Line} (well_formed : l.WellFormed) {entries : Entries}
    (fresh : l.key ∉ entries.map Prod.fst) {rest : List Char} (ended : AtLineEnd rest) (name : String) (fuel : Nat) :
    readFrom (fuel + 1) (ofTable name entries) (l.letters ++ rest) =
      readFrom fuel (ofTable name (entries ++ [l.entry])) rest.tail := by
  obtain ⟨c, more, letters, first⟩ := well_formed.exists_cons
  have read := statement_line well_formed ended
  have stands : c ≠ '\n' ∧ c ≠ '#' := ⟨Text.ne_of_class first (by decide), Text.ne_of_class first (by decide)⟩
  rw [letters, List.cons_append] at read ⊢
  exact readFrom_statement (skipBlanks_bare first _) stands read
    (run?_assign fresh well_formed.text.closes name) ended fuel

theorem readFrom_end (d : Document) (fuel : Nat) : readFrom (fuel + 1) d [] = .ok d := by
  rw [readFrom]
  rfl

theorem readFrom_lines {lines : List Line} (well_formed : ∀ l ∈ lines, l.WellFormed) {cs : List Char}
    (lined : Text.Lined Text.lineFeedAlone (lines.map Line.letters) cs) (entries : Entries)
    (distinct : (entries.map Prod.fst ++ lines.map Line.key).Nodup) (name : String)
    {fuel : Nat} (enough : cs.length < fuel) :
    readFrom fuel (ofTable name entries) cs = .ok (ofTable name (entries ++ lines.map Line.entry)) := by
  -- Along the lines: what a line adds comes to the entries, and its letters leave fuel for the others.
  induction lines generalizing cs entries fuel with
  | nil =>
    obtain rfl := Text.lined_nil_iff.mp lined
    obtain ⟨fuel, rfl⟩ := Nat.exists_eq_succ_of_ne_zero (Nat.ne_zero_of_lt enough)
    rw [readFrom_end, List.map_nil, List.append_nil]
  | cons l lines ih =>
    rw [List.forall_mem_cons] at well_formed
    obtain ⟨rest, rfl, ended, tail⟩ := exists_rest_of_lined lined
    obtain ⟨fuel, rfl⟩ := Nat.exists_eq_succ_of_ne_zero (Nat.ne_zero_of_lt enough)
    have fresh : l.key ∉ entries.map Prod.fst := fun listed =>
      (List.nodup_append.mp distinct).2.2 l.key listed l.key List.mem_cons_self rfl
    have still_distinct : ((entries ++ [l.entry]).map Prod.fst ++ lines.map Line.key).Nodup := by
      rwa [List.map_append, List.append_assoc]
    have still_enough : rest.tail.length < fuel := by
      have some_letter : 0 < l.letters.length := by
        obtain ⟨c, more, letters, -⟩ := well_formed.1.exists_cons
        rw [letters, List.length_cons]
        omega
      rw [List.length_append] at enough
      rw [List.length_tail]
      omega
    rw [readFrom_line well_formed.1 fresh ended, ih well_formed.2 tail _ still_distinct still_enough,
      List.append_assoc]
    rfl

theorem readFrom_header {name : String} (bare : BareKey name) {rest : List Char} (ended : AtLineEnd rest)
    (fuel : Nat) :
    readFrom (fuel + 1) empty (headerLine name ++ rest) = readFrom fuel (ofTable name []) rest.tail := by
  have read := statement_header bare rest
  exact readFrom_statement rfl ⟨by decide, by decide⟩ read (run?_header name) ended fuel

end Document

/-- A table that is written line by line is read as its entries. -/
theorem read_lines {name : String} (bare : BareKey name) {lines : List Line}
    (well_formed : ∀ l ∈ lines, l.WellFormed) (distinct : (lines.map Line.key).Nodup) {text : List Char}
    (lined : Text.Lined Text.lineFeeds (headerLine name :: lines.map Line.letters) text) :
    read text = .ok [(name, .table (lines.map Line.entry))] := by
  have returns : ∀ line ∈ headerLine name :: lines.map Line.letters, '\r' ∉ line := by
    rw [List.forall_mem_cons, List.forall_mem_map]
    exact ⟨bare.return_not_mem_headerLine, fun l listed => (well_formed l listed).return_not_mem⟩
  obtain ⟨rest, joined, ended, tail⟩ := exists_rest_of_lined (lined.joinLineEnds returns)
  have enough : rest.tail.length < (headerLine name ++ rest).length := by
    rw [List.length_append, List.length_tail, headerLine, List.length_cons]
    omega
  have all_read := Document.readFrom_lines well_formed tail [] distinct name enough
  rw [read, joined, Document.readFrom_header bare ended, all_read]
  rfl

end C64Screen.Toml
