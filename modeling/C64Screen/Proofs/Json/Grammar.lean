import C64Screen.Json.Reader
import C64Screen.Json.Writer
import C64Screen.Proofs.Text.Written
import C64Screen.Proofs.Value.Entries
import Mathlib.Data.List.Basic
import Mathlib.Data.List.Induction

/-!
# JSON texts

Which texts are JSON and which values they stand for, said without a reader, as far as numbers are integers: a
word, a number without a zero in front, characters in quotes, or items between brackets and entries between
braces, with blanks around each of them. Of entries with one key the last gives the value.

What is written for a value that has no floats and no moments in it is such a text for that value, and it
stays on one line.
-/

namespace C64Screen

namespace Json

def Blank (ws : List Char) : Prop := ∀ c ∈ ws, isSpace c = true

/-- Digits for a number, without a zero in front of others. -/
structure Natural (cs : List Char) (n : Nat) : Prop where
  digits : ∀ c ∈ cs, c.isDigit = true
  nonempty : cs ≠ []
  lead : cs.head? = some '0' → cs = ['0']
  value : Nat.ofDigitChars 10 cs 0 = n

inductive Whole : List Char → Int → Prop where
  | natural {cs : List Char} {n : Nat} (h : Natural cs n) : Whole cs n
  | negative {cs : List Char} {n : Nat} (h : Natural cs n) : Whole ('-' :: cs) (-n)

/-- The letters behind a backslash that stand for one character. -/
def shortEscapes : List (Char × Char) :=
  [('"', '"'), ('\\', '\\'), ('/', '/'), ('b', '\x08'), ('f', '\x0c'), ('n', '\n'), ('r', '\r'), ('t', '\t')]

/-- What stands between quotes for some characters. -/
inductive Characters : List Char → List Char → Prop where
  | nil : Characters [] []
  | plain {c : Char} {cs s : List Char} (quote : c ≠ '"') (backslash : c ≠ '\\') (control : 0x20 ≤ c.toNat)
      (tail : Characters cs s) : Characters (c :: cs) (c :: s)
  | short {e c : Char} {cs s : List Char} (listed : (e, c) ∈ shortEscapes) (tail : Characters cs s) :
      Characters ('\\' :: e :: cs) (c :: s)
  | code {a b c d : Char} {n : Nat} {cs s : List Char} (number : Text.hexNumber? [a, b, c, d] = some n)
      (whole : n < 0xD800 ∨ 0xE000 ≤ n) (tail : Characters cs s) :
      Characters ('\\' :: 'u' :: a :: b :: c :: d :: cs) (Char.ofNat n :: s)
  /-- A character beyond four digits is given in two halves. -/
  | halves {a b c d e f g h x : Char} {m n : Nat} {cs s : List Char}
      (high : Text.hexNumber? [a, b, c, d] = some m) (low : Text.hexNumber? [e, f, g, h] = some n)
      (joined : joinSurrogates? m n = some x) (tail : Characters cs s) :
      Characters ('\\' :: 'u' :: a :: b :: c :: d :: '\\' :: 'u' :: e :: f :: g :: h :: cs) (x :: s)

/-- A text for a value, and the blanks around it. -/
structure Piece where
  before : List Char
  text : List Char
  after : List Char
  value : Value

def Piece.spelled (p : Piece) : List Char := p.before ++ (p.text ++ p.after)

structure Piece.Padded (p : Piece) : Prop where
  before : Blank p.before
  after : Blank p.after

/-- A key between quotes with the blanks around it, and the piece behind the colon. -/
structure Entry where
  before : List Char
  name : List Char
  after : List Char
  key : List Char
  piece : Piece

namespace Entry

def spelled (e : Entry) : List Char :=
  e.before ++ ('"' :: (e.name ++ ('"' :: (e.after ++ ':' :: e.piece.spelled))))

structure Padded (e : Entry) : Prop where
  before : Blank e.before
  after : Blank e.after
  piece : e.piece.Padded
  name : Characters e.name e.key

def assigned (e : Entry) : String × Value := (String.ofList e.key, e.piece.value)

end Entry

/-- The text is JSON for the value, with no blanks around it. -/
inductive Denotes : List Char → Value → Prop where
  | null : Denotes ['n', 'u', 'l', 'l'] .null
  | yes : Denotes ['t', 'r', 'u', 'e'] (.bool true)
  | no : Denotes ['f', 'a', 'l', 's', 'e'] (.bool false)
  | whole {cs : List Char} {n : Int} (h : Whole cs n) : Denotes cs (.int n)
  | text {cs s : List Char} (h : Characters cs s) : Denotes ('"' :: (cs ++ ['"'])) (.text (String.ofList s))
  | emptyList {ws : List Char} (blank : Blank ws) : Denotes ('[' :: (ws ++ [']'])) (.list [])
  | list {pieces : List Piece} (nonempty : pieces ≠ []) (padded : ∀ p ∈ pieces, p.Padded)
      (each : ∀ p ∈ pieces, Denotes p.text p.value) :
      Denotes ('[' :: ([','].intercalate (pieces.map Piece.spelled) ++ [']'])) (.list (pieces.map Piece.value))
  | emptyTable {ws : List Char} (blank : Blank ws) : Denotes ('{' :: (ws ++ ['}'])) (.table [])
  | table {entries : List Entry} (nonempty : entries ≠ []) (padded : ∀ e ∈ entries, e.Padded)
      (each : ∀ e ∈ entries, Denotes e.piece.text e.piece.value) :
      Denotes ('{' :: ([','].intercalate (entries.map Entry.spelled) ++ ['}']))
        (.table (assignAll (entries.map Entry.assigned)))

/-- The whole of the text is JSON for the value. -/
def IsText (cs : List Char) (v : Value) : Prop :=
  ∃ p : Piece, p.Padded ∧ Denotes p.text p.value ∧ p.spelled = cs ∧ p.value = v

/-! What is written. -/

/-- There are no floats and no moments in a value, and no key twice in a table. -/
inductive Exact : Value → Prop where
  | null : Exact .null
  | bool (b : Bool) : Exact (.bool b)
  | int (n : Int) : Exact (.int n)
  | text (s : String) : Exact (.text s)
  | list {items : List Value} (each : ∀ v ∈ items, Exact v) : Exact (.list items)
  | table {entries : List (String × Value)} (distinct : (entries.map Prod.fst).Nodup)
      (each : ∀ e ∈ entries, Exact e.2) : Exact (.table entries)

theorem natural_toDigits (n : Nat) : Natural (Nat.toDigits 10 n) n where
  digits _ listed := Nat.isDigit_of_mem_toDigits (by decide) (by decide) listed
  nonempty := Nat.toDigits_ne_nil
  lead := by
    induction n using Nat.strongRecOn with
    | ind n ih =>
      rw [Nat.toDigits_eq_if (by decide)]
      split
      · next small =>
        have digit : ∀ k : Fin 10, k.val.digitChar = '0' → [k.val.digitChar] = ['0'] := by decide
        intro zero
        exact digit ⟨n, small⟩ (Option.some.inj zero)
      · next large =>
        intro zero
        have nonempty : Nat.toDigits 10 (n / 10) ≠ [] := Nat.toDigits_ne_nil
        rw [List.head?_append_of_ne_nil _ nonempty] at zero
        have single := ih (n / 10) (by omega) zero
        have read := Nat.ofDigitChars_toDigits (b := 10) (n := n / 10) (by decide) (by decide)
        rw [single] at read
        have positive : 0 < n / 10 := by omega
        rw [← read] at positive
        exact absurd positive (by decide)
  value := Nat.ofDigitChars_toDigits (by decide) (by decide)

theorem Natural.ofDigits {cs : List Char} {n : Nat} (h : Natural cs n) :
    Numeral.ofDigits (Decimal.digitValues cs) = n :=
  (Numeral.ofDigits_eq_ofDigitChars cs).trans h.value

theorem whole_written (n : Int) : Whole (Numeral.written n) n := by
  cases n with
  | ofNat n => exact .natural (natural_toDigits n)
  | negSucc n => exact .negative (natural_toDigits (n + 1))

theorem hexNumber?_control {n : Nat} (control : n < 0x20) : Text.hexNumber? (Text.hex 4 n) = some n := by
  have each : ∀ k : Fin 0x20, Text.hexNumber? (Text.hex 4 k.val) = some k.val := by decide
  exact each ⟨n, control⟩

theorem escape_cases (c : Char) :
    (∃ e, (e, c) ∈ shortEscapes ∧ escape c = ['\\', e]) ∨
      (c.toNat < 0x20 ∧ escape c = '\\' :: 'u' :: Text.hex 4 c.toNat) ∨
      (c ≠ '"' ∧ c ≠ '\\' ∧ 0x20 ≤ c.toNat ∧ escape c = [c]) := by
  unfold escape
  iterate 7
    split
    · next same =>
      subst same
      exact .inl ⟨_, by decide, rfl⟩
  split
  · next control => exact .inr (.inl ⟨control, rfl⟩)
  · next printed =>
    right
    right
    refine ⟨?_, ?_, Nat.le_of_not_lt printed, rfl⟩
    · assumption
    · assumption

theorem Characters.escape {cs s : List Char} (tail : Characters cs s) (c : Char) :
    Characters (Json.escape c ++ cs) (c :: s) := by
  rcases escape_cases c with ⟨e, listed, same⟩ | ⟨control, same⟩ | ⟨quote, backslash, printed, same⟩
  · rw [same]
    exact .short listed tail
  · have number := hexNumber?_control control
    have code := Characters.code number (.inl (by omega)) tail
    rw [Char.ofNat_toNat] at code
    rw [same]
    exact code
  · rw [same]
    exact .plain quote backslash printed tail

theorem characters_escape (s : List Char) : Characters (s.flatMap escape) s := by
  induction s with
  | nil => exact .nil
  | cons c rest ih =>
    rw [List.flatMap_cons]
    exact ih.escape c

theorem denotes_writeText (s : String) : Denotes (writeText s) (.text s) := by
  have written := Denotes.text (characters_escape s.toList)
  rwa [String.ofList_toList] at written

/-- The items of a list, each behind what is written in front of it. -/
def itemPieces (before : List Char) : List Value → List Piece
  | [] => []
  | v :: rest => ⟨before, write v, [], v⟩ :: itemPieces [' '] rest

def entryPieces (before : List Char) : List (String × Value) → List Entry
  | [] => []
  | e :: rest =>
    ⟨before, e.1.toList.flatMap escape, [], e.1.toList, ⟨[' '], write e.2, [], e.2⟩⟩ :: entryPieces [' '] rest

theorem writeItems_cons (v w : Value) (rest : List Value) :
    writeItems (v :: w :: rest) = write v ++ ',' :: ' ' :: writeItems (w :: rest) := by
  rw [writeItems.eq_3]
  exact nofun

theorem writeEntries_cons (e f : String × Value) (rest : List (String × Value)) :
    writeEntries (e :: f :: rest) =
      writeText e.1 ++ ':' :: ' ' :: (write e.2 ++ ',' :: ' ' :: writeEntries (f :: rest)) := by
  rw [writeEntries.eq_3]
  exact nofun

theorem intercalate_itemPieces (before : List Char) (v : Value) (rest : List Value) :
    [','].intercalate ((itemPieces before (v :: rest)).map Piece.spelled) =
      before ++ writeItems (v :: rest) := by
  induction rest generalizing before v with
  | nil => simp [itemPieces, Piece.spelled, writeItems]
  | cons w rest ih =>
    have later := ih [' '] w
    simp only [itemPieces, List.map_cons, List.intercalate_cons_cons, Piece.spelled] at later ⊢
    rw [later, writeItems_cons]
    simp

theorem intercalate_entryPieces (before : List Char) (e : String × Value) (rest : List (String × Value)) :
    [','].intercalate ((entryPieces before (e :: rest)).map Entry.spelled) =
      before ++ writeEntries (e :: rest) := by
  induction rest generalizing before e with
  | nil => simp [entryPieces, Entry.spelled, Piece.spelled, writeEntries, writeText]
  | cons f rest ih =>
    have later := ih [' '] f
    simp only [entryPieces, List.map_cons, List.intercalate_cons_cons, Entry.spelled] at later ⊢
    rw [later, writeEntries_cons]
    simp [Piece.spelled, writeText]

theorem values_itemPieces (before : List Char) (items : List Value) :
    (itemPieces before items).map Piece.value = items := by
  induction items generalizing before with
  | nil => rfl
  | cons v rest ih => rw [itemPieces, List.map_cons, ih]

theorem assigned_entryPieces (before : List Char) (entries : List (String × Value)) :
    (entryPieces before entries).map Entry.assigned = entries := by
  induction entries generalizing before with
  | nil => rfl
  | cons e rest ih =>
    rw [entryPieces, List.map_cons, ih, Entry.assigned, String.ofList_toList]

theorem blank_nil : Blank [] := nofun

theorem blank_space : Blank [' '] := by
  intro c listed
  rw [List.mem_singleton.mp listed]
  rfl

theorem mem_itemPieces {before : List Char} (blank : Blank before) {items : List Value} {p : Piece}
    (listed : p ∈ itemPieces before items) : p.Padded ∧ p.value ∈ items ∧ p.text = write p.value := by
  induction items generalizing before with
  | nil => cases listed
  | cons v rest ih =>
    rcases List.mem_cons.mp listed with rfl | later
    · exact ⟨⟨blank, nofun⟩, List.mem_cons_self, rfl⟩
    · obtain ⟨padded, among, text⟩ := ih blank_space later
      exact ⟨padded, List.mem_cons_of_mem v among, text⟩

theorem mem_entryPieces {before : List Char} (blank : Blank before) {entries : List (String × Value)}
    {e : Entry} (listed : e ∈ entryPieces before entries) :
    e.Padded ∧ (∃ f ∈ entries, e.piece.value = f.2) ∧ e.piece.text = write e.piece.value := by
  induction entries generalizing before with
  | nil => cases listed
  | cons f rest ih =>
    rcases List.mem_cons.mp listed with rfl | later
    · exact ⟨⟨blank, nofun, ⟨blank_space, nofun⟩, characters_escape _⟩, ⟨f, List.mem_cons_self, rfl⟩, rfl⟩
    · obtain ⟨padded, ⟨g, among, same⟩, text⟩ := ih blank_space later
      exact ⟨padded, ⟨g, List.mem_cons_of_mem f among, same⟩, text⟩

theorem assignAll_of_nodup {entries : List (String × Value)} (distinct : (entries.map Prod.fst).Nodup) :
    assignAll entries = entries := by
  induction entries using List.reverseRecOn with
  | nil => rfl
  | append_singleton entries e ih =>
    rw [List.map_append, List.nodup_append] at distinct
    have fresh : e.1 ∉ entries.map Prod.fst := by
      intro listed
      exact distinct.2.2 e.1 listed e.1 (by simp) rfl
    have earlier := ih distinct.1
    rw [assignAll] at earlier ⊢
    rw [List.foldl_append, earlier]
    exact Value.assign_of_not_mem fresh e.2

theorem denotes_write {v : Value} (exact_v : Exact v) : Denotes (write v) v := by
  induction exact_v with
  | null => exact .null
  | bool b =>
    cases b with
    | true => exact .yes
    | false => exact .no
  | int n => exact .whole (whole_written n)
  | text s => exact denotes_writeText s
  | @list items each ih =>
    cases items with
    | nil => exact .emptyList nofun
    | cons v rest =>
      have written : Denotes _ (.list ((itemPieces [] (v :: rest)).map Piece.value)) :=
        .list nofun (fun p listed => (mem_itemPieces blank_nil listed).1) fun p listed => by
          obtain ⟨-, among, text⟩ := mem_itemPieces blank_nil listed
          rw [text]
          exact ih p.value among
      rw [values_itemPieces, intercalate_itemPieces] at written
      exact written
  | @table entries distinct each ih =>
    cases entries with
    | nil => exact .emptyTable nofun
    | cons e rest =>
      have written : Denotes _ (.table (assignAll ((entryPieces [] (e :: rest)).map Entry.assigned))) :=
        .table nofun (fun f listed => (mem_entryPieces blank_nil listed).1) fun f listed => by
          obtain ⟨-, ⟨g, among, same⟩, text⟩ := mem_entryPieces blank_nil listed
          rw [text, same]
          exact ih g among
      rw [assigned_entryPieces, intercalate_entryPieces, assignAll_of_nodup distinct] at written
      exact written

theorem isText_write {v : Value} (exact_v : Exact v) : IsText (write v) v := by
  refine ⟨⟨[], write v, [], v⟩, ⟨nofun, nofun⟩, denotes_write exact_v, ?_, rfl⟩
  simp [Piece.spelled]

/-! One line. -/

/-- None of the characters is a control character. -/
def Printed (cs : List Char) : Prop := ∀ c ∈ cs, 0x20 ≤ c.toNat

theorem Printed.append {cs ds : List Char} (first : Printed cs) (second : Printed ds) : Printed (cs ++ ds) :=
  List.forall_mem_append.mpr ⟨first, second⟩

theorem Printed.cons {c : Char} {cs : List Char} (first : 0x20 ≤ c.toNat) (rest : Printed cs) :
    Printed (c :: cs) := List.forall_mem_cons.mpr ⟨first, rest⟩

theorem printed_nil : Printed [] := nofun

theorem printed_hexDigit {n : Nat} (digit : n < 16) : 0x20 ≤ (Text.hexDigit n).toNat := by
  have each : ∀ k : Fin 16, 0x20 ≤ (Text.hexDigit k.val).toNat := by decide
  exact each ⟨n, digit⟩

theorem printed_hex (places n : Nat) : Printed (Text.hex places n) := by
  induction places generalizing n with
  | zero => exact printed_nil
  | succ places ih =>
    exact (ih (n / 16)).append (.cons (printed_hexDigit (Nat.mod_lt n (by decide))) printed_nil)

theorem printed_escape (c : Char) : Printed (escape c) := by
  rcases escape_cases c with ⟨e, listed, same⟩ | ⟨-, same⟩ | ⟨-, -, printed, same⟩
  · have each : ∀ x ∈ shortEscapes, 0x20 ≤ x.1.toNat := by decide
    rw [same]
    exact .cons (by decide) (.cons (each (e, c) listed) printed_nil)
  · rw [same]
    exact .cons (by decide) (.cons (by decide) (printed_hex 4 c.toNat))
  · rw [same]
    exact .cons printed printed_nil

theorem printed_writeText (s : String) : Printed (writeText s) := by
  refine .cons (by decide) (.append ?_ (.cons (by decide) printed_nil))
  intro d listed
  obtain ⟨c, -, among⟩ := List.mem_flatMap.mp listed
  exact printed_escape c d among

theorem printed_toDigits (n : Nat) : Printed (Nat.toDigits 10 n) := by
  intro c listed
  have digit := Nat.isDigit_of_mem_toDigits (by decide) (by decide) listed
  rw [Char.isDigit_iff_toNat] at digit
  exact Nat.le_trans (by decide) digit.1

theorem printed_writeItems {items : List Value} (each : ∀ v ∈ items, Printed (write v)) :
    Printed (writeItems items) := by
  induction items with
  | nil => exact printed_nil
  | cons v rest ih =>
    rw [List.forall_mem_cons] at each
    cases rest with
    | nil => exact each.1
    | cons w rest =>
      rw [writeItems_cons]
      exact each.1.append (.cons (by decide) (.cons (by decide) (ih each.2)))

theorem printed_writeEntries {entries : List (String × Value)} (each : ∀ e ∈ entries, Printed (write e.2)) :
    Printed (writeEntries entries) := by
  induction entries with
  | nil => exact printed_nil
  | cons e rest ih =>
    rw [List.forall_mem_cons] at each
    cases rest with
    | nil => exact (printed_writeText e.1).append (.cons (by decide) (.cons (by decide) each.1))
    | cons f rest =>
      rw [writeEntries_cons]
      refine (printed_writeText e.1).append (.cons (by decide) (.cons (by decide) (each.1.append ?_)))
      exact .cons (by decide) (.cons (by decide) (ih each.2))

theorem printed_write {v : Value} (exact_v : Exact v) : Printed (write v) := by
  induction exact_v with
  | null => simp [write, Printed]
  | bool b =>
    cases b with
    | true => simp [write, Printed]
    | false => simp [write, Printed]
  | int n =>
    cases n with
    | ofNat n => exact printed_toDigits n
    | negSucc n => exact .cons (by decide) (printed_toDigits (n + 1))
  | text s => exact printed_writeText s
  | list _ ih => exact .cons (by decide) ((printed_writeItems ih).append (.cons (by decide) printed_nil))
  | table _ _ ih => exact .cons (by decide) ((printed_writeEntries ih).append (.cons (by decide) printed_nil))

end Json

end C64Screen
