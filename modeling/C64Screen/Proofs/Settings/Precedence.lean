import C64Screen.Proofs.Settings.Acceptance
import C64Screen.Proofs.Text.Sorting
import C64Screen.Proofs.Value.Entries

/-!
# Which fault is reported

A section may have several faults at once, and one error is given for all of them. Which error each value of a key
would bring is said first, without the readers. Unknown keys then come before all values, and of the values the first
faulty one in the order of the keys is reported, whatever the keys behind it hold. The entries count by their keys
alone, so sections that differ in the order of their entries have the same outcome.

The words of a message are those of its fault. They name the key, and they quote the text or the number that is not
accepted.
-/

namespace C64Screen

def error? {ε α : Type} : Except ε α → Option ε
  | .error e => some e
  | .ok _ => none

section Binding

variable {ε α β : Type} {x : Except ε α} {f : α → Except ε β}

theorem error?_eq_some_iff {e : ε} : error? x = some e ↔ x = .error e := by
  cases x <;> simp [error?]

/-- What follows fails in one way, or not at all, whatever came before. -/
theorem error?_bind {later : Option ε} (same : ∀ a, error? (f a) = later) :
    error? (x >>= f) = (error? x).or later := by
  cases x with
  | error e => rfl
  | ok a => exact same a

theorem findSome?_cons_eq_or {γ : Type} {g : α → Option γ} {a : α} {as : List α} :
    (a :: as).findSome? g = (g a).or (as.findSome? g) := by
  rw [List.findSome?_cons]
  cases g a <;> rfl

end Binding

namespace Settings

def Key.IsDimension (key : Key) : Prop := key ∈ [Key.width, .height, .fontSize]

def Key.IsColour (key : Key) : Prop := key ∈ [Key.border, .background, .cursor]

/-- Integers and texts, which are the values that can stand for an integer. -/
def IsNumeral : Value → Prop
  | .int _ | .text _ => True
  | _ => False

/-- What is wrong with the value of a key, and the error that says so. -/
inductive Fault : Key → Value → Error → Prop where
  | notAnInteger {key : Key} {v : Value} (numeric : key.IsDimension ∨ key.IsColour) (other : ¬ IsNumeral v) :
    Fault key v (.notAnInteger key)
  | unreadable {key : Key} {s : String} (numeric : key.IsDimension ∨ key.IsColour)
    (unread : ∀ n, ¬ Gives (.text s) n) : Fault key (.text s) (.unreadable key s)
  | notPositive {key : Key} {v : Value} {n : Int} (dimension : key.IsDimension) (gives : Gives v n)
    (low : n ≤ 0) : Fault key v (.notPositive key n)
  | outOfRange {key : Key} {v : Value} {n : Int} (colour : key.IsColour) (gives : Gives v n)
    (outside : n < 0 ∨ 15 < n) : Fault key v (.outOfRange key n)
  | notABoolean {v : Value} (other : ∀ b, v ≠ .bool b) : Fault .testPicture v (.notABoolean .testPicture)

/-- The words for what is wrong with the value of a key. -/
inductive Wording : Key → Value → String → Prop where
  | notAnInteger {key : Key} {v : Value} (numeric : key.IsDimension ∨ key.IsColour) (other : ¬ IsNumeral v) :
    Wording key v ("screen." ++ key.text ++ " must be an integer")
  | unreadable {key : Key} {s : String} (numeric : key.IsDimension ∨ key.IsColour)
    (unread : ∀ n, ¬ Gives (.text s) n) :
    Wording key (.text s) ("screen." ++ key.text ++ " must be an integer, received " ++ Text.quoted s)
  | notPositive {key : Key} {v : Value} {n : Int} (dimension : key.IsDimension) (gives : Gives v n)
    (low : n ≤ 0) : Wording key v ("screen." ++ key.text ++ " must be positive, received " ++ Numeral.text n)
  | outOfRange {key : Key} {v : Value} {n : Int} (colour : key.IsColour) (gives : Gives v n)
    (outside : n < 0 ∨ 15 < n) :
    Wording key v ("screen." ++ key.text ++ " " ++ Numeral.text n ++ " outside supported range 0-15")
  | notABoolean {v : Value} (other : ∀ b, v ≠ .bool b) :
    Wording .testPicture v "screen.test_picture must be a boolean"

theorem Fault.wording {key : Key} {v : Value} {e : Error} (fault : Fault key v e) : Wording key v e.message := by
  cases fault with
  | notAnInteger numeric other => exact .notAnInteger numeric other
  | unreadable numeric unread => exact .unreadable numeric unread
  | notPositive dimension gives low => exact .notPositive dimension gives low
  | outOfRange colour gives outside => exact .outOfRange colour gives outside
  | notABoolean other => exact .notABoolean other

example : (Error.unreadable .cursor "red").message = "screen.cursor_colour must be an integer, received 'red'" := by
  decide

section Readers

variable {key : Key} {v : Value} {e : Error}

theorem integer_eq_error_iff :
    integer key v = .error e ↔
      (¬ IsNumeral v ∧ e = .notAnInteger key) ∨
        ∃ s, v = .text s ∧ (∀ n, ¬ Gives (.text s) n) ∧ e = .unreadable key s := by
  cases v with
  | int n => simp [integer, IsNumeral]
  | text s =>
    have unread : (∀ n, ¬ Gives (.text s) n) ↔ Numeral.integer? (Unicode.trim Unicode.isBlank s.toList) = none := by
      rw [Option.eq_none_iff_forall_ne_some]
      exact forall_congr' fun n => not_congr ⟨fun gives => by cases gives; assumption, .text⟩
    rw [integer]
    split
    · next read => simp [IsNumeral, unread, read]
    · next unreadable => simp [IsNumeral, unread, unreadable, eq_comm]
  | _ => simp [integer, IsNumeral, eq_comm]

theorem dimension_eq_error_iff :
    dimension key v = .error e ↔
      integer key v = .error e ∨ ∃ n, Gives v n ∧ n ≤ 0 ∧ e = .notPositive key n := by
  rw [dimension, bind_eq_error_iff]
  refine or_congr_right (exists_congr fun n => and_congr integer_eq_ok_iff ?_)
  rw [← Size.ofInt?_eq_none_iff]
  constructor
  · intro failed
    split at failed
    · cases failed
    · next refused =>
      cases failed
      exact ⟨refused, rfl⟩
  · rintro ⟨refused, rfl⟩
    rw [refused]
    rfl

theorem colour_eq_error_iff :
    colour key v = .error e ↔
      integer key v = .error e ∨ ∃ n, Gives v n ∧ (n < 0 ∨ 15 < n) ∧ e = .outOfRange key n := by
  rw [colour, bind_eq_error_iff]
  refine or_congr_right (exists_congr fun n => and_congr integer_eq_ok_iff ?_)
  have outside : n < 0 ∨ 15 < n ↔ Colour.ofInt? n = none := by
    rw [← Option.not_isSome_iff_eq_none, Colour.ofInt?_isSome_iff]
    omega
  rw [outside]
  constructor
  · intro failed
    split at failed
    · cases failed
    · next refused =>
      cases failed
      exact ⟨refused, rfl⟩
  · rintro ⟨refused, rfl⟩
    rw [refused]
    rfl

theorem flag_eq_error_iff : flag key v = .error e ↔ (∀ b, v ≠ .bool b) ∧ e = .notABoolean key := by
  cases v <;> simp [flag, eq_comm]

/-- What is wrong with an integer is wrong with a dimension and with a colour. -/
theorem Fault.of_integer (numeric : key.IsDimension ∨ key.IsColour) (failed : integer key v = .error e) :
    Fault key v e := by
  rcases integer_eq_error_iff.mp failed with ⟨other, rfl⟩ | ⟨s, rfl, unread, rfl⟩
  · exact .notAnInteger numeric other
  · exact .unreadable numeric unread

theorem Key.refuses_iff_of_isDimension (dimension : key.IsDimension) :
    key.Refuses v e ↔ Settings.dimension key v = .error e := by
  cases key with
  | width | height | fontSize => rfl
  | _ => simp [IsDimension] at dimension

theorem Key.refuses_iff_of_isColour (colour : key.IsColour) :
    key.Refuses v e ↔ Settings.colour key v = .error e := by
  cases key with
  | border | background | cursor => rfl
  | _ => simp [IsColour] at colour

theorem Key.kind (key : Key) : key.IsDimension ∨ key.IsColour ∨ key = .testPicture := by
  cases key <;> simp [IsDimension, IsColour]

/-- A reader fails with the errors of the faults of its key, and with no others. -/
theorem refuses_iff_fault : key.Refuses v e ↔ Fault key v e := by
  constructor
  · intro refuses
    rcases key.kind with dimension | colour | rfl
    · rw [Key.refuses_iff_of_isDimension dimension, dimension_eq_error_iff] at refuses
      rcases refuses with failed | ⟨n, gives, low, rfl⟩
      · exact .of_integer (.inl dimension) failed
      · exact .notPositive dimension gives low
    · rw [Key.refuses_iff_of_isColour colour, colour_eq_error_iff] at refuses
      rcases refuses with failed | ⟨n, gives, outside, rfl⟩
      · exact .of_integer (.inr colour) failed
      · exact .outOfRange colour gives outside
    · obtain ⟨other, rfl⟩ := flag_eq_error_iff.mp refuses
      exact .notABoolean other
  · intro fault
    cases fault with
    | notAnInteger numeric other =>
      have failed : integer key v = .error (.notAnInteger key) := integer_eq_error_iff.mpr (.inl ⟨other, rfl⟩)
      rcases numeric with dimension | colour
      · exact (Key.refuses_iff_of_isDimension dimension).mpr (dimension_eq_error_iff.mpr (.inl failed))
      · exact (Key.refuses_iff_of_isColour colour).mpr (colour_eq_error_iff.mpr (.inl failed))
    | @unreadable _ s numeric unread =>
      have failed : integer key (.text s) = .error (.unreadable key s) :=
        integer_eq_error_iff.mpr (.inr ⟨s, rfl, unread, rfl⟩)
      rcases numeric with dimension | colour
      · exact (Key.refuses_iff_of_isDimension dimension).mpr (dimension_eq_error_iff.mpr (.inl failed))
      · exact (Key.refuses_iff_of_isColour colour).mpr (colour_eq_error_iff.mpr (.inl failed))
    | notPositive dimension gives low =>
      exact (Key.refuses_iff_of_isDimension dimension).mpr (dimension_eq_error_iff.mpr (.inr ⟨_, gives, low, rfl⟩))
    | outOfRange colour gives outside =>
      exact (Key.refuses_iff_of_isColour colour).mpr (colour_eq_error_iff.mpr (.inr ⟨_, gives, outside, rfl⟩))
    | notABoolean other => exact flag_eq_error_iff.mpr ⟨other, rfl⟩

end Readers

/-! The first fault of a section. -/

def Key.failure? (key : Key) (given : Value) : Option Error :=
  match key with
  | .width | .height | .fontSize => error? (dimension key given)
  | .border | .background | .cursor => error? (colour key given)
  | .testPicture => error? (flag key given)

theorem Key.failure?_eq_some_iff {key : Key} {given : Value} {e : Error} :
    key.failure? given = some e ↔ Fault key given e := by
  rw [← refuses_iff_fault]
  cases key <;> exact error?_eq_some_iff

/-- The error of an entry, if it has one. A key that is absent has none. -/
def failureOf? (entries : List (String × Value)) (key : Key) : Option Error :=
  (Value.lookup key.text entries).bind key.failure?

section Sections

variable {entries : List (String × Value)} {e : Error}

theorem error?_entry {α : Type} (read : Key → Value → Except Error α) (default : α) (key : Key) :
    error? (entry read default entries key) = (Value.lookup key.text entries).bind fun v => error? (read key v) := by
  rw [entry]
  cases Value.lookup key.text entries <;> rfl

/-- With all keys known, the section fails as the first of its entries that fails, in the order of the keys. -/
theorem error?_ofSection (known : unknownKeys entries = []) :
    error? (ofSection entries) = Key.all.findSome? (failureOf? entries) := by
  rw [ofSection, known, Key.all]
  -- one step for each key: its entry fails, or else what fails is what the later keys make fail
  iterate 7
    rw [findSome?_cons_eq_or]
    refine (error?_bind fun _ => ?_).trans (congrArg (Option.or · _) (error?_entry ..))
  rfl

theorem failureOf?_eq_some_iff {key : Key} :
    failureOf? entries key = some e ↔
      ∃ given, Value.lookup key.text entries = some given ∧ Fault key given e := by
  rw [failureOf?, Option.bind_eq_some_iff]
  exact exists_congr fun given => and_congr_right fun _ => Key.failure?_eq_some_iff

theorem failureOf?_eq_none_iff {key : Key} :
    failureOf? entries key = none ↔
      ∀ given, Value.lookup key.text entries = some given → ∀ e, ¬ Fault key given e := by
  simp only [Option.eq_none_iff_forall_ne_some, ne_eq, failureOf?_eq_some_iff, not_exists, not_and]
  exact forall_comm.trans (forall_congr' fun _ => forall_comm)

/-- A key holds a value, and the keys before it have no fault. -/
def Reaches (entries : List (String × Value)) (key : Key) (given : Value) : Prop :=
  ∃ earlier later, Key.all = earlier ++ key :: later ∧
    (∀ k ∈ earlier, ∀ v, Value.lookup k.text entries = some v → ∀ e, ¬ Fault k v e) ∧
      Value.lookup key.text entries = some given

/-- The unknown keys of a section, each once, in the order of texts. -/
structure Unlisted (entries : List (String × Value)) (names : List String) : Prop where
  nonempty : names ≠ []
  ascending : names.Pairwise (· < ·)
  exact : ∀ name, name ∈ names ↔ name ∈ entries.map Prod.fst ∧ name ∉ Key.known

theorem eq_unknownKeys_iff {names : List String} :
    names = unknownKeys entries ↔
      names.Pairwise (· < ·) ∧ ∀ name, name ∈ names ↔ name ∈ entries.map Prod.fst ∧ name ∉ Key.known := by
  rw [unknownKeys, Text.eq_sorted_iff]
  simp only [List.mem_filter, Bool.not_eq_true', List.contains_eq_mem, decide_eq_false_iff_not]

theorem unlisted_iff {names : List String} :
    Unlisted entries names ↔ unknownKeys entries ≠ [] ∧ names = unknownKeys entries := by
  rw [eq_unknownKeys_iff]
  constructor
  · intro unlisted
    have same := eq_unknownKeys_iff.mpr ⟨unlisted.ascending, unlisted.exact⟩
    exact ⟨same ▸ unlisted.nonempty, unlisted.ascending, unlisted.exact⟩
  · rintro ⟨nonempty, ascending, exact⟩
    exact ⟨eq_unknownKeys_iff.mpr ⟨ascending, exact⟩ ▸ nonempty, ascending, exact⟩

/-- Unknown keys come first, and after them the first key with a fault. -/
theorem ofSection_eq_error_iff :
    ofSection entries = .error e ↔
      (∃ names, Unlisted entries names ∧ e = .unknownKeys names) ∨
        (∀ entry ∈ entries, entry.1 ∈ Key.known) ∧ ∃ key given, Reaches entries key given ∧ Fault key given e := by
  rw [← unknownKeys_eq_nil_iff]
  by_cases known : unknownKeys entries = []
  · have listed : ¬ ∃ names, Unlisted entries names ∧ e = .unknownKeys names := by
      rintro ⟨names, unlisted, -⟩
      exact (unlisted_iff.mp unlisted).1 known
    rw [or_iff_right listed, and_iff_right known, ← error?_eq_some_iff, error?_ofSection known,
      List.findSome?_eq_some_iff]
    simp only [failureOf?_eq_some_iff, failureOf?_eq_none_iff]
    constructor
    · rintro ⟨earlier, key, later, order, ⟨given, found, fault⟩, sound⟩
      exact ⟨key, given, ⟨earlier, later, order, sound, found⟩, fault⟩
    · rintro ⟨key, given, ⟨earlier, later, order, sound, found⟩, fault⟩
      exact ⟨earlier, key, later, order, ⟨given, found, fault⟩, sound⟩
  · rw [ofSection_of_unknown known, or_iff_left fun other => known other.1]
    constructor
    · rintro ⟨⟩
      exact ⟨_, unlisted_iff.mpr ⟨known, rfl⟩, rfl⟩
    · rintro ⟨names, unlisted, rfl⟩
      rw [(unlisted_iff.mp unlisted).2]

/-! Sections with the same outcome. -/

/-- Values that no reader tells apart. -/
inductive Alike : Value → Value → Prop where
  | refl (v : Value) : Alike v v
  | number {v w : Value} {n : Int} (left : Gives v n) (right : Gives w n) : Alike v w

theorem Alike.rel_refl (given : Option Value) : Option.Rel Alike given given := by
  cases given with
  | none => exact .none
  | some v => exact .some (.refl v)

theorem Alike.dimension {v w : Value} (alike : Alike v w) (key : Key) :
    Settings.dimension key v = Settings.dimension key w := by
  cases alike with
  | refl => rfl
  | number left right => rw [dimension_of_gives left, dimension_of_gives right]

theorem Alike.colour {v w : Value} (alike : Alike v w) (key : Key) :
    Settings.colour key v = Settings.colour key w := by
  cases alike with
  | refl => rfl
  | number left right => rw [colour_of_gives left, colour_of_gives right]

theorem Gives.flag {v : Value} {n : Int} (gives : Gives v n) (key : Key) :
    Settings.flag key v = .error (.notABoolean key) := by
  cases gives <;> rfl

theorem Alike.flag {v w : Value} (alike : Alike v w) (key : Key) :
    Settings.flag key v = Settings.flag key w := by
  cases alike with
  | refl => rfl
  | number left right => rw [left.flag, right.flag]

variable {others : List (String × Value)}

theorem entry_congr {α : Type} {read : Key → Value → Except Error α} {default : α} {key : Key}
    (same : Option.Rel Alike (Value.lookup key.text entries) (Value.lookup key.text others))
    (blind : ∀ v w, Alike v w → read key v = read key w) :
    entry read default entries key = entry read default others key := by
  rw [entry, entry]
  generalize Value.lookup key.text entries = given, Value.lookup key.text others = other at same ⊢
  cases same with
  | none => rfl
  | some alike => exact blind _ _ alike

theorem ofSection_congr (names : ∀ name, name ∈ entries.map Prod.fst ↔ name ∈ others.map Prod.fst)
    (same : ∀ key : Key, Option.Rel Alike (Value.lookup key.text entries) (Value.lookup key.text others)) :
    ofSection entries = ofSection others := by
  have unknown : unknownKeys entries = unknownKeys others := by
    rw [eq_unknownKeys_iff]
    have own := eq_unknownKeys_iff.mp (Eq.refl (unknownKeys entries))
    exact ⟨own.1, fun name => by rw [own.2, names]⟩
  have dimension (key : Key) (default : Size) :
      entry Settings.dimension default entries key = entry Settings.dimension default others key :=
    entry_congr (same key) fun _ _ alike => alike.dimension key
  have colour (key : Key) (default : Colour) :
      entry Settings.colour default entries key = entry Settings.colour default others key :=
    entry_congr (same key) fun _ _ alike => alike.colour key
  have flag (key : Key) (default : Bool) :
      entry Settings.flag default entries key = entry Settings.flag default others key :=
    entry_congr (same key) fun _ _ alike => alike.flag key
  simp only [ofSection, unknown, dimension, colour, flag]

theorem ofSection_perm (distinct : (entries.map Prod.fst).Nodup) (perm : entries.Perm others) :
    ofSection others = ofSection entries := by
  refine ofSection_congr (fun name => (perm.map Prod.fst).symm.mem_iff) fun key => ?_
  rw [Value.lookup_perm distinct perm]
  exact Alike.rel_refl _

end Sections

/-! Documents. -/

section Documents

variable {document entries : List (String × Value)}

/-- What the message for a document is about, and its words. -/
inductive Complaint (document : List (String × Value)) : String → Prop where
  | noSection (missing : ∀ v, Value.lookup "screen" document = some v → v = .null) :
    Complaint document "screen configuration requires a [screen] table"
  | sectionNotATable {v : Value} (found : Value.lookup "screen" document = some v) (something : v ≠ .null)
    (other : ∀ entries, v ≠ .table entries) : Complaint document "[screen] section must be a mapping"
  | unknownKeys {entries : List (String × Value)} {names : List String}
    (found : Value.lookup "screen" document = some (.table entries)) (unlisted : Unlisted entries names) :
    Complaint document ("unknown [screen] keys: " ++ ", ".intercalate names)
  | fault {entries : List (String × Value)} {key : Key} {given : Value} {words : String}
    (found : Value.lookup "screen" document = some (.table entries)) (known : ∀ entry ∈ entries, entry.1 ∈ Key.known)
    (reaches : Reaches entries key given) (worded : Wording key given words) : Complaint document words

/-- Whatever the error, its words are those for what is wrong with the document. -/
theorem complaint_of_ofDocument_eq_error {e : Error} (refused : ofDocument document = .error e) :
    Complaint document e.message := by
  cases found : Value.lookup "screen" document with
  | none =>
    rw [ofDocument, found] at refused
    cases refused
    refine .noSection fun v held => ?_
    rw [found] at held
    cases held
  | some v =>
    cases v with
    | null =>
      rw [ofDocument, found] at refused
      cases refused
      exact .noSection fun v held => (Option.some.inj (found.symm.trans held)).symm
    | table entries =>
      rw [ofDocument_of_section found] at refused
      rcases ofSection_eq_error_iff.mp refused with ⟨names, unlisted, rfl⟩ | ⟨known, key, given, reaches, fault⟩
      · exact .unknownKeys found unlisted
      · exact .fault found known reaches fault.wording
    | _ =>
      rw [ofDocument, found] at refused
      cases refused
      refine .sectionNotATable found ?_ ?_
      · rintro ⟨⟩
      · rintro entries ⟨⟩

/-- What an error says, where its number is not too long for that. -/
theorem message?_of_isOfSettings {e : Error} (proper : (LoadError.settings e).isOfSettings = true) :
    (LoadError.settings e).message? = some e.message := by
  have short : e.quotesLongNumber = false := by simpa [LoadError.isOfSettings] using proper
  simp [LoadError.message?, short]

/-- The outcome of a document whose section has no key twice. It is that of any arrangement of the entries. The error
is that of the unknown keys or else of the first key with a fault, and it is settled by that key and its value. It is
an error of the settings, with its message, unless it would quote an integer too long for that. The words of the
message are those for the unknown keys or for the value of that key. -/
theorem ofDocument_precedence (found : Value.lookup "screen" document = some (.table entries))
    (distinct : (entries.map Prod.fst).Nodup) :
    (∀ other arranged, Value.lookup "screen" other = some (.table arranged) → entries.Perm arranged →
      ofDocument other = ofDocument document) ∧
    (∀ e, ofDocument document = .error e ↔
      (∃ names, Unlisted entries names ∧ e = .unknownKeys names) ∨
        (∀ entry ∈ entries, entry.1 ∈ Key.known) ∧ ∃ key given, Reaches entries key given ∧ Fault key given e) ∧
    (∀ other changed key given, Value.lookup "screen" other = some (.table changed) →
      (∀ entry ∈ entries, entry.1 ∈ Key.known) → (∀ entry ∈ changed, entry.1 ∈ Key.known) →
        Reaches entries key given → Reaches changed key given → (∃ e, Fault key given e) →
          ofDocument other = ofDocument document) ∧
    ∀ e, ofDocument document = .error e →
      ((LoadError.settings e).isOfSettings = true → (LoadError.settings e).message? = some e.message) ∧
      Complaint document e.message ∧
      ((LoadError.settings e).isOfSettings = false ↔
        ∃ (key : Key) (n : Int), Value.lookup key.text entries = some (.int n) ∧ Numeral.isShort n = false ∧
          (e = .notPositive key n ∨ e = .outOfRange key n)) := by
  refine ⟨?_, ?_, ?_, ?_⟩
  · intro other arranged held perm
    rw [ofDocument_of_section held, ofDocument_of_section found, ofSection_perm distinct perm]
  · intro e
    rw [ofDocument_of_section found, ofSection_eq_error_iff]
  · rintro other changed key given held known changedKnown reaches changedReaches ⟨e, fault⟩
    rw [ofDocument_of_section held, ofDocument_of_section found,
      ofSection_eq_error_iff.mpr (.inr ⟨known, key, given, reaches, fault⟩),
      ofSection_eq_error_iff.mpr (.inr ⟨changedKnown, key, given, changedReaches, fault⟩)]
  · intro e refused
    refine ⟨message?_of_isOfSettings, complaint_of_ofDocument_eq_error refused, ?_⟩
    constructor
    · intro improper
      have long : e.quotesLongNumber = true := by simpa [LoadError.isOfSettings] using improper
      obtain ⟨section', key, n, held, listed, tooLong, quoted⟩ := long_of_ofDocument_eq_error refused long
      cases found.symm.trans held
      exact ⟨key, n, listed, tooLong, quoted⟩
    · rintro ⟨key, n, -, tooLong, rfl | rfl⟩
      · simp [LoadError.isOfSettings, Error.quotesLongNumber, tooLong]
      · simp [LoadError.isOfSettings, Error.quotesLongNumber, tooLong]

theorem ofDocument_precedence_three :
    let entries := [("test_picture", .int 1), ("cursor_colour", .text "red"), ("height", .text " 0 ")]
    ofDocument [("screen", .table entries)] = .error (.notPositive .height 0) ∧
      Complaint [("screen", .table entries)] "screen.height must be positive, received 0" ∧
      ofDocument [("screen", .table entries.reverse)] = ofDocument [("screen", .table entries)] := by
  intro entries
  have distinct : (entries.map Prod.fst).Nodup := by decide
  have known : ∀ entry ∈ entries, entry.1 ∈ Key.known := by simp [entries, Key.known, Key.all, Key.text]
  have reaches : Reaches entries .height (.text " 0 ") := by
    refine ⟨[.width], _, rfl, ?_, rfl⟩
    rintro k listed v held
    cases List.mem_singleton.mp listed
    cases held
  have fault : Fault .height (.text " 0 ") (.notPositive .height 0) :=
    .notPositive (by simp [Key.IsDimension]) (.text (by decide)) (by decide)
  obtain ⟨unordered, refused, -, worded⟩ := @ofDocument_precedence [("screen", .table entries)] entries rfl distinct
  have first : ofDocument [("screen", .table entries)] = .error (.notPositive .height 0) :=
    (refused _).mpr (.inr ⟨known, _, _, reaches, fault⟩)
  have message : (Error.notPositive .height 0).message = "screen.height must be positive, received 0" := by decide
  refine ⟨first, ?_, unordered _ _ rfl entries.reverse_perm.symm⟩
  rw [← message]
  exact (worded _ first).2.1

/-- A colour that is out of range, with one digit too many to be quoted, before a flag that is none. -/
theorem ofDocument_unquotable :
    let entries := [("cursor_colour", .int (10 ^ Numeral.mostDigits)), ("test_picture", .int 1)]
    ∃ e, ofDocument [("screen", .table entries)] = .error e ∧ (LoadError.settings e).isOfSettings = false ∧
      (LoadError.settings e).message? = some Numeral.tooLong := by
  intro entries
  have known : ∀ entry ∈ entries, entry.1 ∈ Key.known := by simp [entries, Key.known, Key.all, Key.text]
  have reaches : Reaches entries .cursor (.int (10 ^ Numeral.mostDigits)) := by
    refine ⟨[.width, .height, .fontSize, .border, .background], _, rfl, ?_, rfl⟩
    intro k listed v held
    have absent : k.text ∉ entries.map Prod.fst :=
      (by decide : ∀ k ∈ [Key.width, .height, .fontSize, .border, .background],
        k.text ∉ ["cursor_colour", "test_picture"]) k listed
    rw [Value.lookup_eq_none_iff.mpr absent] at held
    cases held
  have large : (15 : Int) < 10 ^ Numeral.mostDigits := Int.lt_of_lt_of_le (by decide) Numeral.hundred_le_pow
  have fault : Fault .cursor (.int (10 ^ Numeral.mostDigits)) (.outOfRange .cursor (10 ^ Numeral.mostDigits)) :=
    .outOfRange (by simp [Key.IsColour]) (.int _) (.inr large)
  have refused : ofDocument [("screen", .table entries)] = .error (.outOfRange .cursor (10 ^ Numeral.mostDigits)) := by
    rw [ofDocument_of_section rfl, ofSection_eq_error_iff]
    exact .inr ⟨known, _, _, reaches, fault⟩
  refine ⟨_, refused, ?_, ?_⟩
  · simp [LoadError.isOfSettings, Error.quotesLongNumber, Numeral.not_isShort_pow]
  · simp [LoadError.message?, Error.quotesLongNumber, Numeral.not_isShort_pow]

end Documents

end Settings

end C64Screen
