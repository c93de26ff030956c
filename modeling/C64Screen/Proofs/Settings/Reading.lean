import C64Screen.Proofs.Text.Numerals
import C64Screen.Proofs.Value.Kinds
import C64Screen.Settings.Load

/-!
# Reading settings

What a section may hold, said without the readers: which values stand for an integer, which of these a key
takes, and what becomes of a key that is absent. The readers accept a section exactly if it is like that, and
the settings they give are the only ones that agree with it. A reader that refuses is refused by one value, and
the error quotes that value.
-/

namespace C64Screen

section Binding

variable {ε α β : Type} {x : Except ε α} {f : α → Except ε β}

theorem bind_eq_ok_iff {b : β} : x >>= f = .ok b ↔ ∃ a, x = .ok a ∧ f a = .ok b := by
  cases x with
  | error e => exact ⟨nofun, nofun⟩
  | ok a =>
    constructor
    · intro done
      exact ⟨a, rfl, done⟩
    · rintro ⟨_, ⟨⟩, done⟩
      exact done

theorem bind_eq_error_iff {e : ε} :
    x >>= f = .error e ↔ x = .error e ∨ ∃ a, x = .ok a ∧ f a = .error e := by
  cases x with
  | error d =>
    constructor
    · rintro ⟨⟩
      exact .inl rfl
    · rintro (⟨⟨⟩⟩ | ⟨_, ⟨⟩, _⟩)
      rfl
  | ok a =>
    constructor
    · intro failed
      exact .inr ⟨a, rfl, failed⟩
    · rintro (⟨⟨⟩⟩ | ⟨_, ⟨⟩, failed⟩)
      exact failed

end Binding

theorem Size.toValue_inj {s t : Size} : s.toValue = t.toValue ↔ s = t := by
  constructor
  · intro same
    have found : ofValue? s.toValue = ofValue? t.toValue := congrArg ofValue? same
    simpa using found
  · rintro rfl
    rfl

theorem Colour.toValue_inj {c d : Colour} : c.toValue = d.toValue ↔ c = d := by
  constructor
  · intro same
    have found : ofValue? c.toValue = ofValue? d.toValue := congrArg ofValue? same
    simpa using found
  · rintro rfl
    rfl

theorem Text.sorted_eq_nil_iff {texts : List String} : sorted texts = [] ↔ texts = [] := by
  rw [sorted, ← List.length_eq_zero_iff, List.length_mergeSort, List.length_eq_zero_iff]
  cases texts with
  | nil => simp
  | cons text rest => simp [List.eraseDups_cons]

namespace Settings

/-- The integer that a value stands for: an integer itself, or what a text reads as without the blanks around
it. Truth values and floats stand for none. -/
inductive Gives : Value → Int → Prop where
  | int (n : Int) : Gives (.int n) n
  | text {s : String} {n : Int}
      (reads : Numeral.integer? (Unicode.trim Unicode.isBlank s.toList) = some n) : Gives (.text s) n

/-- A key takes one value and keeps another for it. -/
def Key.Takes (key : Key) (given kept : Value) : Prop :=
  match key with
  | .width | .height | .fontSize => ∃ n, Gives given n ∧ 0 < n ∧ kept = .int n
  | .border | .background | .cursor => ∃ n, Gives given n ∧ 0 ≤ n ∧ n ≤ 15 ∧ kept = .int n
  | .testPicture => ∃ b, given = .bool b ∧ kept = .bool b

def value (s : Settings) : Key → Value
  | .width => s.width.toValue
  | .height => s.height.toValue
  | .fontSize => s.fontSize.toValue
  | .border => s.border.toValue
  | .background => s.background.toValue
  | .cursor => s.cursor.toValue
  | .testPicture => .bool s.testPicture

/-- All keys of a section are known and have values that they take. -/
structure Legal (entries : List (String × Value)) : Prop where
  known : ∀ e ∈ entries, e.1 ∈ Key.known
  taken : ∀ (key : Key) (given : Value), Value.lookup key.text entries = some given →
    ∃ kept, key.Takes given kept

/-- The settings have what is given for a key, and the default where nothing is given. -/
structure Agrees (s : Settings) (entries : List (String × Value)) (key : Key) : Prop where
  present : ∀ given, Value.lookup key.text entries = some given → key.Takes given (s.value key)
  absent : Value.lookup key.text entries = none → s.value key = ({} : Settings).value key

/-! Single values. -/

theorem integer_eq_ok_iff {key : Key} {v : Value} {n : Int} : integer key v = .ok n ↔ Gives v n := by
  constructor
  · intro read
    cases v with
    | int m =>
      cases read
      exact .int n
    | text s =>
      rw [integer] at read
      split at read
      · next m found =>
        cases read
        exact .text found
      · cases read
    | _ => cases read
  · intro given
    cases given with
    | int => rfl
    | text reads => simp [integer, reads]

theorem Gives.eq_int_of_long {v : Value} {n : Int} (given : Gives v n) (long : Numeral.isShort n = false) :
    v = .int n := by
  cases given with
  | int => rfl
  | text reads =>
    rw [Numeral.isShort_of_integer? reads] at long
    cases long

theorem quotesLongNumber_of_integer {key : Key} {v : Value} {e : Error} (failed : integer key v = .error e) :
    e.quotesLongNumber = false := by
  cases v with
  | int n => cases failed
  | text s =>
    rw [integer] at failed
    split at failed
    · cases failed
    · cases failed
      rfl
  | _ =>
    cases failed
    rfl

theorem dimension_of_gives {v : Value} {n : Int} (given : Gives v n) (key : Key) :
    dimension key v =
      match Size.ofInt? n with
      | some size => .ok size
      | none => .error (.notPositive key n) := by
  rw [dimension, integer_eq_ok_iff.mpr given]
  rfl

theorem colour_of_gives {v : Value} {n : Int} (given : Gives v n) (key : Key) :
    colour key v =
      match Colour.ofInt? n with
      | some c => .ok c
      | none => .error (.outOfRange key n) := by
  rw [colour, integer_eq_ok_iff.mpr given]
  rfl

theorem dimension_eq_ok_iff {key : Key} {v : Value} {size : Size} :
    dimension key v = .ok size ↔ ∃ n, Gives v n ∧ 0 < n ∧ size.toValue = .int n := by
  constructor
  · intro read
    obtain ⟨n, found, accepted⟩ := bind_eq_ok_iff.mp read
    split at accepted
    · next t positive =>
      cases accepted
      obtain rfl : n = size.toInt := Size.ofInt?_eq_some_iff.mp positive
      exact ⟨_, integer_eq_ok_iff.mp found, Int.natCast_pos.mpr size.pos, rfl⟩
    · cases accepted
  · rintro ⟨n, given, -, same⟩
    obtain rfl : size.toInt = n := Value.int.inj same
    rw [dimension_of_gives given, Size.ofInt?_toInt]

theorem colour_eq_ok_iff {key : Key} {v : Value} {c : Colour} :
    colour key v = .ok c ↔ ∃ n, Gives v n ∧ 0 ≤ n ∧ n ≤ 15 ∧ c.toValue = .int n := by
  constructor
  · intro read
    obtain ⟨n, found, accepted⟩ := bind_eq_ok_iff.mp read
    split at accepted
    · next d ranged =>
      cases accepted
      obtain rfl : n = c.toInt := Colour.ofInt?_eq_some_iff.mp ranged
      exact ⟨_, integer_eq_ok_iff.mp found, c.isColour_toValue.1, c.isColour_toValue.2, rfl⟩
    · cases accepted
  · rintro ⟨n, given, -, -, same⟩
    obtain rfl : c.toInt = n := Value.int.inj same
    rw [colour_of_gives given, Colour.ofInt?_toInt]

theorem dimension_eq_error {key : Key} {v : Value} {e : Error} (failed : dimension key v = .error e) :
    integer key v = .error e ∨ ∃ n, Gives v n ∧ e = .notPositive key n := by
  rcases bind_eq_error_iff.mp failed with unread | ⟨n, read, refused⟩
  · exact .inl unread
  · right
    refine ⟨n, integer_eq_ok_iff.mp read, ?_⟩
    split at refused
    · cases refused
    · cases refused
      rfl

theorem colour_eq_error {key : Key} {v : Value} {e : Error} (failed : colour key v = .error e) :
    integer key v = .error e ∨ ∃ n, Gives v n ∧ e = .outOfRange key n := by
  rcases bind_eq_error_iff.mp failed with unread | ⟨n, read, refused⟩
  · exact .inl unread
  · right
    refine ⟨n, integer_eq_ok_iff.mp read, ?_⟩
    split at refused
    · cases refused
    · cases refused
      rfl

theorem flag_eq_ok_iff {key : Key} {v : Value} {b : Bool} :
    flag key v = .ok b ↔ ∃ b', v = .bool b' ∧ Value.bool b = .bool b' := by
  cases v <;> simp [flag, eq_comm]

/-! Single entries. -/

section Entries

variable {α : Type} {read : Key → Value → Except Error α} {default a : α}
  {entries : List (String × Value)} {key : Key}

theorem entry_eq_ok_iff :
    entry read default entries key = .ok a ↔
      (∀ given, Value.lookup key.text entries = some given → read key given = .ok a) ∧
        (Value.lookup key.text entries = none → a = default) := by
  rw [entry]
  cases Value.lookup key.text entries with
  | none => simp [eq_comm]
  | some given => simp

theorem entry_eq_error_iff {e : Error} :
    entry read default entries key = .error e ↔
      ∃ given, Value.lookup key.text entries = some given ∧ read key given = .error e := by
  rw [entry]
  cases Value.lookup key.text entries with
  | none => simp
  | some given => simp

end Entries

/-! Sections. -/

section Sections

variable {entries : List (String × Value)} {s : Settings} {e : Error}

theorem unknownKeys_eq_nil_iff : unknownKeys entries = [] ↔ ∀ e ∈ entries, e.1 ∈ Key.known := by
  simp [unknownKeys, Text.sorted_eq_nil_iff, List.filter_eq_nil_iff]

theorem ofSection_of_unknown (unknown : unknownKeys entries ≠ []) :
    ofSection entries = .error (.unknownKeys (unknownKeys entries)) := by
  rw [ofSection]
  split
  · contradiction
  · rfl

theorem ofSection_eq_ok_iff :
    ofSection entries = .ok s ↔
      unknownKeys entries = [] ∧
        entry dimension Screen.defaultWidth entries .width = .ok s.width ∧
        entry dimension Screen.defaultHeight entries .height = .ok s.height ∧
        entry dimension Screen.defaultFontSize entries .fontSize = .ok s.fontSize ∧
        entry colour Screen.defaultBorder entries .border = .ok s.border ∧
        entry colour Screen.defaultBackground entries .background = .ok s.background ∧
        entry colour Screen.defaultCursor entries .cursor = .ok s.cursor ∧
        entry flag false entries .testPicture = .ok s.testPicture := by
  by_cases known : unknownKeys entries = []
  · simp only [ofSection, known, bind_eq_ok_iff, true_and]
    constructor
    · rintro ⟨width, columns, height, lines, fontSize, size, border, edge, background, ground, cursor,
        ink, testPicture, picture, made⟩
      cases made
      exact ⟨columns, lines, size, edge, ground, ink, picture⟩
    · rintro ⟨columns, lines, size, edge, ground, ink, picture⟩
      exact ⟨_, columns, _, lines, _, size, _, edge, _, ground, _, ink, _, picture, rfl⟩
  · simp [ofSection_of_unknown known, known]

theorem agrees_iff {key : Key} :
    s.Agrees entries key ↔
      (∀ given, Value.lookup key.text entries = some given → key.Takes given (s.value key)) ∧
        (Value.lookup key.text entries = none → s.value key = ({} : Settings).value key) := by
  constructor
  · intro agrees
    exact ⟨agrees.present, agrees.absent⟩
  · rintro ⟨present, absent⟩
    exact ⟨present, absent⟩

/-- A reader that gives what its key takes gives what the settings have for the key. -/
theorem entry_eq_ok_iff_agrees (entries : List (String × Value)) (s : Settings) (key : Key) {α : Type}
    {read : Key → Value → Except Error α} {default a : α}
    (taken : ∀ given, read key given = .ok a ↔ key.Takes given (s.value key))
    (same : a = default ↔ s.value key = ({} : Settings).value key) :
    entry read default entries key = .ok a ↔ s.Agrees entries key := by
  rw [entry_eq_ok_iff, agrees_iff, same]
  exact and_congr_left fun _ => forall_congr' fun given => imp_congr_right fun _ => taken given

/-- The section is accepted with these settings exactly if its keys are known and the settings agree with it. -/
theorem ofSection_eq_ok_iff_agrees :
    ofSection entries = .ok s ↔
      (∀ e ∈ entries, e.1 ∈ Key.known) ∧ ∀ key : Key, s.Agrees entries key := by
  have width := entry_eq_ok_iff_agrees entries s .width (fun _ => dimension_eq_ok_iff)
    Size.toValue_inj.symm
  have height := entry_eq_ok_iff_agrees entries s .height (fun _ => dimension_eq_ok_iff)
    Size.toValue_inj.symm
  have fontSize := entry_eq_ok_iff_agrees entries s .fontSize (fun _ => dimension_eq_ok_iff)
    Size.toValue_inj.symm
  have border := entry_eq_ok_iff_agrees entries s .border (fun _ => colour_eq_ok_iff)
    Colour.toValue_inj.symm
  have background := entry_eq_ok_iff_agrees entries s .background (fun _ => colour_eq_ok_iff)
    Colour.toValue_inj.symm
  have cursor := entry_eq_ok_iff_agrees entries s .cursor (fun _ => colour_eq_ok_iff)
    Colour.toValue_inj.symm
  have testPicture := entry_eq_ok_iff_agrees entries s .testPicture (fun _ => flag_eq_ok_iff)
    (Iff.of_eq (Value.bool.injEq ..)).symm
  rw [ofSection_eq_ok_iff, unknownKeys_eq_nil_iff]
  refine and_congr_right fun _ => ?_
  constructor
  · rintro ⟨columns, lines, size, edge, ground, ink, picture⟩ key
    cases key with
    | width => exact width.mp columns
    | height => exact height.mp lines
    | fontSize => exact fontSize.mp size
    | border => exact border.mp edge
    | background => exact background.mp ground
    | cursor => exact cursor.mp ink
    | testPicture => exact testPicture.mp picture
  · intro agrees
    exact ⟨width.mpr (agrees _), height.mpr (agrees _), fontSize.mpr (agrees _), border.mpr (agrees _),
      background.mpr (agrees _), cursor.mpr (agrees _), testPicture.mpr (agrees _)⟩

/-- The reader of a key fails on a value with an error. -/
def Key.Refuses (key : Key) (given : Value) (e : Error) : Prop :=
  match key with
  | .width | .height | .fontSize => dimension key given = .error e
  | .border | .background | .cursor => colour key given = .error e
  | .testPicture => flag key given = .error e

/-- A section is refused for its unknown keys or for the value of one key. -/
theorem ofSection_eq_error (refused : ofSection entries = .error e) :
    (unknownKeys entries ≠ [] ∧ e = .unknownKeys (unknownKeys entries)) ∨
      ∃ (key : Key) (given : Value), Value.lookup key.text entries = some given ∧ key.Refuses given e := by
  by_cases known : unknownKeys entries = []
  · right
    simp only [ofSection, known, bind_eq_error_iff, entry_eq_error_iff] at refused
    obtain ⟨given, found, failed⟩ | ⟨-, -, ⟨given, found, failed⟩ | ⟨-, -, ⟨given, found, failed⟩ |
      ⟨-, -, ⟨given, found, failed⟩ | ⟨-, -, ⟨given, found, failed⟩ | ⟨-, -, ⟨given, found, failed⟩ |
      ⟨-, -, ⟨given, found, failed⟩ | ⟨-, -, ⟨⟩⟩⟩⟩⟩⟩⟩⟩ := refused
    · exact ⟨.width, given, found, failed⟩
    · exact ⟨.height, given, found, failed⟩
    · exact ⟨.fontSize, given, found, failed⟩
    · exact ⟨.border, given, found, failed⟩
    · exact ⟨.background, given, found, failed⟩
    · exact ⟨.cursor, given, found, failed⟩
    · exact ⟨.testPicture, given, found, failed⟩
  · left
    rw [ofSection_of_unknown known] at refused
    cases refused
    exact ⟨known, rfl⟩

theorem Key.not_refuses_of_takes {key : Key} {given kept : Value} (takes : key.Takes given kept) :
    ¬ key.Refuses given e := by
  intro refuses
  cases key with
  | width | height | fontSize =>
    obtain ⟨n, gives, pos, -⟩ := takes
    rw [Refuses, dimension_of_gives gives] at refuses
    split at refuses
    · cases refuses
    · next refused =>
      rw [Size.ofInt?_eq_none_iff] at refused
      omega
  | border | background | cursor =>
    obtain ⟨n, gives, least, most, -⟩ := takes
    have range : (Colour.ofInt? n).isSome = true := Colour.ofInt?_isSome_iff.mpr ⟨least, by omega⟩
    rw [Refuses, colour_of_gives gives] at refuses
    split at refuses
    · cases refuses
    · next refused =>
      rw [refused] at range
      cases range
  | testPicture =>
    obtain ⟨b, rfl, -⟩ := takes
    cases refuses

/-- An error that quotes a number too long to be written out has read it off an integer: a text that stands
for an integer is short itself. -/
theorem Key.Refuses.of_quotesLongNumber {key : Key} {given : Value} (refuses : key.Refuses given e)
    (long : e.quotesLongNumber = true) :
    ∃ n : Int, given = .int n ∧ Numeral.isShort n = false ∧
      (e = .notPositive key n ∨ e = .outOfRange key n) := by
  cases key with
  | width | height | fontSize =>
    rcases dimension_eq_error refuses with failed | ⟨n, gives, rfl⟩
    · rw [quotesLongNumber_of_integer failed] at long
      cases long
    · have tooLong : Numeral.isShort n = false := by simpa [Error.quotesLongNumber] using long
      exact ⟨n, gives.eq_int_of_long tooLong, tooLong, .inl rfl⟩
  | border | background | cursor =>
    rcases colour_eq_error refuses with failed | ⟨n, gives, rfl⟩
    · rw [quotesLongNumber_of_integer failed] at long
      cases long
    · have tooLong : Numeral.isShort n = false := by simpa [Error.quotesLongNumber] using long
      exact ⟨n, gives.eq_int_of_long tooLong, tooLong, .inr rfl⟩
  | testPicture =>
    cases given with
    | bool b => cases refuses
    | _ =>
      cases refuses
      cases long

theorem ofSection_eq_ok_exists_iff : (∃ s, ofSection entries = .ok s) ↔ Legal entries := by
  constructor
  · rintro ⟨s, accepted⟩
    obtain ⟨known, agrees⟩ := ofSection_eq_ok_iff_agrees.mp accepted
    exact ⟨known, fun key given found => ⟨s.value key, (agrees key).present given found⟩⟩
  · rintro ⟨known, taken⟩
    cases outcome : ofSection entries with
    | ok s => exact ⟨s, rfl⟩
    | error e =>
      exfalso
      rcases ofSection_eq_error outcome with ⟨unknown, -⟩ | ⟨key, given, found, refuses⟩
      · exact unknown (unknownKeys_eq_nil_iff.mpr known)
      · obtain ⟨kept, takes⟩ := taken key given found
        exact Key.not_refuses_of_takes takes refuses

end Sections

end Settings

end C64Screen
