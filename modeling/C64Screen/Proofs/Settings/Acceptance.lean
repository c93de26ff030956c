import C64Screen.Proofs.Screen.Plain
import C64Screen.Proofs.Settings.Reading
import C64Screen.Proofs.Screen.Picture

/-!
# Accepted documents

A document is checked once when its settings are read, and what was read is checked again when a screen is made
of it. The two checks are written apart: the first refuses a value, the second puts a default in its place. Here
they are brought together. A document is accepted exactly if it has a legal section, the settings are those that
agree with it, and the screen made of them is as they say, so that no default ever stands in for a value.

What is refused is refused with an error of the settings, but for one case. A number that is out of range is
quoted, and an integer with too many digits cannot be.
-/

namespace C64Screen

namespace Settings

/-- A screen is as the settings say. -/
structure Shows (s : Settings) (screen : Screen) : Prop where
  width : screen.width = s.width.val
  height : screen.height = s.height.val
  border : screen.border = s.border
  background : screen.background = s.background
  cursor : screen.cursor = s.cursor
  fontSize : screen.fontSize = s.fontSize
  charsEnabled : screen.charsEnabled = true
  coloursEnabled : screen.coloursEnabled = true
  blank : s.testPicture = false →
    ∀ o, screen.buffer.Holds o → screen.buffer.cell? o = some ⟨' ', some s.cursor⟩

/-- The screen of the settings before a test picture is drawn. -/
def bareScreen (s : Settings) : Screen where
  buffer := Screen.blankBuffer s.cursor s.width s.height
  border := s.border
  background := s.background
  cursor := s.cursor
  fontSize := s.fontSize
  charsEnabled := true
  coloursEnabled := true

theorem bare_toOptions (s : Settings) :
    Screen.bare s.toOptions s.fontSize s.width s.height = s.bareScreen := by
  simp [Screen.bare, toOptions, bareScreen]

theorem createScreen_eq (s : Settings) :
    s.createScreen =
      .ok (if s.testPicture then s.bareScreen.printTestPicture else s.bareScreen,
        [.allocated s.width.val s.height.val]) := by
  rw [createScreen, ← bare_toOptions]
  exact Screen.ofOptions_of_sizes rfl rfl rfl

theorem shows_bareScreen (s : Settings) : s.Shows s.bareScreen where
  width := rfl
  height := rfl
  border := rfl
  background := rfl
  cursor := rfl
  fontSize := rfl
  charsEnabled := rfl
  coloursEnabled := rfl
  blank := by
    intro _ o inside
    exact (Buffer.cell?_filled ..).trans (if_pos inside)

theorem shows_printTestPicture {s : Settings} (drawn : s.testPicture = true) :
    s.Shows s.bareScreen.printTestPicture where
  width := s.bareScreen.size_printTestPicture.1
  height := s.bareScreen.size_printTestPicture.2
  border := rfl
  background := rfl
  cursor := rfl
  fontSize := rfl
  charsEnabled := rfl
  coloursEnabled := rfl
  blank := by
    intro plain
    rw [drawn] at plain
    cases plain

theorem exists_shows (s : Settings) :
    ∃ screen, s.createScreen = .ok (screen, [.allocated s.width.val s.height.val]) ∧ s.Shows screen := by
  refine ⟨_, s.createScreen_eq, ?_⟩
  split
  · next drawn => exact shows_printTestPicture drawn
  · exact s.shows_bareScreen

theorem shows_of_createScreen {s : Settings} {screen : Screen} {events : List Log.Event}
    (made : s.createScreen = .ok (screen, events)) : s.Shows screen := by
  obtain ⟨other, created, shown⟩ := s.exists_shows
  rw [made] at created
  cases created
  exact shown

/-- None of the colours that a screen is made with is replaced by a default. -/
theorem isColour_toOptions (s : Settings) :
    ∀ v ∈ [s.toOptions.border, s.toOptions.background, s.toOptions.cursor], v.IsColour := by
  simp only [toOptions, List.forall_mem_cons]
  exact ⟨s.border.isColour_toValue, s.background.isColour_toValue, s.cursor.isColour_toValue, nofun⟩

/-! Documents. -/

section Documents

variable {document : List (String × Value)}

theorem ofDocument_of_section {entries : List (String × Value)}
    (found : Value.lookup "screen" document = some (.table entries)) :
    ofDocument document = ofSection entries := by
  rw [ofDocument, found]
  rfl

/-- Without a table under its name there is nothing to read, and the error has no number in it. -/
theorem ofDocument_of_no_section
    (missing : ∀ entries, Value.lookup "screen" document ≠ some (.table entries)) :
    ∃ e, ofDocument document = .error e ∧ e.quotesLongNumber = false := by
  rw [ofDocument]
  cases found : Value.lookup "screen" document with
  | none => exact ⟨.noSection, rfl, rfl⟩
  | some v =>
    cases v with
    | null => exact ⟨.noSection, rfl, rfl⟩
    | table entries => exact absurd found (missing entries)
    | _ => exact ⟨.sectionNotATable, rfl, rfl⟩

theorem ofDocument_eq_ok_iff {s : Settings} :
    ofDocument document = .ok s ↔
      ∃ entries, Value.lookup "screen" document = some (.table entries) ∧ ofSection entries = .ok s := by
  constructor
  · intro accepted
    by_cases present : ∃ entries, Value.lookup "screen" document = some (.table entries)
    · obtain ⟨entries, found⟩ := present
      exact ⟨entries, found, ofDocument_of_section found ▸ accepted⟩
    · obtain ⟨e, refused, -⟩ := ofDocument_of_no_section (not_exists.mp present)
      rw [refused] at accepted
      cases accepted
  · rintro ⟨entries, found, accepted⟩
    rw [ofDocument_of_section found, accepted]

/-- An error that quotes a number too long to be written out has read it off an integer of the section. -/
theorem long_of_ofDocument_eq_error {e : Error} (refused : ofDocument document = .error e)
    (long : e.quotesLongNumber = true) :
    ∃ (entries : List (String × Value)) (key : Key) (n : Int),
      Value.lookup "screen" document = some (.table entries) ∧
        Value.lookup key.text entries = some (.int n) ∧ Numeral.isShort n = false ∧
          (e = .notPositive key n ∨ e = .outOfRange key n) := by
  by_cases present : ∃ entries, Value.lookup "screen" document = some (.table entries)
  · obtain ⟨entries, found⟩ := present
    rw [ofDocument_of_section found] at refused
    rcases ofSection_eq_error refused with ⟨-, rfl⟩ | ⟨key, given, listed, refuses⟩
    · cases long
    · obtain ⟨n, rfl, tooLong, quoted⟩ := refuses.of_quotesLongNumber long
      exact ⟨entries, key, n, found, listed, tooLong, quoted⟩
  · obtain ⟨d, other, short⟩ := ofDocument_of_no_section (not_exists.mp present)
    rw [refused] at other
    cases other
    rw [short] at long
    cases long

/-- Which documents are accepted, with which settings, what becomes of the others, and which screen is made of
the settings. -/
theorem ofDocument_accepts_legal (document : List (String × Value)) :
    ((∃ s, ofDocument document = .ok s) ↔
      ∃ entries, Value.lookup "screen" document = some (.table entries) ∧ Legal entries) ∧
    (∀ s, ofDocument document = .ok s ↔
      ∃ entries, Value.lookup "screen" document = some (.table entries) ∧ Legal entries ∧
        ∀ key : Key, s.Agrees entries key) ∧
    (∀ e, ofDocument document = .error e →
      ((LoadError.settings e).isOfSettings = false ↔
        ∃ (entries : List (String × Value)) (key : Key) (n : Int),
          Value.lookup "screen" document = some (.table entries) ∧
            Value.lookup key.text entries = some (.int n) ∧ Numeral.isShort n = false ∧
              (e = .notPositive key n ∨ e = .outOfRange key n))) ∧
    ∀ s, ofDocument document = .ok s →
      ∃ screen, s.createScreen = .ok (screen, [.allocated s.width.val s.height.val]) ∧ s.Shows screen ∧
        (PlainScreen.construct s.toOptions).runFrom .unmade =
          (.ok (), screen.plain 0 [.allocated s.width.val s.height.val]) ∧
        ∀ v ∈ [s.toOptions.border, s.toOptions.background, s.toOptions.cursor], v.IsColour := by
  refine ⟨?_, ?_, ?_, ?_⟩
  · constructor
    · rintro ⟨s, accepted⟩
      obtain ⟨entries, found, read⟩ := ofDocument_eq_ok_iff.mp accepted
      exact ⟨entries, found, ofSection_eq_ok_exists_iff.mp ⟨s, read⟩⟩
    · rintro ⟨entries, found, legal⟩
      obtain ⟨s, read⟩ := ofSection_eq_ok_exists_iff.mpr legal
      exact ⟨s, ofDocument_eq_ok_iff.mpr ⟨entries, found, read⟩⟩
  · intro s
    rw [ofDocument_eq_ok_iff]
    constructor
    · rintro ⟨entries, found, read⟩
      have legal : Legal entries := ofSection_eq_ok_exists_iff.mp ⟨s, read⟩
      exact ⟨entries, found, legal, (ofSection_eq_ok_iff_agrees.mp read).2⟩
    · rintro ⟨entries, found, legal, agrees⟩
      exact ⟨entries, found, ofSection_eq_ok_iff_agrees.mpr ⟨legal.known, agrees⟩⟩
  · intro e refused
    have quotes : (LoadError.settings e).isOfSettings = false ↔ e.quotesLongNumber = true := by
      simp [LoadError.isOfSettings]
    rw [quotes]
    constructor
    · intro long
      exact long_of_ofDocument_eq_error refused long
    · rintro ⟨-, key, n, -, -, tooLong, rfl | rfl⟩
      · simp [Error.quotesLongNumber, tooLong]
      · simp [Error.quotesLongNumber, tooLong]
  · intro s _
    obtain ⟨screen, made, shown⟩ := s.exists_shows
    have constructed := PlainScreen.runFrom_construct s.toOptions
    rw [← createScreen, made] at constructed
    exact ⟨screen, made, shown, constructed, s.isColour_toOptions⟩

theorem ofSection_border (n : Int) :
    ofSection [("border_colour", .int n)] =
      (do
        let border ← colour .border (.int n)
        return { border }) := by
  have known : unknownKeys [("border_colour", .int n)] = [] := by
    rw [unknownKeys_eq_nil_iff, List.forall_mem_singleton]
    exact (by decide : "border_colour" ∈ Key.known)
  rw [ofSection, known]
  rfl

/-- A colour with one digit too many to be quoted. -/
theorem ofDocument_longColour :
    let document := [("screen", .table [("border_colour", .int (10 ^ Numeral.mostDigits))])]
    ∃ e, ofDocument document = .error e ∧ (LoadError.settings e).isOfSettings = false ∧
      (LoadError.settings e).message? = some Numeral.tooLong := by
  intro document
  have outside : Colour.ofInt? (10 ^ Numeral.mostDigits) = none := by
    have large : 10 ^ 2 ≤ 10 ^ Numeral.mostDigits := Nat.pow_le_pow_right (by decide) (by decide)
    have cast : ((10 ^ Numeral.mostDigits : Nat) : Int) = 10 ^ Numeral.mostDigits := Int.natCast_pow ..
    rw [← Option.not_isSome_iff_eq_none, Colour.ofInt?_isSome_iff]
    omega
  have refused : ofDocument document = .error (.outOfRange .border (10 ^ Numeral.mostDigits)) := by
    rw [ofDocument_of_section rfl, ofSection_border, colour_of_gives (.int _), outside]
    rfl
  refine ⟨_, refused, ?_, ?_⟩
  · simp [LoadError.isOfSettings, Error.quotesLongNumber, Numeral.not_isShort_pow]
  · simp [LoadError.message?, Error.quotesLongNumber, Numeral.not_isShort_pow]

end Documents

end Settings

end C64Screen
