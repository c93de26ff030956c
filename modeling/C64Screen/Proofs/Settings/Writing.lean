import C64Screen.Proofs.Settings.Acceptance
import C64Screen.Proofs.Toml.Sections

/-!
# Settings written out

Settings are written out under the header of their section, in a line for each key that is chosen: numbers in
plain decimal, a truth value as a word. In whatever order the lines come, and however they end, they are loaded
again, as long as no number has too many digits to be read. What was not chosen is left to the defaults.
-/

namespace C64Screen.Settings

/-- What is written for a key. -/
def spelled (s : Settings) : Key → String
  | .width => Numeral.text s.width.toInt
  | .height => Numeral.text s.height.toInt
  | .fontSize => Numeral.text s.fontSize.toInt
  | .border => Numeral.text s.border.toInt
  | .background => Numeral.text s.background.toInt
  | .cursor => Numeral.text s.cursor.toInt
  | .testPicture => if s.testPicture then "true" else "false"

def line (s : Settings) (key : Key) : Toml.Line := ⟨key.text, (s.spelled key).toList, s.value key⟩

/-- The settings for some keys, and the defaults for the others. -/
def keeping (s : Settings) (keys : List Key) : Settings :=
  let d : Settings := {}
  { width := if .width ∈ keys then s.width else d.width
    height := if .height ∈ keys then s.height else d.height
    border := if .border ∈ keys then s.border else d.border
    background := if .background ∈ keys then s.background else d.background
    cursor := if .cursor ∈ keys then s.cursor else d.cursor
    fontSize := if .fontSize ∈ keys then s.fontSize else d.fontSize
    testPicture := if .testPicture ∈ keys then s.testPicture else d.testPicture }

theorem value_keeping (s : Settings) (keys : List Key) (key : Key) :
    (s.keeping keys).value key = if key ∈ keys then s.value key else ({} : Settings).value key := by
  cases key with
  | width => exact apply_ite Size.toValue ..
  | height => exact apply_ite Size.toValue ..
  | fontSize => exact apply_ite Size.toValue ..
  | border => exact apply_ite Colour.toValue ..
  | background => exact apply_ite Colour.toValue ..
  | cursor => exact apply_ite Colour.toValue ..
  | testPicture => exact apply_ite Value.bool ..

/-- The values for the keys are all there is to settings. -/
theorem eq_of_value {s t : Settings} (same : ∀ key, s.value key = t.value key) : s = t := by
  have width := Size.toValue_inj.mp (same .width)
  have height := Size.toValue_inj.mp (same .height)
  have fontSize := Size.toValue_inj.mp (same .fontSize)
  have border := Colour.toValue_inj.mp (same .border)
  have background := Colour.toValue_inj.mp (same .background)
  have cursor := Colour.toValue_inj.mp (same .cursor)
  have testPicture := Value.bool.inj (same .testPicture)
  cases s
  cases t
  simp_all

theorem Key.text_injective : Function.Injective Key.text := by
  intro key other same
  cases key <;> cases other <;> first
    | rfl
    | exact absurd same (by decide)

theorem Key.bareKey_text (key : Key) : Toml.BareKey key.text := by
  cases key <;> exact .of_all (by decide) (by decide)

theorem takes_value (s : Settings) (key : Key) : key.Takes (s.value key) (s.value key) := by
  cases key with
  | width | height | fontSize => exact ⟨_, .int _, Size.isSize_toValue _, rfl⟩
  | border | background | cursor =>
    exact ⟨_, .int _, (Colour.isColour_toValue _).1, (Colour.isColour_toValue _).2, rfl⟩
  | testPicture => exact ⟨_, rfl, rfl⟩

theorem plain_text {n : Nat} (short : Numeral.isShort n = true) :
    Toml.Plain (Numeral.text n).toList (.int n) := by
  rw [Numeral.text, String.toList_ofList]
  exact .natural (Json.natural_toDigits n) (of_decide_eq_true short)

theorem wellFormed_line (s : Settings) {key : Key}
    (short : ∀ n, s.value key = .int n → Numeral.isShort n = true) : (s.line key).WellFormed where
  key := key.bareKey_text
  text := by
    cases key with
    | width | height | fontSize | border | background | cursor => exact plain_text (short _ rfl)
    | testPicture =>
      rw [line, spelled, value]
      cases s.testPicture with
      | false => exact .no
      | true => exact .yes

/-! Sections that have been written out. -/

section Written

variable {s : Settings} {keys : List Key}

theorem lookup_lines (distinct : keys.Nodup) (key : Key) :
    Value.lookup key.text (keys.map fun k => (k.text, s.value k)) =
      if key ∈ keys then some (s.value key) else none := by
  have names : (keys.map fun k => (k.text, s.value k)).map Prod.fst = keys.map Key.text := List.map_map
  split
  · next chosen =>
    apply Value.lookup_of_mem
    · rw [names]
      exact distinct.map Key.text_injective
    · exact List.mem_map_of_mem chosen
  · next missing =>
    rw [Value.lookup_eq_none_iff, names]
    rwa [List.mem_map_of_injective Key.text_injective]

theorem ofSection_lines (distinct : keys.Nodup) :
    ofSection (keys.map fun k => (k.text, s.value k)) = .ok (s.keeping keys) := by
  rw [ofSection_eq_ok_iff_agrees]
  constructor
  · intro e listed
    obtain ⟨key, -, rfl⟩ := List.mem_map.mp listed
    exact List.mem_map_of_mem (by cases key <;> decide)
  · intro key
    rw [agrees_iff, lookup_lines distinct, value_keeping]
    by_cases chosen : key ∈ keys
    · rw [if_pos chosen, if_pos chosen]
      refine ⟨?_, nofun⟩
      rintro _ ⟨⟩
      exact s.takes_value key
    · rw [if_neg chosen, if_neg chosen]
      exact ⟨nofun, fun _ => rfl⟩

end Written

theorem fromUTF8?_toUTF8 (text : String) : String.fromUTF8? text.toUTF8 = some text := by
  rw [String.fromUTF8?, String.toUTF8_eq_toByteArray, dif_pos text.isValidUTF8]
  rfl

/-- Lines for some keys, in any order, are loaded as the values that were written, with the defaults for the other
keys. Lines for all keys give back the settings. -/
theorem load_written (path : String) (s : Settings) {keys : List Key} (distinct : keys.Nodup)
    (short : ∀ key ∈ keys, ∀ n, s.value key = .int n → Numeral.isShort n = true) {text : String}
    (lined : Text.Lined [['\n'], ['\r', '\n']]
      ("[screen]".toList :: keys.map fun key => (key.text ++ " = " ++ s.spelled key).toList) text.toList) :
    ∃ t, load path text.toUTF8 = .ok t ∧
      (∀ key, t.value key = if key ∈ keys then s.value key else ({} : Settings).value key) ∧
      ((∀ key : Key, key ∈ keys) → t = s) := by
  have letters : (keys.map s.line).map Toml.Line.letters =
      keys.map fun key => (key.text ++ " = " ++ s.spelled key).toList := by
    rw [List.map_map]
    refine List.map_congr_left fun key _ => ?_
    simp only [Function.comp_apply, line, Toml.Line.letters, String.toList_append]
    rfl
  have entries : (keys.map s.line).map Toml.Line.entry = keys.map fun k => (k.text, s.value k) := List.map_map
  have names : (keys.map s.line).map Toml.Line.key = keys.map Key.text := List.map_map
  have read : Toml.read text.toList = .ok [("screen", .table (keys.map fun k => (k.text, s.value k)))] := by
    have bare : Toml.BareKey "screen" := .of_all (by decide) (by decide)
    rw [← entries]
    apply Toml.read_lines bare
    · exact List.forall_mem_map.mpr fun key chosen => s.wellFormed_line (short key chosen)
    · rw [names]
      exact distinct.map Key.text_injective
    · rw [letters]
      exact lined
  have loaded : load path text.toUTF8 = .ok (s.keeping keys) := by
    rw [load, fromUTF8?_toUTF8]
    simp only [read]
    rw [ofDocument_of_section rfl, ofSection_lines distinct]
    rfl
  refine ⟨_, loaded, s.value_keeping keys, fun all => ?_⟩
  apply eq_of_value
  intro key
  rw [value_keeping, if_pos (all key)]

/-- Three keys with both line ends among them, and none behind the last line. -/
theorem load_written_three :
    let text := "[screen]\r\ntest_picture = true\nwidth = 20\r\ncursor_colour = 0"
    ∃ t, load "screen.toml" text.toUTF8 = .ok t ∧ t.value .width = .int 20 ∧ t.value .cursor = .int 0 ∧
      t.value .testPicture = .bool true ∧ t.value .height = .int 25 := by
  intro text
  let s : Settings := { width := ⟨20, by decide⟩, cursor := .black, testPicture := true }
  let keys : List Key := [.testPicture, .width, .cursor]
  have lines : keys.map (fun key => (key.text ++ " = " ++ s.spelled key).toList) =
      ["test_picture = true".toList, "width = 20".toList, "cursor_colour = 0".toList] := by decide
  have letters : text.toList = "[screen]".toList ++ (['\r', '\n'] ++ ("test_picture = true".toList ++
      (['\n'] ++ ("width = 20".toList ++ (['\r', '\n'] ++ "cursor_colour = 0".toList))))) := by decide
  have short : ∀ key ∈ keys, ∀ n, s.value key = .int n → Numeral.isShort n = true := by
    simp only [keys, List.forall_mem_cons]
    refine ⟨nofun, ?_, ?_, nofun⟩
    · rintro _ ⟨⟩
      decide
    · rintro _ ⟨⟩
      decide
  have lined : Text.Lined [['\n'], ['\r', '\n']]
      ("[screen]".toList :: keys.map fun key => (key.text ++ " = " ++ s.spelled key).toList) text.toList := by
    rw [lines, letters]
    exact .cons _ (by decide) (.cons _ (by decide) (.cons _ (by decide) (.last _)))
  obtain ⟨t, loaded, values, -⟩ := load_written "screen.toml" s (by decide) short lined
  exact ⟨t, loaded, values .width, values .cursor, values .testPicture, values .height⟩

end C64Screen.Settings
