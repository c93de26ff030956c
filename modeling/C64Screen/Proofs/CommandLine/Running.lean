import C64Screen.CommandLine.Run
import C64Screen.Proofs.Screen.Unbroken
import C64Screen.Proofs.Screen.Views

/-!
# What a run prints

A run that comes to an end has read its request, the settings and the text, and has drawn the text on a new
screen. Where a coordinate is there but has nothing, the drawing still comes to one of the writes of a text, or
it does not come to an end. So every screen that is printed is a new one with a text on it, its rows are
unbroken, and each is printed on a line of its own. Its cells are seen in the payload as they are.
-/

namespace C64Screen

theorem Screen.width_write (s : Screen) (w : Write) : (s.write w).1.width = s.width := by
  change (w.run s.buffer).1.width = s.buffer.width
  rw [Write.run_eq_runAll_puts, Put.width_runAll]

theorem Screen.height_write (s : Screen) (w : Write) : (s.write w).1.height = s.height := by
  change (w.run s.buffer).1.height = s.buffer.height
  rw [Write.run_eq_runAll_puts, Put.height_runAll]

theorem Buffer.charAt_eq_ok_iff {b : Buffer} {o : Int} {c : Char} :
    b.charAt o = .ok c ↔ ∃ cell, b.cell? o = some cell ∧ cell.char = c := by
  rw [charAt]
  cases b.cell? o <;> simp

theorem Drawing.isText_write (d : Drawing) (text : List Char) (s : Screen) : (d.write text s).IsText := by
  unfold write
  cases d.plain with
  | false => trivial
  | true => trivial

/-! A screen as it is handed out. -/

/-- The payload has the cells of a buffer, the character and the colour of each in its place. -/
structure Payload.Depicts (p : Payload) (b : Buffer) : Prop where
  sound : p.Sound b.width b.height
  unbroken : ∀ row ∈ p.rows, lineFeed ∉ row.toList
  cells : ∀ x y : Nat, x < b.width → y < b.height → ∃ cell, b.cell? (b.offset x y) = some cell ∧
    (∃ row, p.rows[y]? = some row ∧ row.toList[x]? = some cell.char) ∧
    ∃ row, p.colours[y]? = some row ∧ row[x]? = some cell.colour

/-- With both flags set the cells are seen as they are. -/
theorem Screen.depicts_ofScreen {s : Screen} (chars : s.charsEnabled = true) (colours : s.coloursEnabled = true)
    (coloured : s.buffer.Coloured) (unbroken : s.buffer.Unbroken) : (Payload.ofScreen s).Depicts s.buffer where
  sound := payload_sound coloured
  unbroken _ listed := lineFeed_not_mem_visibleRows unbroken listed
  cells := by
    intro x y left below
    obtain ⟨cell, found⟩ := Buffer.exists_cell?_offset left below
    have char : s.charOf cell = cell.char := if_pos chars
    have colour : s.colourOf cell = cell.colour := if_pos colours
    refine ⟨cell, found, ?_, ?_⟩
    · rw [← char]
      exact getElem?_visibleRows left below found
    · rw [← colour]
      exact getElem?_effectiveColourRows left below found

/-! Offsets of coordinates that have nothing. -/

namespace Unchecked

open CommandLine

theorem offset?_of_nothing {x y : Given Int} (missing : x = .nothing ∨ y = .nothing) (b : Buffer) :
    offset? b x.toValue y.toValue = none ∨ offset? b x.toValue y.toValue = some (.list []) := by
  cases x with
  | value n =>
    obtain rfl : y = .nothing := missing.resolve_left nofun
    exact .inl rfl
  | nothing =>
    cases y with
    | value n => exact .inl rfl
    | nothing =>
      right
      have none_repeated : (List.replicate b.width ([] : List Value)).flatten = [] := by simp
      change Option.bind (some (Value.list (List.replicate b.width ([] : List Value)).flatten)) _ = _
      rw [none_repeated]
      rfl

/-- Without an offset that fits, only an empty text is placed. -/
theorem placeText_nowhere {s : String} {colour : Value} {b : Buffer}
    (fits : (placeText (.text s) (.list []) colour b).fits = true) : s = "" := by
  by_contra other
  have nonempty : s.toList ≠ [] := by simpa using other
  obtain ⟨c, rest, split⟩ := List.exists_cons_of_ne_nil nonempty
  have is_true : (Value.text s).isTrue = true := by simpa [Value.isTrue] using other
  have parts : (Value.text s).parts? =
      some (.text (String.singleton c) :: rest.map fun c => .text (String.singleton c)) := by
    rw [Value.parts?, split]
    rfl
  rw [placeText, is_true, parts] at fits
  simp only [placeParts] at fits
  split at fits
  · cases fits
  · cases fits

theorem interpret_nowhere (s : String) (colour : Value) (b : Buffer) :
    interpret (.text s) (.list []) colour b =
      ⟨(Markup.interpret b s.toList none colour).1, (Markup.interpret b s.toList none colour).2, true, false⟩ := by
  rw [interpret]
  by_cases empty : s = ""
  · subst empty
    have nothing : Markup.interpret b "".toList none colour = (b, []) := by
      rw [String.toList_empty, Markup.interpret, Markup.run, Markup.Script.ofText_nil]
      rfl
    rw [nothing]
    rfl
  · have is_true : (Value.text s).isTrue = true := by simpa [Value.isTrue] using empty
    rw [is_true]
    rfl

theorem Drawing.exists_call (d : Drawing) (screen : Screen) :
    ∃ colour, d.call screen =
      if d.plain then .placeTextXY d.text d.x d.y colour else .interpretXY d.text d.x d.y colour :=
  ⟨_, rfl⟩

/-- A call without an offset that fits comes to one of the writes of a text. -/
theorem run_of_nothing {d : Drawing} {s : String} {x y : Given Int} {screen : Screen}
    (missing : x = .nothing ∨ y = .nothing) (text : d.text = .text s) (column : d.x = x.toValue)
    (line : d.y = y.toValue) (fits : ((d.call screen).run screen.buffer).fits = true) :
    ∃ w : Write, w.IsText ∧ ((d.call screen).run screen.buffer).buffer = (w.run screen.buffer).1 ∧
      ((d.call screen).run screen.buffer).events = (w.run screen.buffer).2 := by
  obtain ⟨colour, called⟩ := d.exists_call screen
  rw [called, column, line, text] at fits ⊢
  rcases offset?_of_nothing missing screen.buffer with nowhere | nowhere
  · exfalso
    cases plain : d.plain with
    | false => simp [plain, Call.run, atXY, nowhere, unfit, Trial.logged] at fits
    | true => simp [plain, Call.run, atXY, nowhere, unfit, Trial.logged] at fits
  · cases plain : d.plain with
    | false =>
      refine ⟨.interpret s.toList none colour, trivial, ?_⟩
      simp [Call.run, atXY, nowhere, interpret_nowhere, Write.run]
    | true =>
      simp only [plain, Call.run, atXY, nowhere, Trial.logged, if_true] at fits ⊢
      obtain rfl := placeText_nowhere fits
      exact ⟨.placeText [] 0 .null, trivial, rfl, rfl⟩

theorem render?_eq_some {settings : Settings} {d : Drawing} {screen : Screen} {events : List Log.Event}
    (drawn : render? settings d = .ok (some (screen, events))) :
    ∃ bare made, settings.createScreen = .ok (bare, made) ∧
      ((d.call bare).run bare.buffer).fits = true ∧
      screen = { bare with buffer := ((d.call bare).run bare.buffer).buffer } ∧
      events = made ++ ((d.call bare).run bare.buffer).events := by
  obtain ⟨⟨bare, made⟩, created, done⟩ := bind_eq_ok_iff.mp drawn
  refine ⟨bare, made, created, ?_⟩
  change Except.ok (if ((d.call bare).run bare.buffer).fits then _ else none) = _ at done
  split at done
  · next fits =>
    cases done
    exact ⟨fits, rfl, rfl⟩
  · cases done

end Unchecked

namespace CommandLine

/-- What is drawn is a text, on a new screen. -/
theorem Request.draw_eq_ok {r : Request} {text : List Char} {settings : Settings} {screen : Screen}
    {events : List Log.Event} (drawn : r.draw text settings = .ok (screen, events)) :
    ∃ (bare : Screen) (made : List Log.Event) (w : Write),
      settings.createScreen = .ok (bare, made) ∧ w.IsText ∧ screen = (bare.write w).1 ∧
        events = made ++ (bare.write w).2 := by
  unfold draw at drawn
  split at drawn
  · next x y _ _ =>
    obtain ⟨bare, made⟩ := settings.exists_createScreen
    rw [render_of_createScreen made] at drawn
    cases drawn
    exact ⟨bare, _, _, made, Drawing.isText_write .., rfl, rfl⟩
  · next x y incomplete =>
    have missing : r.x = .nothing ∨ r.y = .nothing := by
      cases at_x : r.x with
      | nothing => exact .inl rfl
      | value x =>
        cases at_y : r.y with
        | nothing => exact .inr rfl
        | value y => exact (incomplete x y at_x at_y).elim
    split at drawn
    · next found =>
      cases drawn
      obtain ⟨bare, made, created, fits, rfl, rfl⟩ := Unchecked.render?_eq_some found
      obtain ⟨w, printing, buffer, logged⟩ := Unchecked.run_of_nothing missing rfl rfl rfl fits
      refine ⟨bare, made, w, created, printing, ?_, ?_⟩
      · rw [buffer]
        rfl
      · rw [logged]
        rfl
    · cases drawn
    · cases drawn

/-- What a run that comes to an end has come by, one thing after another. -/
theorem run_eq_ok {files : Files} {args : List String} {report : Report}
    (ran : run files args = .ok report) :
    ∃ r level settings loaded text screen events,
      Request.ofArgs args = .ok r ∧ needed .logLevel r.level = .ok level ∧
        loadSettings files r.config = .ok (settings, loaded) ∧ loadText files r.source = .ok text ∧
        r.draw text settings = .ok (screen, events) ∧
        report = ⟨printed r.json screen, loaded ++ events, level⟩ := by
  unfold run at ran
  split at ran
  · cases ran
  · next r asked =>
    obtain ⟨level, leveled, ran⟩ := bind_eq_ok_iff.mp ran
    obtain ⟨⟨settings, loaded⟩, found, ran⟩ := bind_eq_ok_iff.mp ran
    obtain ⟨text, read, ran⟩ := bind_eq_ok_iff.mp ran
    obtain ⟨⟨screen, events⟩, drawn, ran⟩ := bind_eq_ok_iff.mp ran
    cases ran
    exact ⟨r, level, settings, loaded, text, screen, events, asked, leveled, found, read, drawn, rfl⟩

theorem run_of_steps {files : Files} {args : List String} {r : Request} {level : Log.Level}
    {settings : Settings} {loaded events : List Log.Event} {text : List Char} {screen : Screen}
    (asked : Request.ofArgs args = .ok r) (leveled : needed .logLevel r.level = .ok level)
    (found : loadSettings files r.config = .ok (settings, loaded))
    (read : loadText files r.source = .ok text) (drawn : r.draw text settings = .ok (screen, events)) :
    run files args = .ok ⟨printed r.json screen, loaded ++ events, level⟩ := by
  rw [run, asked]
  refine bind_eq_ok_iff.mpr ⟨level, leveled, bind_eq_ok_iff.mpr ⟨(settings, loaded), found, ?_⟩⟩
  refine bind_eq_ok_iff.mpr ⟨text, read, bind_eq_ok_iff.mpr ⟨(screen, events), drawn, rfl⟩⟩

/-- With both coordinates there is always a drawing. -/
theorem Request.exists_draw {r : Request} {x y : Int} (column : r.x = .value x) (line : r.y = .value y)
    (text : List Char) (settings : Settings) : ∃ drawn, r.draw text settings = .ok drawn := by
  obtain ⟨bare, made⟩ := settings.exists_createScreen
  have drawn : r.draw text settings =
      (render text settings ⟨x, y, r.colourValue, r.plain⟩).mapError fun e => .failed (.screen e) := by
    rw [draw, column, line]
  rw [render_of_createScreen made] at drawn
  exact ⟨_, drawn⟩

/-- A request for a text that is given, at a place that is given and by the default settings, is always carried
out. -/
theorem exists_report {args : List String} {r : Request} {s : String} {x y : Int} {level : Log.Level}
    (asked : Request.ofArgs args = .ok r) (source : r.source = .text s) (settings : r.config = none)
    (column : r.x = .value x) (line : r.y = .value y) (leveled : r.level = .value level) (files : Files) :
    ∃ report, run files args = .ok report := by
  obtain ⟨⟨screen, events⟩, drawn⟩ := r.exists_draw column line s.toList {}
  have given : needed .logLevel r.level = .ok level := by rw [leveled, needed]
  have found : loadSettings files r.config = .ok ({}, []) := by rw [settings, loadSettings]
  have read : loadText files r.source = .ok s.toList := by rw [source, loadText]
  exact ⟨_, run_of_steps asked given found read drawn⟩

/-! Rows on lines. -/

theorem Request.unbroken_draw {r : Request} {text : List Char} {settings : Settings} {screen : Screen}
    {events : List Log.Event} (drawn : r.draw text settings = .ok (screen, events)) :
    screen.buffer.Unbroken ∧ screen.width = settings.width.val ∧ screen.height = settings.height.val := by
  obtain ⟨bare, made, w, created, printing, rfl, -⟩ := draw_eq_ok drawn
  have shows := Settings.shows_of_createScreen created
  refine ⟨Write.unbroken_run printing (Settings.unbroken_createScreen created), ?_, ?_⟩
  · rw [Screen.width_write, shows.width]
  · rw [Screen.height_write, shows.height]

/-- A text that is drawn is seen cell by cell. -/
theorem Request.depicts_draw {r : Request} {text : List Char} {settings : Settings} {screen : Screen}
    {events : List Log.Event} (drawn : r.draw text settings = .ok (screen, events)) :
    (Payload.ofScreen screen).Depicts screen.buffer := by
  obtain ⟨bare, made, w, created, printing, rfl, -⟩ := draw_eq_ok drawn
  have shows := Settings.shows_of_createScreen created
  have coloured : bare.buffer.Coloured := Screen.coloured_of_ofOptions created
  have unbroken := Settings.unbroken_createScreen created
  exact Screen.depicts_ofScreen shows.charsEnabled shows.coloursEnabled
    ((bare.redraws_write w).coloured coloured) (Write.unbroken_run printing unbroken)

theorem toList_printed_rows (s : Screen) :
    (printed false s).toList = (s.visibleRows.map String.toList).flatMap (· ++ [lineFeed]) := by
  change (String.join (s.visibleRows.map (· ++ "\n"))).toList = _
  rw [String.toList_join, List.flatMap_map, List.flatMap_map]
  simp only [String.toList_append]
  rfl

/-- No text breaks a row, and what is printed without `--json` is the rows, each on a line of its own. -/
theorem run_prints_rows :
    (∀ (text : List Char) (settings : Settings) (d : Drawing), ∃ screen events,
      render text settings d = .ok (screen, events) ∧
        ∀ o c, screen.buffer.charAt o = .ok c → c ≠ lineFeed) ∧
    ∀ (files : Files) (args : List String) (report : Report), run files args = .ok report →
      ∃ r settings loaded, Request.ofArgs args = .ok r ∧
        loadSettings files r.config = .ok (settings, loaded) ∧
        (r.json = false → ∃ rows : List (List Char),
          report.stdout.toList = rows.flatMap (· ++ [lineFeed]) ∧ rows.length = settings.height.val ∧
            ∀ row ∈ rows, row.length = settings.width.val ∧ lineFeed ∉ row) := by
  constructor
  · intro text settings d
    obtain ⟨bare, made⟩ := settings.exists_createScreen
    refine ⟨_, _, render_of_createScreen made text d, ?_⟩
    have unbroken : ((d.write text bare).run bare.buffer).1.Unbroken :=
      Write.unbroken_run (d.isText_write text bare) (Settings.unbroken_createScreen made)
    intro o c read
    obtain ⟨cell, found, rfl⟩ := Buffer.charAt_eq_ok_iff.mp read
    exact unbroken o cell found
  · intro files args report ran
    obtain ⟨r, level, settings, loaded, text, screen, events, asked, -, found, -, drawn, rfl⟩ := run_eq_ok ran
    refine ⟨r, settings, loaded, asked, found, ?_⟩
    intro plain
    obtain ⟨unbroken, wide, high⟩ := Request.unbroken_draw drawn
    refine ⟨screen.visibleRows.map String.toList, ?_, ?_, ?_⟩
    · rw [plain]
      exact toList_printed_rows screen
    · rw [List.length_map, screen.length_visibleRows, high]
    · intro row listed
      obtain ⟨shown, among, rfl⟩ := List.mem_map.mp listed
      rw [String.length_toList, Screen.length_of_mem_visibleRows among, wide]
      exact ⟨rfl, Screen.lineFeed_not_mem_visibleRows unbroken among⟩

/-- Two letters, as they stand, on a screen of the usual size. -/
theorem run_prints_rows_plain :
    ∃ report, run (fun _ => none) ["--plain", "AB"] = .ok report ∧
      ∃ rows : List (List Char), report.stdout.toList = rows.flatMap (· ++ [lineFeed]) ∧ rows.length = 25 ∧
        ∀ row ∈ rows, row.length = 40 ∧ lineFeed ∉ row := by
  have asked : Request.ofArgs ["--plain", "AB"] =
      .ok ⟨.text "AB", none, true, .value 0, .value 0, none, false, .value .warning⟩ := by decide
  obtain ⟨report, ran⟩ := exists_report asked rfl rfl rfl rfl rfl fun _ => none
  refine ⟨report, ran, ?_⟩
  obtain ⟨r, settings, loaded, asked_r, found, lines⟩ := run_prints_rows.2 _ _ report ran
  rw [asked] at asked_r
  cases asked_r
  cases found
  exact lines rfl

end CommandLine

end C64Screen
