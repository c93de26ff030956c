import C64Screen.Render
import C64Screen.Proofs.Markup.Outcome
import C64Screen.Proofs.Markup.Scanning

/-!
# Text without braces

A text that has no brace in it is markup of single characters, and to interpret it is to place it: both go
through the text side by side, with the offset and the start of the line in common.
-/

namespace C64Screen

namespace Markup

/-- Going along with the text, the draft has the buffer that placing has reached, and its pen stands where
placing goes on. -/
theorem exists_items_of_no_brace {text : List Char} (plain : tokenStart ∉ text) :
    ∃ items, spell items = text ∧ ∀ (b : Buffer) (o start : Int) (colour : Value),
      ((⟨b, ⟨o, start⟩, colour, false⟩ : Draft).applyAll items).buffer =
        Buffer.placeFrom colour text o start b := by
  induction text with
  | nil => exact ⟨[], rfl, fun b o start colour => rfl⟩
  | cons c rest ih =>
    have brace : c ≠ tokenStart := fun h => plain (h ▸ List.mem_cons_self)
    obtain ⟨items, spelled, placed⟩ := ih (fun h => plain (List.mem_cons_of_mem c h))
    refine ⟨.plain c brace :: items, by rw [spell_cons, spelled]; rfl, ?_⟩
    intro b o start colour
    rw [Draft.applyAll_cons]
    by_cases hc : c = lineFeed
    · have step : (⟨b, ⟨o, start⟩, colour, false⟩ : Draft).apply (Item.plain c brace).effect =
          ⟨b, ⟨start + b.width, start + b.width⟩, colour, false⟩ := by
        rw [Item.effect, if_pos hc]
        rfl
      rw [step, placed, hc, Buffer.placeFrom_lineFeed]
    · have step : (⟨b, ⟨o, start⟩, colour, false⟩ : Draft).apply (Item.plain c brace).effect =
          ⟨b.place c o colour, ⟨o + 1, start⟩, colour, false⟩ := by
        rw [Item.effect, if_neg hc]
        rfl
      rw [step, placed, Buffer.placeFrom_cons hc]

theorem run_of_no_brace {text : List Char} (plain : tokenStart ∉ text) (b : Buffer) (offset : Int)
    (colour : Value) :
    let stop := run ⟨b, .start (some offset) colour⟩ 0 text
    stop.halt = none ∧ stop.state.buffer = b.placeText text offset colour := by
  obtain ⟨items, rfl, placed⟩ := exists_items_of_no_brace plain
  rw [run_start_spell]
  exact ⟨rfl, placed b offset offset colour⟩

theorem interpret_of_no_brace {text : List Char} (plain : tokenStart ∉ text) (b : Buffer)
    (offset : Int) (colour : Value) :
    interpret b text (some offset) colour = (b.placeText text offset colour, []) := by
  obtain ⟨done, placed⟩ := run_of_no_brace plain b offset colour
  rw [interpret, done, placed]
  rfl

end Markup

/-! Rendering. -/

/-- Settings pass all checks of the screen that is made from them. -/
theorem Settings.exists_createScreen (s : Settings) :
    ∃ screen, s.createScreen = .ok (screen, [.allocated s.width.val s.height.val]) := by
  rw [createScreen, Screen.ofOptions]
  simp only [toOptions, Quantity.require_toValue]
  exact ⟨_, rfl⟩

theorem render_of_createScreen {settings : Settings} {screen : Screen} {events : List Log.Event}
    (made : settings.createScreen = .ok (screen, events)) (text : List Char) (d : Drawing) :
    render text settings d =
      .ok ((screen.write (d.write text screen)).1, events ++ (screen.write (d.write text screen)).2) := by
  rw [render, made]
  rfl

theorem write_of_no_brace {text : List Char} (plain : Markup.tokenStart ∉ text) (screen : Screen)
    (x y : Int) (colour : Value) :
    screen.write (Drawing.write ⟨x, y, colour, false⟩ text screen) =
      screen.write (Drawing.write ⟨x, y, colour, true⟩ text screen) := by
  let o := screen.buffer.offset x y
  let ink := Drawing.colourOn ⟨x, y, colour, false⟩ screen
  have same : (Write.interpret text (some o) ink).run screen.buffer =
      (Write.placeText text o ink).run screen.buffer :=
    Markup.interpret_of_no_brace plain screen.buffer o ink
  change screen.write (.interpret text (some o) ink) = screen.write (.placeText text o ink)
  rw [Screen.write, Screen.write, same]

/-- Without a brace it makes no difference whether a text is interpreted or placed, neither on a buffer nor
on a screen that is rendered. -/
theorem interpret_eq_placeText (text : List Char) (plain : Markup.tokenStart ∉ text) :
    (∀ (b : Buffer) (offset : Int) (colour : Value),
      Markup.interpret b text (some offset) colour = (b.placeText text offset colour, []) ∧
      let stop := Markup.scan text ⟨⟨b, .start (some offset) colour⟩, 0⟩
      stop.halt = none ∧ stop.state.buffer = b.placeText text offset colour) ∧
    ∀ (settings : Settings) (x y : Int) (colour : Value), ∃ screen : Screen,
      let events : List Log.Event := [.allocated settings.width.val settings.height.val]
      render text settings ⟨x, y, colour, true⟩ = .ok (screen, events) ∧
        render text settings ⟨x, y, colour, false⟩ = .ok (screen, events) := by
  constructor
  · intro b offset colour
    refine ⟨Markup.interpret_of_no_brace plain b offset colour, ?_⟩
    rw [Markup.scan_eq_run]
    exact Markup.run_of_no_brace plain b offset colour
  · intro settings x y colour
    obtain ⟨screen, made⟩ := settings.exists_createScreen
    have placed := render_of_createScreen made text ⟨x, y, colour, true⟩
    have interpreted := render_of_createScreen made text ⟨x, y, colour, false⟩
    rw [write_of_no_brace plain] at interpreted
    exact ⟨_, placed, interpreted⟩

/-- It begins in front of the grid, goes past its end and has a colour that is none. -/
theorem interpret_eq_placeText_outside :
    let b := Buffer.new ⟨3, by decide⟩ ⟨2, by decide⟩
    let text := ['A', 'B', '\n', '}', 'C', 'D', 'E', 'F', 'G']
    Markup.tokenStart ∉ text ∧
      Markup.interpret b text (some (-1)) (.int 99) = (b.placeText text (-1) (.int 99), []) := by
  intro b text
  have plain : Markup.tokenStart ∉ text := by decide
  exact ⟨plain, ((interpret_eq_placeText text plain).1 b (-1) (.int 99)).1⟩

end C64Screen
