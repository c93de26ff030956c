import C64Screen.Proofs.CommandLine.Forms
import C64Screen.Proofs.Markup.DryPen
import C64Screen.Proofs.Text.Written

/-!
# Options in any order

A drawing has five options, and a command line may have each of them once. What an option changes in the draft
of a request no other one touches, so in whatever order they come, the same is asked for. Behind the separator
there is one word left, and it is the text, whatever it looks like.

An option with a number is one word. Its name ends at the first equals sign, no option has one in its spelling,
and the number that is written behind it is read again.

What is printed is the drawing of that text, row by row or as the payload on one line, and it shows every cell.
-/

namespace C64Screen

namespace CommandLine

/-- The options of a drawing that are there. -/
structure Options where
  x : Option Int := none
  y : Option Int := none
  colour : Option Int := none
  plain : Bool := false
  json : Bool := false

inductive Choice where
  | x (n : Int)
  | y (n : Int)
  | colour (n : Int)
  | plain
  | json
  deriving DecidableEq

namespace Choice

def switch : Choice → Switch
  | .x _ => .x
  | .y _ => .y
  | .colour _ => .colour
  | .plain => .plain
  | .json => .json

def number? : Choice → Option Int
  | .x n | .y n | .colour n => some n
  | .plain | .json => none

def spelling : Choice → String
  | .x n => "--x=" ++ Numeral.text n
  | .y n => "--y=" ++ Numeral.text n
  | .colour n => "--colour=" ++ Numeral.text n
  | .plain => "--plain"
  | .json => "--json"

def word (c : Choice) : Word := .switch c.switch (c.number?.map Numeral.text)

end Choice

namespace Options

def choices (o : Options) : List Choice :=
  (o.x.map .x).toList ++ (o.y.map .y).toList ++ (o.colour.map .colour).toList ++
    (if o.plain then [.plain] else []) ++ (if o.json then [.json] else [])

/-- What is drawn at what place, where the cursor has a colour. -/
def drawing (o : Options) (cursor : Colour) : Drawing where
  x := o.x.getD 0
  y := o.y.getD 0
  colour := (o.colour.map Value.int).getD cursor.toValue
  plain := o.plain

def draft (o : Options) : Draft :=
  { x := .value (o.x.getD 0), y := .value (o.y.getD 0), colour := o.colour.map .value,
    plain := o.plain, json := o.json }

def request (o : Options) (text : String) : Request where
  source := .text text
  config := none
  plain := o.plain
  x := .value (o.x.getD 0)
  y := .value (o.y.getD 0)
  colour := o.colour.map .value
  json := o.json
  level := .value .warning

/-- The numbers among the options are not too long to be read. -/
def IsShort (o : Options) : Prop := ∀ c ∈ o.choices, ∀ n, c.number? = some n → Numeral.isShort n = true

theorem mem_choices {o : Options} {c : Choice} :
    c ∈ o.choices ↔
      match c with
      | .x n => o.x = some n
      | .y n => o.y = some n
      | .colour n => o.colour = some n
      | .plain => o.plain = true
      | .json => o.json = true := by
  cases c <;> simp [choices]

/-- No option is there twice. -/
theorem eq_of_switch_eq {o : Options} {c d : Choice} (first : c ∈ o.choices) (second : d ∈ o.choices)
    (same : c.switch = d.switch) : c = d := by
  rw [mem_choices] at first second
  cases c with
  | x n =>
    cases d with
    | x m => exact congrArg Choice.x (Option.some.inj (first.symm.trans second))
    | _ => cases same
  | y n =>
    cases d with
    | y m => exact congrArg Choice.y (Option.some.inj (first.symm.trans second))
    | _ => cases same
  | colour n =>
    cases d with
    | colour m => exact congrArg Choice.colour (Option.some.inj (first.symm.trans second))
    | _ => cases same
  | plain =>
    cases d with
    | plain => rfl
    | _ => cases same
  | json =>
    cases d with
    | json => rfl
    | _ => cases same

end Options

/-! The words that are written. -/

section Spelling

theorem splitValue_equals {name : String} (bare : '=' ∉ name.toList) (value : String) :
    splitValue (name ++ "=" ++ value) = (name, some value) := by
  have before : ∀ c ∈ name.toList, decide (c ≠ '=') = true := by
    intro c listed
    exact decide_eq_true fun same => bare (same ▸ listed)
  have letters : (name ++ "=" ++ value).toList = name.toList ++ '=' :: value.toList := by
    simp only [String.toList_append, List.append_assoc]
    rfl
  have stops : decide ('=' ≠ '=') = false := by decide
  simp only [splitValue, letters, List.dropWhile_append_of_pos before, List.takeWhile_append_of_pos before,
    List.dropWhile_cons, List.takeWhile_cons, stops, Bool.false_eq_true, if_false, List.append_nil,
    String.ofList_toList]

theorem spelled?_equals (name value : String) : spelled? (name ++ "=" ++ value) = none := by
  have bare : ∀ entry ∈ spellings, '=' ∉ entry.1.toList := by decide +kernel
  rw [spelled?, List.lookup_eq_none_iff]
  intro entry listed
  rw [bne_iff_ne]
  intro same
  apply bare entry listed
  rw [← same]
  simp

/-- A long option with a value behind an equals sign. -/
theorem classify_equals (name : String) (s : Switch) {rest : List Char} (bare : '=' ∉ name.toList)
    (long : name.toList = '-' :: '-' :: rest) (spelled : spelled? name = some s) (value : String) :
    classify (name ++ "=" ++ value) = .ok (.switch s (some value)) := by
  have letters : (name ++ "=" ++ value).toList = '-' :: '-' :: (rest ++ '=' :: value.toList) := by
    simp [String.toList_append, long]
  simp only [classify, splitValue_equals bare, spelled?_equals, spelled, letters]
  rfl

theorem classify_spelling (c : Choice) : classify c.spelling = .ok c.word := by
  cases c with
  | x n => exact classify_equals "--x" .x (by decide) rfl (by decide) (Numeral.text n)
  | y n => exact classify_equals "--y" .y (by decide) rfl (by decide) (Numeral.text n)
  | colour n => exact classify_equals "--colour" .colour (by decide) rfl (by decide) (Numeral.text n)
  | plain => decide
  | json => decide

/-- The separator alone could be cut short from any option. -/
theorem spelling_ne_separator (c : Choice) : c.spelling ≠ separatorArg := by
  intro same
  have refused : (classify separatorArg).isOk = false := by decide
  rw [← same, classify_spelling] at refused
  cases refused

theorem words_choices (choices : List Choice) (text : String) :
    words (choices.map Choice.spelling ++ ["--", text]) =
      .ok (choices.map Choice.word ++ [.separator, .plain text]) := by
  induction choices with
  | nil => rfl
  | cons c rest ih =>
    rw [List.map_cons, List.cons_append, words, if_neg (spelling_ne_separator c), classify_spelling, ih]
    rfl

end Spelling

/-! What the words come to. -/

namespace Draft

/-- The draft with one more option. -/
def choose (d : Draft) : Choice → Draft
  | .x n => { d with x := .value n }
  | .y n => { d with y := .value n }
  | .colour n => { d with colour := some (.value n) }
  | .plain => { d with plain := true }
  | .json => { d with json := true }

theorem choose_comm {first second : Choice} (different : first.switch ≠ second.switch) (d : Draft) :
    (d.choose first).choose second = (d.choose second).choose first := by
  cases first <;> cases second <;> first
    | rfl
    | exact absurd rfl different

/-- The separator is no number. -/
theorem text_ne_separator {n : Int} (short : Numeral.isShort n = true) : Numeral.text n ≠ separatorArg := by
  intro same
  have read : Numeral.integer? (Numeral.text n).toList = some n := by
    rw [Numeral.text, String.toList_ofList, Numeral.integer?_written short]
  rw [same] at read
  cases read

theorem mapExcept_written {n : Int} (short : Numeral.isShort n = true) (s : Switch) :
    (Given.ofArg (Numeral.text n)).mapExcept (integer s) = .ok (.value n) := by
  have given : Given.ofArg (Numeral.text n) = .value (Numeral.text n) := if_neg (text_ne_separator short)
  have read : integer s (Numeral.text n) = .ok n := by
    rw [integer, Numeral.text, String.toList_ofList, Numeral.trim_written, Numeral.integer?_written short]
  rw [given, Given.mapExcept, read]
  rfl

theorem gather_choice {c : Choice} (short : ∀ n, c.number? = some n → Numeral.isShort n = true) (d : Draft)
    (ws : List Word) : d.gather (c.word :: ws) = (d.choose c).gather ws := by
  cases c with
  | x n | y n | colour n =>
    simp only [Choice.word, Choice.switch, Choice.number?, Option.map_some, gather, takeValue]
    rw [mapExcept_written (short n rfl)]
    rfl
  | plain | json => exact gather_flag rfl d ws

theorem gather_choices {choices : List Choice}
    (short : ∀ c ∈ choices, ∀ n, c.number? = some n → Numeral.isShort n = true) (d : Draft) (ws : List Word) :
    d.gather (choices.map Choice.word ++ ws) = (choices.foldl choose d).gather ws := by
  induction choices generalizing d with
  | nil => rfl
  | cons c rest ih =>
    rw [List.forall_mem_cons] at short
    rw [List.map_cons, List.cons_append, gather_choice short.1]
    exact ih short.2 (d.choose c)

/-- In whatever order they are chosen. -/
theorem foldl_choose {o : Options} {choices : List Choice} (order : choices.Perm o.choices) :
    choices.foldl choose {} = o.draft := by
  have same : choices.foldl choose {} = o.choices.foldl choose {} := by
    -- Two options of one kind are the same option, and others change different parts of the draft.
    apply order.foldl_eq'
    intro first listed second listed_second d
    by_cases alike : first.switch = second.switch
    · rw [Options.eq_of_switch_eq (order.subset listed) (order.subset listed_second) alike]
    · exact choose_comm alike d
  rw [same]
  obtain ⟨_ | x, _ | y, _ | colour, _ | _, _ | _⟩ := o <;> rfl

end Draft

theorem Request.ofArgs_choices {o : Options} (short : o.IsShort) {choices : List Choice}
    (order : choices.Perm o.choices) (text : String) :
    ofArgs (choices.map Choice.spelling ++ ["--", text]) = .ok (o.request text) := by
  have gathered := Draft.gather_choices (fun c listed => short c (order.subset listed)) {} [.separator, .plain text]
  rw [Draft.foldl_choose order] at gathered
  rw [ofArgs, words_choices]
  refine bind_eq_ok_iff.mpr ⟨{ o.draft with textPassed := true, text := some text }, ?_, rfl⟩
  exact gathered

theorem Request.draw_request (o : Options) (t : String) (text : List Char) (settings : Settings) :
    (o.request t).draw text settings =
      (render text settings (o.drawing settings.cursor)).mapError fun e => .failed (.screen e) := by
  obtain ⟨x, y, _ | colour, plain, json⟩ := o
  · exact congrArg (Except.mapError _) (render_cursor text settings (x.getD 0) (y.getD 0) plain)
  · rfl

/-- Options in any order draw the text that stands behind them. What is printed is that drawing, either its rows, each
on a line of its own, or its payload on one line. -/
theorem run_options (files : Files) {o : Options} (short : o.IsShort) {choices : List Choice}
    (order : choices.Perm o.choices) (text : String) :
    let settings : Settings := {}
    ∃ screen events report,
      render text.toList settings (o.drawing settings.cursor) = .ok (screen, events) ∧
        run files (choices.map Choice.spelling ++ ["--", text]) = .ok report ∧
        report = ⟨printed o.json screen, events, .warning⟩ ∧
        screen.width = 40 ∧ screen.height = 25 ∧ (Payload.ofScreen screen).Depicts screen.buffer ∧
        (o.json = false → report.stdout.toList =
          ((Payload.ofScreen screen).rows.map String.toList).flatMap (· ++ [lineFeed])) ∧
        (o.json = true → ∃ line, report.stdout.toList = line ++ [lineFeed] ∧
          (Payload.ofScreen screen).OnLine line) := by
  intro settings
  obtain ⟨bare, made⟩ := settings.exists_createScreen
  obtain ⟨⟨screen, events⟩, rendered⟩ :
      ∃ result, render text.toList settings (o.drawing settings.cursor) = .ok result :=
    ⟨_, render_of_createScreen made text.toList _⟩
  have asked := Request.ofArgs_choices short order text
  have found : loadSettings files (o.request text).config = .ok (settings, []) := rfl
  have drawn : (o.request text).draw text.toList settings = .ok (screen, events) := by
    rw [Request.draw_request, rendered, Except.mapError]
  obtain ⟨-, wide, high⟩ := Request.unbroken_draw drawn
  refine ⟨screen, events, _, rendered, run_of_steps asked rfl found rfl drawn, rfl, wide, high,
    Request.depicts_draw drawn, ?_, ?_⟩
  · intro plain
    change (printed o.json screen).toList = _
    rw [plain]
    exact toList_printed_rows screen
  · intro json
    change ∃ line, (printed o.json screen).toList = line ++ [lineFeed] ∧ _
    rw [json]
    exact ⟨_, toList_printed_json screen, Payload.onLine_write _⟩

/-- The text looks like an option, it begins in front of the screen, and its colour is the first of all. -/
theorem run_options_turned :
    let args := ["--json", "--colour=0", "--y=1", "--x=-3", "--", "--plain"]
    ∃ screen events report,
      render "--plain".toList {} ⟨-3, 1, .int 0, false⟩ = .ok (screen, events) ∧
        run (fun _ => none) args = .ok report ∧ report = ⟨printed true screen, events, .warning⟩ ∧
        screen.width = 40 ∧ screen.height = 25 ∧ (Payload.ofScreen screen).Depicts screen.buffer ∧
        ∃ line, report.stdout.toList = line ++ [lineFeed] ∧ (Payload.ofScreen screen).OnLine line := by
  intro args
  let o : Options := { x := some (-3), y := some 1, colour := some 0, json := true }
  let choices : List Choice := [.json, .colour 0, .y 1, .x (-3)]
  have spelled : choices.map Choice.spelling ++ ["--", "--plain"] = args := by decide
  have short : o.IsShort := by
    intro c listed n number
    have each : ∀ c ∈ o.choices, ∀ n ∈ c.number?, Numeral.isShort n = true := by decide
    exact each c listed n number
  have order : choices.Perm o.choices := by decide
  rw [← spelled]
  obtain ⟨screen, events, report, rendered, ran, reported, wide, high, depicts, -, on_line⟩ :=
    run_options (fun _ => none) short order "--plain"
  exact ⟨screen, events, report, rendered, ran, reported, wide, high, depicts, on_line rfl⟩

end CommandLine

end C64Screen
