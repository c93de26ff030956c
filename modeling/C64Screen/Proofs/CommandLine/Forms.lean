import C64Screen.Proofs.CommandLine.Running
import C64Screen.Proofs.Screen.Payloads

/-!
# The two forms of what is printed

With `--json` a run prints the payload of its screen on one line, without it the rows of that payload. The
switch changes nothing else: a command line that is accepted with it is accepted without it, for the same
request in the other form. The words of the two command lines are gathered side by side. Where a word that
follows on the switch comes to stand next to another text or separator, the longer command line had words left
over and was refused.
-/

namespace C64Screen

namespace CommandLine

def Word.isJson : Word → Bool
  | .switch .json none => true
  | _ => false

/-- The argument is the switch, spelled out or cut short. -/
def isJson (arg : String) : Bool :=
  match classify arg with
  | .ok w => w.isJson
  | .error _ => false

/-- The arguments without the switch. Behind the separator it is none. -/
def withoutJson : List String → List String
  | [] => []
  | arg :: rest =>
    if arg = separatorArg then arg :: rest
    else if isJson arg then withoutJson rest
    else arg :: withoutJson rest

/-- The word may stand for a text or beside one. -/
def Word.IsBare : Word → Prop
  | .plain _ | .separator => True
  | .switch .. | .unknown _ => False

theorem Word.eq_of_isJson {w : Word} (json : w.isJson = true) : w = .switch .json none := by
  unfold isJson at json
  split at json
  · rfl
  · cases json

def otherWords (ws : List Word) : List Word := ws.filter fun w => !w.isJson

theorem otherWords_json {w : Word} (json : w.isJson = true) (ws : List Word) :
    otherWords (w :: ws) = otherWords ws := by
  rw [otherWords, List.filter_cons, json]
  rfl

theorem otherWords_cons {w : Word} (other : w.isJson = false) (ws : List Word) :
    otherWords (w :: ws) = w :: otherWords ws := by
  rw [otherWords, List.filter_cons, other]
  rfl

def Draft.plainly (d : Draft) : Draft := { d with json := false }

/-- The word of an argument in front of the separator, and the words behind it. -/
theorem words_eq_ok {arg : String} {rest : List String} {ws : List Word} (front : arg ≠ separatorArg)
    (read : words (arg :: rest) = .ok ws) :
    ∃ w later, ws = w :: later ∧ words rest = .ok later ∧ classify arg = .ok w ∧ isJson arg = w.isJson := by
  rw [words, if_neg front] at read
  obtain ⟨w, classified, read⟩ := bind_eq_ok_iff.mp read
  obtain ⟨later, found, read⟩ := bind_eq_ok_iff.mp read
  cases read
  refine ⟨w, later, rfl, found, classified, ?_⟩
  rw [isJson, classified]

theorem words_withoutJson {args : List String} {ws : List Word} (read : words args = .ok ws) :
    words (withoutJson args) = .ok (otherWords ws) := by
  induction args generalizing ws with
  | nil =>
    cases read
    rfl
  | cons arg rest ih =>
    by_cases separator : arg = separatorArg
    · rw [words, if_pos separator] at read
      cases read
      rw [withoutJson, if_pos separator, words, if_pos separator, otherWords, List.filter_eq_self.mpr]
      intro w listed
      rcases List.mem_cons.mp listed with rfl | plain
      · rfl
      · obtain ⟨_, -, rfl⟩ := List.mem_map.mp plain
        rfl
    · obtain ⟨w, later, rfl, found, classified, is_json⟩ := words_eq_ok separator read
      rw [withoutJson, if_neg separator, is_json]
      cases json : w.isJson with
      | true => rw [if_pos rfl, ih found, otherWords_json json]
      | false =>
        rw [if_neg Bool.false_ne_true, words, if_neg separator, classified, ih found, otherWords_cons json]
        rfl

theorem withoutJson_eq_self {args : List String} {ws : List Word} (read : words args = .ok ws)
    (absent : ws.any Word.isJson = false) : withoutJson args = args := by
  induction args generalizing ws with
  | nil => rfl
  | cons arg rest ih =>
    by_cases separator : arg = separatorArg
    · rw [withoutJson, if_pos separator]
    · obtain ⟨w, later, rfl, found, -, is_json⟩ := words_eq_ok separator read
      obtain ⟨other, absent⟩ := Bool.or_eq_false_iff.mp absent
      rw [withoutJson, if_neg separator, is_json, other, ih found absent]
      rfl

namespace Draft

theorem plainly_textPassed (d : Draft) : d.plainly.textPassed = d.textPassed := rfl

/-- What is taken neither makes the form nor leaves anything over, and is taken in either form. -/
structure Keeps (take : Draft → Except Refusal Draft) (d e : Draft) : Prop where
  json : e.json = d.json
  leftOver : e.leftOver = d.leftOver
  plainly : take d.plainly = .ok e.plainly

/-! What a single word does to a draft. -/

section Steps

variable {d e : Draft} {s : Switch} {value arg : String}

theorem keeps_takeValue (taken : d.takeValue s value = .ok e) : Keeps (·.takeValue s value) d e := by
  cases s with
  | file =>
    simp only [takeValue] at taken
    split at taken
    · cases taken
    · next free =>
      cases taken
      exact ⟨rfl, rfl, if_neg free⟩
  | config =>
    cases taken
    exact ⟨rfl, rfl, rfl⟩
  | x | y | colour | logLevel =>
    obtain ⟨given, read, taken⟩ := bind_eq_ok_iff.mp taken
    cases taken
    exact ⟨rfl, rfl, bind_eq_ok_iff.mpr ⟨given, read, rfl⟩⟩
  | help | plain | json => cases taken

theorem keeps_takeText (taken : d.takeText arg = .ok e) :
    Keeps (·.takeText arg) d e ∧ e.textPassed = true := by
  unfold takeText at taken
  split at taken
  · cases taken
  · next free =>
    cases taken
    exact ⟨⟨rfl, rfl, if_neg free⟩, rfl⟩

theorem takeFlag_frame (taken : d.takeFlag s = .ok e) :
    e.json = (d.json || (Word.switch s none).isJson) ∧ e.leftOver = d.leftOver := by
  cases s with
  | help => cases taken
  | json =>
    cases taken
    exact ⟨(Bool.or_true d.json).symm, rfl⟩
  | _ =>
    cases taken
    exact ⟨(Bool.or_false d.json).symm, rfl⟩

theorem takeFlag_plainly (other : s ≠ .json) (taken : d.takeFlag s = .ok e) :
    d.plainly.takeFlag s = .ok e.plainly := by
  cases s with
  | help => cases taken
  | json => exact absurd rfl other
  | _ =>
    cases taken
    rfl

end Steps

/-! What is left over stays so. -/

section Words

variable {d e : Draft} {ws rest : List Word}

theorem gather_flag {s : Switch} (flag : s.takesValue = false) (d : Draft) (rest : List Word) :
    d.gather (.switch s none :: rest) = (d.takeFlag s).bind (gather · rest) := by
  cases rest with
  | nil => simp [gather, flag]
  | cons w rest => cases w <;> simp [gather, flag]

theorem gather_plain {arg : String} (open_ended : ∀ rest, ws ≠ .separator :: rest) :
    d.gather (.plain arg :: ws) =
      if d.textPassed then gather (d.leave arg) ws else (d.takeText arg).bind (gather · ws) := by
  rw [gather]
  exact open_ended

theorem gather_separator (alone : ∀ arg rest, ws ≠ .plain arg :: rest) :
    d.gather (.separator :: ws) =
      if d.textPassed then gather (d.leave separatorArg) ws
      else gather { d with textPassed := true } ws := by
  rw [gather]
  exact alone

theorem leftOver_leave (d : Draft) (arg : String) : d.leftOver <+: (d.leave arg).leftOver :=
  List.prefix_append ..

theorem leftOver_prefix (gathered : d.gather ws = .ok e) : d.leftOver <+: e.leftOver := by
  fun_induction gather d ws with
  | case1 d =>
    cases gathered
    exact List.prefix_rfl
  | case2 d s value rest ih | case3 d s value rest _ ih =>
    obtain ⟨f, taken, gathered⟩ := bind_eq_ok_iff.mp gathered
    exact (keeps_takeValue taken).leftOver ▸ ih f gathered
  | case4 d s value rest _ ih | case6 d s rest _ _ ih =>
    obtain ⟨f, taken, gathered⟩ := bind_eq_ok_iff.mp gathered
    exact (takeFlag_frame taken).2 ▸ ih f gathered
  | case5 => cases gathered
  | case7 d arg rest ih | case10 d arg rest _ _ ih => exact (d.leftOver_leave arg).trans (ih gathered)
  | case8 d arg rest _ ih =>
    exact ((d.leftOver_leave arg).trans (leftOver_leave _ _)).trans (ih gathered)
  | case9 d arg rest _ ih | case11 d arg rest _ _ ih | case13 d arg rest _ ih =>
    obtain ⟨f, taken, gathered⟩ := bind_eq_ok_iff.mp gathered
    exact (keeps_takeText taken).1.leftOver ▸ ih f gathered
  | case12 d arg rest _ ih => exact (d.leftOver_leave separatorArg).trans (ih gathered)
  | case14 d rest _ _ ih => exact (d.leftOver_leave separatorArg).trans (ih gathered)
  | case15 d rest _ _ ih => exact ih gathered

/-- Once something is left over, it is so in the end. -/
theorem leftOver_of_leave {arg : String} (gathered : (d.leave arg).gather ws = .ok e) : e.leftOver ≠ [] := by
  intro nothing_left
  have grown := leftOver_prefix gathered
  rw [nothing_left, List.prefix_nil] at grown
  simp [leave] at grown

/-- A second text or separator is left over. -/
theorem leftOver_of_passed {w : Word} (bare : w.IsBare) (passed : d.textPassed = true)
    (gathered : d.gather (w :: ws) = .ok e) : e.leftOver ≠ [] := by
  cases w with
  | switch | unknown => exact bare.elim
  | plain arg =>
    by_cases closed : ∃ rest, ws = .separator :: rest
    · obtain ⟨rest, rfl⟩ := closed
      rw [gather, if_pos passed] at gathered
      exact leftOver_of_leave gathered
    · rw [gather_plain (not_exists.mp closed), if_pos passed] at gathered
      exact leftOver_of_leave gathered
  | separator =>
    by_cases opened : ∃ arg rest, ws = .plain arg :: rest
    · obtain ⟨arg, rest, rfl⟩ := opened
      rw [gather, if_pos passed] at gathered
      exact leftOver_of_leave gathered
    · rw [gather_separator fun arg rest h => opened ⟨arg, rest, h⟩, if_pos passed] at gathered
      exact leftOver_of_leave gathered

theorem leftOver_of_passed_other {w : Word} (bare : w.IsBare) (passed : d.textPassed = true)
    (next : otherWords ws = w :: rest) (gathered : d.gather ws = .ok e) : e.leftOver ≠ [] := by
  induction ws generalizing d with
  | nil => cases next
  | cons v ws ih =>
    cases json : v.isJson with
    | false =>
      rw [otherWords_cons json] at next
      cases next
      exact leftOver_of_passed bare passed gathered
    | true =>
      rw [otherWords_json json] at next
      rw [Word.eq_of_isJson json, gather_flag rfl] at gathered
      exact ih (d := { d with json := true }) passed next gathered

end Words

theorem gather_flag_plainly {d e f : Draft} {s : Switch} {ws : List Word} (flag : ¬s.takesValue = true)
    (taken : d.takeFlag s = .ok f) (later : f.plainly.gather (otherWords ws) = .ok e) :
    d.plainly.gather (otherWords (.switch s none :: ws)) = .ok e := by
  by_cases json : s = .json
  · subst json
    cases taken
    rw [otherWords_json rfl]
    exact later
  · have other : (Word.switch s none).isJson = false := by
      cases s <;> first | rfl | exact absurd rfl json
    rw [otherWords_cons other, gather_flag (Bool.eq_false_iff.mpr flag), takeFlag_plainly json taken]
    exact later

theorem json_of_gather {d e : Draft} {ws : List Word} (gathered : d.gather ws = .ok e) :
    e.json = (d.json || ws.any Word.isJson) := by
  fun_induction gather d ws with
  | case1 d =>
    cases gathered
    exact (Bool.or_false _).symm
  | case2 d s value rest ih =>
    obtain ⟨f, taken, gathered⟩ := bind_eq_ok_iff.mp gathered
    have other : (Word.switch s (some value)).isJson = false := by cases s <;> rfl
    rw [ih f gathered, (keeps_takeValue taken).json, List.any_cons, other, Bool.false_or]
  | case3 d s value rest valued ih =>
    obtain ⟨f, taken, gathered⟩ := bind_eq_ok_iff.mp gathered
    have other : (Word.switch s none).isJson = false := by
      cases s <;> first | rfl | cases valued
    rw [ih f gathered, (keeps_takeValue taken).json, List.any_cons, other, Bool.false_or]
    rfl
  | case4 d s value rest _ ih | case6 d s rest _ _ ih =>
    obtain ⟨f, taken, gathered⟩ := bind_eq_ok_iff.mp gathered
    rw [ih f gathered, (takeFlag_frame taken).1, Bool.or_assoc]
    rfl
  | case5 => cases gathered
  | case7 d arg rest ih | case10 d arg rest _ _ ih => exact ih gathered
  | case8 d arg rest _ ih | case12 d arg rest _ ih | case14 d rest _ _ ih | case15 d rest _ _ ih =>
    exact ih gathered
  | case9 d arg rest _ ih | case11 d arg rest _ _ ih | case13 d arg rest _ ih =>
    obtain ⟨f, taken, gathered⟩ := bind_eq_ok_iff.mp gathered
    rw [ih f gathered, (keeps_takeText taken).1.json]
    rfl

/-- Words that leave nothing over come to the same without the switch, but for the form. -/
theorem gather_plainly {d e : Draft} {ws : List Word} (gathered : d.gather ws = .ok e)
    (nothing_left : e.leftOver = []) : d.plainly.gather (otherWords ws) = .ok e.plainly := by
  fun_induction gather d ws with
  | case1 d =>
    cases gathered
    rfl
  | case2 d s value rest ih =>
    obtain ⟨f, taken, gathered⟩ := bind_eq_ok_iff.mp gathered
    rw [otherWords_cons (by cases s <;> rfl), gather, (keeps_takeValue taken).plainly]
    exact ih f gathered
  | case3 d s value rest valued ih =>
    obtain ⟨f, taken, gathered⟩ := bind_eq_ok_iff.mp gathered
    have other : (Word.switch s none).isJson = false := by
      cases s <;> first | rfl | cases valued
    rw [otherWords_cons other, otherWords_cons rfl, gather, if_pos valued, (keeps_takeValue taken).plainly]
    exact ih f gathered
  | case4 d s value rest flag ih | case6 d s rest _ flag ih =>
    obtain ⟨f, taken, gathered⟩ := bind_eq_ok_iff.mp gathered
    exact gather_flag_plainly flag taken (ih f gathered)
  | case5 => cases gathered
  -- A word unknown, or a text or a separator once the text has passed, would be left over.
  | case7 | case8 | case10 | case12 | case14 => exact (leftOver_of_leave gathered nothing_left).elim
  | case9 d arg rest first ih =>
    obtain ⟨f, taken, gathered⟩ := bind_eq_ok_iff.mp gathered
    rw [otherWords_cons rfl, otherWords_cons rfl, gather, plainly_textPassed, if_neg first,
      (keeps_takeText taken).1.plainly]
    exact ih f gathered
  | case11 d arg rest open_ended first ih =>
    obtain ⟨f, taken, gathered⟩ := bind_eq_ok_iff.mp gathered
    have still_open : ∀ tail, otherWords rest ≠ .separator :: tail := fun tail next =>
      leftOver_of_passed_other (w := .separator) trivial (keeps_takeText taken).2 next gathered nothing_left
    rw [otherWords_cons rfl, gather_plain still_open, plainly_textPassed, if_neg first,
      (keeps_takeText taken).1.plainly]
    exact ih f gathered
  | case13 d arg rest first ih =>
    obtain ⟨f, taken, gathered⟩ := bind_eq_ok_iff.mp gathered
    rw [otherWords_cons rfl, otherWords_cons rfl, gather, plainly_textPassed, if_neg first,
      (keeps_takeText taken).1.plainly]
    exact ih f gathered
  | case15 d rest alone first ih =>
    have still_alone : ∀ arg tail, otherWords rest ≠ .plain arg :: tail := fun arg tail next =>
      leftOver_of_passed_other (w := .plain arg) trivial rfl next gathered nothing_left
    rw [otherWords_cons rfl, gather_separator still_alone, plainly_textPassed, if_neg first]
    exact ih gathered

theorem finish_plainly {d : Draft} {r : Request} (finished : d.finish = .ok r) :
    r.json = d.json ∧ d.leftOver = [] ∧ d.plainly.finish = .ok { r with json := false } := by
  unfold finish at finished
  split at finished
  · cases finished
  · next source found nothing_left =>
    cases finished
    refine ⟨rfl, nothing_left, ?_⟩
    have same_source : d.plainly.source? = some source := found
    have same_left : d.plainly.leftOver = [] := nothing_left
    rw [finish, same_source, same_left]
    rfl
  · cases finished

end Draft

/-- Without the switch the same is asked for, in the form without it. -/
theorem Request.ofArgs_withoutJson {args : List String} {r : Request} (asked : ofArgs args = .ok r) :
    ofArgs (withoutJson args) = .ok { r with json := false } := by
  unfold ofArgs at asked
  split at asked
  · cases asked
  · next ws read =>
    obtain ⟨d, gathered, finished⟩ := bind_eq_ok_iff.mp asked
    obtain ⟨-, nothing_left, finished⟩ := Draft.finish_plainly finished
    rw [ofArgs, words_withoutJson read]
    exact bind_eq_ok_iff.mpr ⟨d.plainly, Draft.gather_plainly gathered nothing_left, finished⟩

/-- The switch makes the form. -/
theorem Request.json_eq_true_iff {args : List String} {r : Request} (asked : ofArgs args = .ok r) :
    r.json = true ↔ withoutJson args ≠ args := by
  constructor
  · intro json same
    have plainly := ofArgs_withoutJson asked
    rw [same, asked] at plainly
    have kept : r.json = false := congrArg Request.json (Except.ok.inj plainly)
    rw [json] at kept
    cases kept
  · intro switched
    unfold ofArgs at asked
    split at asked
    · cases asked
    · next ws read =>
      obtain ⟨d, gathered, finished⟩ := bind_eq_ok_iff.mp asked
      have listed : ws.any Word.isJson = true := by
        by_contra absent
        exact switched (withoutJson_eq_self read (Bool.eq_false_iff.mpr absent))
      rw [(Draft.finish_plainly finished).1, Draft.json_of_gather gathered, listed]
      rfl

theorem toList_printed_json (s : Screen) :
    (printed true s).toList = Json.write (Payload.ofScreen s).toValue ++ [lineFeed] := by
  change (String.ofList (Json.write (Payload.ofScreen s).toValue) ++ "\n").toList = _
  rw [String.toList_append, String.toList_ofList]
  rfl

/-- What is printed with the switch is one line that holds the payload of the screen, and what is printed
without it is the rows of that payload, each on a line of its own. -/
theorem run_json_line {files : Files} {args : List String} {report : Report}
    (ran : run files args = .ok report) (switched : withoutJson args ≠ args) :
    ∃ r settings loaded text screen events,
      (Request.ofArgs args = .ok r ∧ loadSettings files r.config = .ok (settings, loaded) ∧
        loadText files r.source = .ok text ∧ r.draw text settings = .ok (screen, events)) ∧
      (∃ line, report.stdout.toList = line ++ [lineFeed] ∧ (Payload.ofScreen screen).OnLine line) ∧
      ∃ other, run files (withoutJson args) = .ok other ∧ other.events = report.events ∧
        other.level = report.level ∧ (∀ row ∈ (Payload.ofScreen screen).rows, lineFeed ∉ row.toList) ∧
        other.stdout.toList =
          ((Payload.ofScreen screen).rows.map String.toList).flatMap (· ++ [lineFeed]) := by
  obtain ⟨r, level, settings, loaded, text, screen, events, asked, leveled, found, read, drawn, rfl⟩ :=
    run_eq_ok ran
  have json := (Request.json_eq_true_iff asked).mpr switched
  refine ⟨r, settings, loaded, text, screen, events, ⟨asked, found, read, drawn⟩, ?_, ?_⟩
  · refine ⟨Json.write (Payload.ofScreen screen).toValue, ?_, Payload.onLine_write _⟩
    rw [json]
    exact toList_printed_json screen
  · have asked_other := Request.ofArgs_withoutJson asked
    refine ⟨_, run_of_steps asked_other leveled found read drawn, rfl, rfl, ?_, toList_printed_rows screen⟩
    obtain ⟨unbroken, -, -⟩ := Request.unbroken_draw drawn
    intro row listed
    exact Screen.lineFeed_not_mem_visibleRows unbroken listed

/-- Two letters, as they stand, in the form of a payload and in that of rows. -/
theorem run_json_line_plain :
    ∃ report, run (fun _ => none) ["--plain", "--json", "AB"] = .ok report ∧
      ∃ screen line, report.stdout.toList = line ++ [lineFeed] ∧ (Payload.ofScreen screen).OnLine line ∧
        ∃ other, run (fun _ => none) ["--plain", "AB"] = .ok other ∧
          other.stdout.toList =
            ((Payload.ofScreen screen).rows.map String.toList).flatMap (· ++ [lineFeed]) := by
  have asked : Request.ofArgs ["--plain", "--json", "AB"] =
      .ok ⟨.text "AB", none, true, .value 0, .value 0, none, true, .value .warning⟩ := by decide
  have shorter : withoutJson ["--plain", "--json", "AB"] = ["--plain", "AB"] := by decide
  have switched : withoutJson ["--plain", "--json", "AB"] ≠ ["--plain", "--json", "AB"] := by decide
  obtain ⟨report, ran⟩ := exists_report asked rfl rfl rfl rfl rfl fun _ => none
  obtain ⟨_, _, _, _, screen, _, -, ⟨line, printed, on_line⟩, other, ran_other, -, -, -, rows⟩ :=
    run_json_line ran switched
  rw [shorter] at ran_other
  exact ⟨report, ran, screen, line, printed, on_line, other, ran_other, rows⟩

end CommandLine

end C64Screen
