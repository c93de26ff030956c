import C64Screen.Proofs.Screen.Plain

/-!
# New buffers

The four ways to get a new buffer: a width, a height, both, or a font size. Each looks at the values it is
asked for before there is anything to undo, so a refused one leaves no trace, although the font size is
assigned before the buffer is there. An accepted one leaves a blank buffer in the cursor colour of the moment,
and of all that was there before only the dimensions it does not change and that colour have a part in it.
-/

namespace C64Screen

inductive Reallocation where
  | width (v : Value)
  | height (v : Value)
  | dimensions (width height : Value)
  | fontSize (v : Value)

namespace Reallocation

def step : Reallocation → Screen.Step
  | .width v => .setWidth v
  | .height v => .setHeight v
  | .dimensions w h => .resize w h
  | .fontSize v => .setFontSize v

/-- The values that are asked for. -/
def requested : Reallocation → List (Quantity × Value)
  | .width v => [(.width, v)]
  | .height v => [(.height, v)]
  | .dimensions w h => [(.width, w), (.height, h)]
  | .fontSize v => [(.fontSize, v)]

/-! What the screen is to have afterwards. -/

def columns (s : Screen) : Reallocation → Value
  | .width v | .dimensions v _ => v
  | .height _ | .fontSize _ => s.buffer.columns.toValue

def lines (s : Screen) : Reallocation → Value
  | .height v | .dimensions _ v => v
  | .width _ | .fontSize _ => s.buffer.lines.toValue

def size (s : Screen) : Reallocation → Value
  | .fontSize v => v
  | .width _ | .height _ | .dimensions .. => s.fontSize.toValue

end Reallocation

/-- Spaces in one colour. -/
def Grids.blank (width height : Nat) (colour : Value) : Grids :=
  ⟨width, height, List.replicate (width * height) " ", List.replicate (width * height) colour⟩

theorem Buffer.grids_blankBuffer (cursor : Colour) (width height : Size) :
    (Screen.blankBuffer cursor width height).grids = .blank width.val height.val cursor.toValue := by
  have cells : (Screen.blankBuffer cursor width height).cells.toList =
      List.replicate (width.val * height.val) ⟨' ', some cursor⟩ := Array.toList_replicate
  rw [Buffer.grids, cells, List.map_replicate, List.map_replicate]
  rfl

namespace Session

theorem size_retired (s : Session) (step : Screen.Step) :
    (if step.Reallocates then s.retired.push s.screen.buffer else s.retired).size =
      s.current + if step.Reallocates then 1 else 0 := by
  split
  · exact Array.size_push ..
  · rfl

/-- The routine follows the session step by step. -/
theorem runFrom_perform (s : Session) (log : List Log.Event) (step : Screen.Step) :
    (PlainScreen.perform step).runFrom (s.plain log) =
      match s.step step with
      | .ok (t, events) => (.ok (), t.plain (log ++ events))
      | .error e => (.error (.refused e), s.plain log) := by
  rw [plain, PlainScreen.runFrom_perform, Session.step]
  cases step.run s.screen with
  | ok result =>
    obtain ⟨screen, events⟩ := result
    have counted := s.size_retired step
    exact congrArg (fun count => (Except.ok (), screen.plain count (log ++ events))) counted.symm
  | error e => rfl

end Session

namespace Reallocation

variable {r : Reallocation}

/-- What a screen is after it has got a new buffer. -/
def fresh (s : Screen) (fontSize width height : Size) : Screen :=
  { s with fontSize, buffer := Screen.blankBuffer s.cursor width height }

theorem run_refused {e : ScreenError} (refused : Quantity.firstRefused? r.requested = some e)
    (s : Screen) : r.step.run s = .error e := by
  cases r with
  | width v =>
    obtain ⟨notSize, rfl⟩ := Quantity.firstRefused?_singleton.mp refused
    exact Screen.resize_refused (if_neg notSize) s
  | height v =>
    exact Screen.resize_refused ((if_pos s.buffer.columns.isSize_toValue).trans refused) s
  | dimensions w h => exact Screen.resize_refused refused s
  | fontSize v =>
    obtain ⟨notSize, rfl⟩ := Quantity.firstRefused?_singleton.mp refused
    rw [step, Screen.Step.run, Screen.setFontSize, Quantity.require_of_not_isSize notSize]
    rfl

theorem run_accepted (accepted : Quantity.firstRefused? r.requested = none) (s : Screen) :
    ∃ n w h : Size, r.size s = n.toValue ∧ r.columns s = w.toValue ∧ r.lines s = h.toValue ∧
      r.step.run s = .ok (fresh s n w h, [.allocated w.val h.val]) := by
  rw [Quantity.firstRefused?_eq_none_iff] at accepted
  cases r with
  | width v =>
    obtain ⟨w, rfl⟩ := Size.isSize_iff.mp (accepted (.width, v) List.mem_cons_self)
    exact ⟨s.fontSize, w, s.buffer.lines, rfl, rfl, rfl, s.resize_toValue w s.buffer.lines⟩
  | height v =>
    obtain ⟨h, rfl⟩ := Size.isSize_iff.mp (accepted (.height, v) List.mem_cons_self)
    exact ⟨s.fontSize, s.buffer.columns, h, rfl, rfl, rfl, s.resize_toValue s.buffer.columns h⟩
  | dimensions v v' =>
    obtain ⟨w, rfl⟩ := Size.isSize_iff.mp (accepted (.width, v) List.mem_cons_self)
    obtain ⟨h, rfl⟩ := Size.isSize_iff.mp
      (accepted (.height, v') (List.mem_cons_of_mem _ List.mem_cons_self))
    exact ⟨s.fontSize, w, h, rfl, rfl, rfl, s.resize_toValue w h⟩
  | fontSize v =>
    obtain ⟨n, rfl⟩ := Size.isSize_iff.mp (accepted (.fontSize, v) List.mem_cons_self)
    refine ⟨n, s.buffer.columns, s.buffer.lines, rfl, rfl, rfl, ?_⟩
    rw [step, Screen.Step.run, Screen.setFontSize, Quantity.require_toValue]
    rfl

variable (s : Screen) (replaced : Nat) (log : List Log.Event)

/-- What becomes of a plain screen that gets a new buffer. -/
def renewed (p : PlainScreen) (fontSize : Value) (width height : Nat) : PlainScreen :=
  { p with
    grids := .blank width height p.cursor
    replaced := p.replaced + 1
    fontSize
    log := p.log ++ [.allocated width height] }

theorem plain_fresh (n w h : Size) :
    (fresh s n w h).plain (replaced + 1) (log ++ [.allocated w.val h.val]) =
      renewed (s.plain replaced log) n.toValue w.val h.val := by
  rw [Screen.plain, fresh, Buffer.grids_blankBuffer]
  rfl

theorem step_reallocates (r : Reallocation) : r.step.Reallocates := by
  cases r with
  | width v => trivial
  | height v => trivial
  | dimensions w h => trivial
  | fontSize v => trivial

theorem runFrom_refused {e : ScreenError} (refused : Quantity.firstRefused? r.requested = some e) :
    (PlainScreen.perform r.step).runFrom (s.plain replaced log) =
      (.error (.refused e), s.plain replaced log) := by
  rw [PlainScreen.runFrom_perform, run_refused refused]
  rfl

theorem runFrom_accepted (accepted : Quantity.firstRefused? r.requested = none) :
    ∃ w h : Nat, r.columns s = .int w ∧ r.lines s = .int h ∧
      (PlainScreen.perform r.step).runFrom (s.plain replaced log) =
        (.ok (), renewed (s.plain replaced log) (r.size s) w h) := by
  obtain ⟨n, w, h, size, columns, lines, done⟩ := run_accepted accepted s
  refine ⟨w.val, h.val, columns, lines, ?_⟩
  rw [PlainScreen.runFrom_perform, done, if_pos r.step_reallocates, size, ← plain_fresh]
  rfl

/-- Refused for one of the values that are asked for, or carried out. -/
theorem runFrom_cases (r : Reallocation) :
    let result := (PlainScreen.perform r.step).runFrom (s.plain replaced log)
    (∃ x ∈ r.requested, ¬ x.2.IsSize ∧
      result = (.error (.refused (.notPositive x.1 x.2)), s.plain replaced log)) ∨
    (∀ x ∈ r.requested, x.2.IsSize) ∧
      ∃ w h : Nat, r.columns s = .int w ∧ r.lines s = .int h ∧
        result = (.ok (), renewed (s.plain replaced log) (r.size s) w h) := by
  cases found : Quantity.firstRefused? r.requested with
  | none => exact .inr ⟨Quantity.firstRefused?_eq_none_iff.mp found, runFrom_accepted s replaced log found⟩
  | some e =>
    obtain ⟨x, listed, notSize, rfl⟩ := Quantity.firstRefused?_eq_some found
    exact .inl ⟨x, listed, notSize, runFrom_refused s replaced log found⟩

/-- Nothing of a screen but its cursor colour and the dimensions to come shows in the new buffer. -/
theorem runFrom_history {s t : Screen} (cursor : t.cursor = s.cursor)
    (columns : r.columns t = r.columns s) (lines : r.lines t = r.lines s) (replaced replaced' : Nat)
    (log log' : List Log.Event) :
    let one := (PlainScreen.perform r.step).runFrom (s.plain replaced log)
    let other := (PlainScreen.perform r.step).runFrom (t.plain replaced' log')
    other.1 = one.1 ∧ (one.1 = .ok () → other.2.grids = one.2.grids) := by
  intro one other
  cases found : Quantity.firstRefused? r.requested with
  | none =>
    obtain ⟨w, h, atColumns, atLines, done⟩ := runFrom_accepted s replaced log found
    obtain ⟨w', h', atColumns', atLines', done'⟩ := runFrom_accepted t replaced' log' found
    have sameWidth : w' = w := by
      rw [← columns, atColumns'] at atColumns
      exact Int.ofNat_inj.mp (Value.int.inj atColumns)
    have sameHeight : h' = h := by
      rw [← lines, atLines'] at atLines
      exact Int.ofNat_inj.mp (Value.int.inj atLines)
    have blank : other.2.grids = one.2.grids := by
      rw [show other = _ from done', show one = _ from done, sameWidth, sameHeight]
      change Grids.blank w h t.cursor.toValue = Grids.blank w h s.cursor.toValue
      rw [cursor]
    exact ⟨by rw [show other = _ from done', show one = _ from done], fun _ => blank⟩
  | some e =>
    have broken : one = _ := runFrom_refused s replaced log found
    have broken' : other = _ := runFrom_refused t replaced' log' found
    rw [broken, broken']
    exact ⟨rfl, nofun⟩

theorem after_resize (w h : Size) :
    (s.plain replaced log).after (.resize w.toValue h.toValue) =
      (fresh s s.fontSize w h).plain (replaced + 1) (log ++ [.allocated w.val h.val]) :=
  PlainScreen.after_of_ok s replaced log (s.resize_toValue w h)

theorem after_setWidth (w : Size) :
    (s.plain replaced log).after (.setWidth w.toValue) =
      (fresh s s.fontSize w s.buffer.lines).plain (replaced + 1)
        (log ++ [.allocated w.val s.height]) :=
  PlainScreen.after_of_ok s replaced log (s.resize_toValue w s.buffer.lines)

theorem after_setHeight (h : Size) :
    (s.plain replaced log).after (.setHeight h.toValue) =
      (fresh s s.fontSize s.buffer.columns h).plain (replaced + 1)
        (log ++ [.allocated s.width h.val]) :=
  PlainScreen.after_of_ok s replaced log (s.resize_toValue s.buffer.columns h)

/-- A width and a height come to the same in either order and at once. -/
theorem after_either_order (w h : Size) :
    let p := s.plain replaced log
    let resized := p.after (.resize w.toValue h.toValue)
    (p.after (.setWidth w.toValue)).after (.setHeight h.toValue) =
      { resized with
        replaced := replaced + 2
        log := log ++ [.allocated w.val s.height, .allocated w.val h.val] } ∧
    (p.after (.setHeight h.toValue)).after (.setWidth w.toValue) =
      { resized with
        replaced := replaced + 2
        log := log ++ [.allocated s.width h.val, .allocated w.val h.val] } := by
  intro p resized
  constructor
  · rw [after_setWidth, after_setHeight, List.append_assoc, show resized = _ from after_resize ..]
    rfl
  · rw [after_setHeight, after_setWidth, List.append_assoc, show resized = _ from after_resize ..]
    rfl

theorem retired_of_step {s t : Session} {events : List Log.Event}
    (done : s.step r.step = .ok (t, events)) :
    t.retired = s.retired.push s.screen.buffer ∧ t.kept = s.kept := by
  rw [Session.step] at done
  cases ran : r.step.run s.screen with
  | ok result =>
    rw [ran] at done
    cases done
    exact ⟨if_pos r.step_reallocates, rfl⟩
  | error e =>
    rw [ran] at done
    cases done

end Reallocation

namespace Session

open Reallocation

/-- Either a value that is asked for is no size, and then nothing has changed, or there is one new buffer,
logged once, which the dimensions and the cursor colour settle, and besides the font size that was asked for
nothing else has changed. A width and a height come to the same in either order and at once. -/
theorem reallocate_all_or_nothing (s : Session) (log : List Log.Event) (r : Reallocation) :
    let p := s.plain log
    let result := (PlainScreen.perform r.step).runFrom p
    (result = match s.step r.step with
      | .ok (t, events) => (.ok (), t.plain (log ++ events))
      | .error e => (.error (.refused e), p)) ∧
    ((∃ e, result.1 = .error e) ↔ ∃ x ∈ r.requested, ¬ x.2.IsSize) ∧
    (∀ e, result.1 = .error e → result.2 = p ∧
      ∃ x ∈ r.requested, ¬ x.2.IsSize ∧ e = .refused (.notPositive x.1 x.2)) ∧
    (result.1 = .ok () → ∃ w h : Nat, r.columns s.screen = .int w ∧ r.lines s.screen = .int h ∧
      result.2 = renewed p (r.size s.screen) w h) ∧
    (∀ t events, s.step r.step = .ok (t, events) →
      t.retired = s.retired.push s.screen.buffer ∧ t.kept = s.kept) ∧
    (∀ (other : Session) (log' : List Log.Event), other.screen.cursor = s.screen.cursor →
      r.columns other.screen = r.columns s.screen → r.lines other.screen = r.lines s.screen →
      let result' := (PlainScreen.perform r.step).runFrom (other.plain log')
      result'.1 = result.1 ∧ (result.1 = .ok () → result'.2.grids = result.2.grids)) ∧
    ∀ w h : Size,
      let resized := p.after (.resize w.toValue h.toValue)
      (p.after (.setWidth w.toValue)).after (.setHeight h.toValue) =
        { resized with
          replaced := p.replaced + 2
          log := log ++ [.allocated w.val s.screen.height, .allocated w.val h.val] } ∧
      (p.after (.setHeight h.toValue)).after (.setWidth w.toValue) =
        { resized with
          replaced := p.replaced + 2
          log := log ++ [.allocated s.screen.width h.val, .allocated w.val h.val] } := by
  intro p result
  have followed := s.runFrom_perform log r.step
  have alike := fun (other : Session) (log' : List Log.Event)
      (cursor : other.screen.cursor = s.screen.cursor) columns lines =>
    runFrom_history cursor (r := r) columns lines s.current other.current log log'
  have eitherOrder := after_either_order s.screen s.current log
  rcases runFrom_cases s.screen s.current log r with
    ⟨x, listed, notSize, broken⟩ | ⟨accepted, w, h, columns, lines, done⟩
  · have raised : result = (.error (.refused (.notPositive x.1 x.2)), p) := broken
    refine ⟨followed, ?_, ?_, ?_, fun _ _ => retired_of_step, alike, eitherOrder⟩
    · rw [raised]
      exact ⟨fun _ => ⟨x, listed, notSize⟩, fun _ => ⟨_, rfl⟩⟩
    · rw [raised]
      rintro e ⟨⟩
      exact ⟨rfl, x, listed, notSize, rfl⟩
    · rw [raised]
      nofun
  · have succeeded : result = (.ok (), renewed p (r.size s.screen) w h) := done
    refine ⟨followed, ?_, ?_, ?_, fun _ _ => retired_of_step, alike, eitherOrder⟩
    · rw [succeeded]
      exact ⟨nofun, fun ⟨x, listed, notSize⟩ => absurd (accepted x listed) notSize⟩
    · rw [succeeded]
      nofun
    · rw [succeeded]
      exact fun _ => ⟨w, h, columns, lines, rfl⟩

end Session

end C64Screen
