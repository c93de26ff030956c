import C64Screen.Proofs.Buffer.Grids
import C64Screen.Proofs.Screen.Making
import C64Screen.Session

/-!
# Plain screens

A screen once more, statement by statement, over the two plain grids and attributes that could be anything.
A routine that is interrupted leaves what it has assigned by then, so nothing in its form binds it to leave the
screen alone, and no type keeps a truth value out of an attribute. The statements of a routine, followed one
after another, come to what the step of a session does, and an interrupted one to no change at all.
-/

namespace C64Screen

/-- What breaks a routine off: a value that is refused, or an index without an item. -/
inductive Interruption where
  | refused (e : ScreenError)
  | strayIndex

structure PlainScreen where
  grids : Grids
  /-- How many buffers there were before the one in use. -/
  replaced : Nat
  border : Value
  background : Value
  cursor : Value
  fontSize : Value
  charsEnabled : Bool
  coloursEnabled : Bool
  log : List Log.Event

/-- What has a colour of its own. -/
inductive Part where
  | border
  | background
  | cursor

namespace PlainScreen

def colour (p : PlainScreen) : Part → Value
  | .border => p.border
  | .background => p.background
  | .cursor => p.cursor

def assign (p : PlainScreen) (part : Part) (colour : Value) : PlainScreen :=
  match part with
  | .border => { p with border := colour }
  | .background => { p with background := colour }
  | .cursor => { p with cursor := colour }

theorem assign_colour (p : PlainScreen) (part : Part) : p.assign part (p.colour part) = p := by
  cases part with
  | border => rfl
  | background => rfl
  | cursor => rfl

end PlainScreen

abbrev Routine (α : Type) := ExceptT Interruption (StateM PlainScreen) α

namespace Routine

variable {α β : Type}

def runFrom (r : Routine α) (p : PlainScreen) : Except Interruption α × PlainScreen := (ExceptT.run r).run p

@[simp] theorem runFrom_pure (a : α) (p : PlainScreen) :
    (pure a : Routine α).runFrom p = (.ok a, p) := rfl

@[simp] theorem runFrom_get (p : PlainScreen) : (get : Routine PlainScreen).runFrom p = (.ok p, p) := rfl

@[simp] theorem runFrom_modify (f : PlainScreen → PlainScreen) (p : PlainScreen) :
    (modify f : Routine Unit).runFrom p = (.ok (), f p) := rfl

theorem runFrom_bind_of_ok {r : Routine α} {p q : PlainScreen} {a : α} (done : r.runFrom p = (.ok a, q))
    (next : α → Routine β) : (r >>= next).runFrom p = (next a).runFrom q := by
  unfold runFrom at done ⊢
  rw [ExceptT.run_bind, StateT.run_bind, done]
  rfl

theorem runFrom_bind_of_error {r : Routine α} {p q : PlainScreen} {e : Interruption}
    (broken : r.runFrom p = (.error e, q)) (next : α → Routine β) :
    (r >>= next).runFrom p = (.error e, q) := by
  unfold runFrom at broken ⊢
  rw [ExceptT.run_bind, StateT.run_bind, broken]
  rfl

end Routine

/-- Row-major, for any column and row. -/
def Grids.offset (g : Grids) (x y : Int) : Int := x + y * g.width

namespace PlainScreen

/-! Routines. -/

def require (quantity : Quantity) (v : Value) : Routine Size :=
  match quantity.require v with
  | .ok size => pure size
  | .error e => throw (.refused e)

def paint (g : Grids) (w : Write) : Routine Grids :=
  match g.write? w with
  | some painted => pure painted
  | none => throw .strayIndex

def report (events : List Log.Event) : Routine Unit :=
  modify fun p => { p with log := p.log ++ events }

/-- Grids filled with spaces and with what is the cursor colour at that time. -/
def allocate (width height : Value) : Routine Grids := do
  let columns ← require .width width
  let lines ← require .height height
  let spaces ← paint (.new columns.val lines.val) (.fillChar " ")
  let p ← get
  let g ← paint spaces (.fillColour p.cursor)
  report [.allocated columns.val lines.val]
  return g

def replace (g : Grids) : Routine Unit :=
  modify fun p => { p with grids := g, replaced := p.replaced + 1 }

def resize (width height : Value) : Routine Unit := do
  let g ← allocate width height
  replace g

def setWidth (width : Value) : Routine Unit := do
  let p ← get
  resize width (.int p.grids.height)

def setHeight (height : Value) : Routine Unit := do
  let p ← get
  resize (.int p.grids.width) height

/-- The size is assigned before there are new grids. -/
def setFontSize (size : Value) : Routine Unit := do
  let _ ← require .fontSize size
  modify fun p => { p with fontSize := size }
  let p ← get
  let g ← allocate (.int p.grids.width) (.int p.grids.height)
  replace g

/-- What is no colour is not assigned. -/
def setColour (part : Part) (colour : Value) : Routine Unit :=
  modify fun p => if colour.IsColour then p.assign part colour else p

def write (w : Write) : Routine Unit := do
  let p ← get
  let g ← paint p.grids w
  modify fun p => { p with grids := g }
  report (w.events p.grids.width)

def writeAll : List Write → Routine Unit
  | [] => pure ()
  | w :: rest => do
    write w
    writeAll rest

/-- The texts of the test picture, in order. -/
def picture (width : Nat) (colour : Value) : List Write :=
  [.placeText Screen.banner.toList (6 + 1 * width) colour,
   .placeText Screen.uppercaseCaption.toList (0 + 4 * width) colour,
   .placeText Bank.uppercase.glyphs (0 + 6 * width) colour,
   .placeText Screen.lowercaseCaption.toList (0 + 15 * width) colour,
   .placeText Bank.lowercase.glyphs (0 + 17 * width) colour]

def printTestPicture : Routine Unit := do
  let p ← get
  writeAll (picture p.grids.width p.cursor)

def perform : Screen.Step → Routine Unit
  | .setWidth width => setWidth width
  | .setHeight height => setHeight height
  | .resize width height => resize width height
  | .setFontSize size => setFontSize size
  | .setBorder colour => setColour .border colour
  | .setBackground colour => setColour .background colour
  | .setCursor colour => setColour .cursor colour
  | .enableChars on => modify fun p => { p with charsEnabled := on }
  | .enableColours on => modify fun p => { p with coloursEnabled := on }
  | .write w => write w
  | .print text x y colour => do
    let p ← get
    write (.placeText text (p.grids.offset x y) colour)
  | .printMarkup text x y colour => do
    let p ← get
    write (.interpret text (p.grids.offset x y) colour)
  | .testPicture => printTestPicture

/-- The screen after a step, whether or not it is broken off. -/
def after (p : PlainScreen) (step : Screen.Step) : PlainScreen := ((perform step).runFrom p).2

/-- Before anything is assigned. -/
def unmade : PlainScreen where
  grids := ⟨0, 0, [], []⟩
  replaced := 0
  border := .null
  background := .null
  cursor := .null
  fontSize := .null
  charsEnabled := false
  coloursEnabled := false
  log := []

/-- Assigns everything but the grids. -/
def dress (o : Screen.Options) : Routine Unit := do
  let _ ← require .fontSize o.fontSize
  modify fun p => { p with fontSize := o.fontSize }
  modify fun p => p.assign .border Screen.defaultBorder.toValue
  modify fun p => p.assign .background Screen.defaultBackground.toValue
  modify fun p => p.assign .cursor Screen.defaultCursor.toValue
  setColour .border o.border
  setColour .background o.background
  setColour .cursor o.cursor
  modify fun p => { p with charsEnabled := true, coloursEnabled := true }

def construct (o : Screen.Options) : Routine Unit := do
  dress o
  let g ← allocate o.width o.height
  modify fun p => { p with grids := g }
  if o.testPicture then printTestPicture

end PlainScreen

/-! What the routines come to. -/

def Screen.plain (s : Screen) (replaced : Nat) (log : List Log.Event) : PlainScreen where
  grids := s.buffer.grids
  replaced := replaced
  border := s.border.toValue
  background := s.background.toValue
  cursor := s.cursor.toValue
  fontSize := s.fontSize.toValue
  charsEnabled := s.charsEnabled
  coloursEnabled := s.coloursEnabled
  log := log

def Session.plain (s : Session) (log : List Log.Event) : PlainScreen := s.screen.plain s.current log

namespace Screen

/-- What a routine comes to if the step comes to a result and puts so many buffers out of use. -/
def outcome (s : Screen) (replaced : Nat) (log : List Log.Event) (more : Nat) :
    Except ScreenError (Screen × List Log.Event) → Except Interruption Unit × PlainScreen
  | .ok (t, events) => (.ok (), t.plain (replaced + more) (log ++ events))
  | .error e => (.error (.refused e), s.plain replaced log)

end Screen

namespace PlainScreen

open Routine Buffer

theorem runFrom_require (quantity : Quantity) (size : Size) (p : PlainScreen) :
    (require quantity size.toValue).runFrom p = (.ok size, p) := by
  rw [require, Quantity.require_toValue]
  rfl

theorem runFrom_require_refused {v : Value} (refused : ¬ v.IsSize) (quantity : Quantity)
    (p : PlainScreen) :
    (require quantity v).runFrom p = (.error (.refused (.notPositive quantity v)), p) := by
  rw [require, Quantity.require_of_not_isSize refused]
  rfl

theorem runFrom_paint (b : Buffer) (w : Write) (p : PlainScreen) :
    (paint b.grids w).runFrom p = (.ok (w.run b).1.grids, p) := by
  rw [paint, grids_write?]
  rfl

theorem runFrom_allocate {p : PlainScreen} {cursor : Colour} (coloured : p.cursor = cursor.toValue)
    (width height : Size) :
    (allocate width.toValue height.toValue).runFrom p =
      (.ok (Screen.blankBuffer cursor width height).grids,
        { p with log := p.log ++ [.allocated width.val height.val] }) := by
  let spaces := ((Buffer.new width height).fillChar " ").grids
  have spaced : (paint (.new width.val height.val) (.fillChar " ")).runFrom p = (.ok spaces, p) := by
    rw [← grids_new, runFrom_paint]
    rfl
  have filled : (paint spaces (.fillColour p.cursor)).runFrom p =
      (.ok (Screen.blankBuffer cursor width height).grids, p) := by
    rw [coloured, runFrom_paint, ← fill_new]
    rfl
  rw [allocate, runFrom_bind_of_ok (runFrom_require .width width p),
    runFrom_bind_of_ok (runFrom_require .height height p), runFrom_bind_of_ok spaced,
    runFrom_bind_of_ok (runFrom_get p), runFrom_bind_of_ok filled]
  rfl

theorem runFrom_allocate_refused {width height : Value} {e : ScreenError}
    (refused : Quantity.firstRefused? [(.width, width), (.height, height)] = some e)
    (p : PlainScreen) : (allocate width height).runFrom p = (.error (.refused e), p) := by
  rcases Quantity.refused_cases refused with ⟨notSize, rfl⟩ | ⟨w, rfl, notSize, rfl⟩
  · rw [allocate, runFrom_bind_of_error (runFrom_require_refused notSize .width p)]
  · rw [allocate, runFrom_bind_of_ok (runFrom_require .width w p),
      runFrom_bind_of_error (runFrom_require_refused notSize .height p)]

variable (s : Screen) (replaced : Nat) (log : List Log.Event)

theorem runFrom_resize (width height : Value) :
    (resize width height).runFrom (s.plain replaced log) =
      s.outcome replaced log 1 (s.resize width height) := by
  cases found : Quantity.firstRefused? [(.width, width), (.height, height)] with
  | none =>
    obtain ⟨w, h, rfl, rfl⟩ := Quantity.sizes_of_not_refused found
    rw [resize, runFrom_bind_of_ok (runFrom_allocate rfl w h), s.resize_toValue]
    rfl
  | some e =>
    rw [resize, runFrom_bind_of_error (runFrom_allocate_refused found _), s.resize_refused found]
    rfl

theorem runFrom_setWidth (width : Value) :
    (setWidth width).runFrom (s.plain replaced log) = s.outcome replaced log 1 (s.setWidth width) := by
  rw [setWidth, runFrom_bind_of_ok (runFrom_get _)]
  exact runFrom_resize s replaced log width s.buffer.lines.toValue

theorem runFrom_setHeight (height : Value) :
    (setHeight height).runFrom (s.plain replaced log) =
      s.outcome replaced log 1 (s.setHeight height) := by
  rw [setHeight, runFrom_bind_of_ok (runFrom_get _)]
  exact runFrom_resize s replaced log s.buffer.columns.toValue height

theorem runFrom_setFontSize (size : Value) :
    (setFontSize size).runFrom (s.plain replaced log) =
      s.outcome replaced log 1 (s.setFontSize size) := by
  by_cases accepted : size.IsSize
  · obtain ⟨n, rfl⟩ := Size.isSize_iff.mp accepted
    let resized : Screen := { s with fontSize := n }
    have reallocated :=
      runFrom_resize resized replaced log s.buffer.columns.toValue s.buffer.lines.toValue
    rw [Screen.resize_toValue] at reallocated
    rw [setFontSize, runFrom_bind_of_ok (runFrom_require .fontSize n _),
      runFrom_bind_of_ok (runFrom_modify _ _), runFrom_bind_of_ok (runFrom_get _),
      Screen.setFontSize, Quantity.require_toValue]
    exact reallocated
  · rw [setFontSize, runFrom_bind_of_error (runFrom_require_refused accepted .fontSize _),
      Screen.setFontSize, Quantity.require_of_not_isSize accepted]
    rfl

theorem runFrom_write (w : Write) :
    (write w).runFrom (s.plain replaced log) =
      (.ok (), (s.write w).1.plain replaced (log ++ (s.write w).2)) := by
  have painted : (paint (s.plain replaced log).grids w).runFrom (s.plain replaced log) =
      (.ok (w.run s.buffer).1.grids, s.plain replaced log) := runFrom_paint s.buffer w _
  rw [write, runFrom_bind_of_ok (runFrom_get _), runFrom_bind_of_ok painted,
    runFrom_bind_of_ok (runFrom_modify _ _)]
  change (Except.ok (), _) = _
  rw [show (s.write w).2 = w.events s.buffer.width from Write.run_events s.buffer w]
  rfl

theorem runFrom_writeAll (writes : List Write) :
    (writeAll writes).runFrom (s.plain replaced log) =
      (.ok (), { s with buffer := (Write.runAll s.buffer writes).1 }.plain replaced
        (log ++ (Write.runAll s.buffer writes).2)) := by
  induction writes generalizing s log with
  | nil =>
    rw [writeAll, runFrom_pure, Write.runAll, List.append_nil]
  | cons w rest ih =>
    rw [writeAll, runFrom_bind_of_ok (runFrom_write s replaced log w), ih, List.append_assoc]
    rfl

theorem runAll_picture (b : Buffer) (colour : Value) :
    Write.runAll b (picture b.width colour) = (Screen.testPicture b colour, []) := by
  simp only [picture, Write.runAll, Write.run, Screen.testPicture, Buffer.offset, width_placeText,
    List.append_nil]

theorem runFrom_printTestPicture :
    printTestPicture.runFrom (s.plain replaced log) = (.ok (), s.printTestPicture.plain replaced log) := by
  let writes := picture s.buffer.width s.cursor.toValue
  calc
    printTestPicture.runFrom (s.plain replaced log)
      = (writeAll writes).runFrom (s.plain replaced log) := runFrom_bind_of_ok (runFrom_get _) _
    _ = (.ok (), { s with buffer := (Write.runAll s.buffer writes).1 }.plain replaced
          (log ++ (Write.runAll s.buffer writes).2)) := runFrom_writeAll s replaced log writes
    _ = (.ok (), s.printTestPicture.plain replaced log) := by
      rw [runAll_picture, List.append_nil, Screen.printTestPicture]

theorem runFrom_setColour {p : PlainScreen} {part : Part} {c : Colour}
    (coloured : p.colour part = c.toValue) (v : Value) :
    (setColour part v).runFrom p =
      (.ok (), p.assign part ((Colour.ofValue? v).getD c).toValue) := by
  rw [setColour, runFrom_modify, Colour.toValue_getD]
  split
  · rfl
  · rw [← coloured, assign_colour]

/-- No index is ever without an item, and what is refused leaves no trace. -/
theorem runFrom_perform (step : Screen.Step) :
    (perform step).runFrom (s.plain replaced log) =
      s.outcome replaced log (if step.Reallocates then 1 else 0) (step.run s) := by
  cases step with
  | setWidth width => exact runFrom_setWidth s replaced log width
  | setHeight height => exact runFrom_setHeight s replaced log height
  | resize width height => exact runFrom_resize s replaced log width height
  | setFontSize size => exact runFrom_setFontSize s replaced log size
  | setBorder colour =>
    rw [perform, runFrom_setColour rfl, Screen.Step.run, Screen.outcome, List.append_nil]
    rfl
  | setBackground colour =>
    rw [perform, runFrom_setColour rfl, Screen.Step.run, Screen.outcome, List.append_nil]
    rfl
  | setCursor colour =>
    rw [perform, runFrom_setColour rfl, Screen.Step.run, Screen.outcome, List.append_nil]
    rfl
  | enableChars on =>
    rw [perform, runFrom_modify, Screen.Step.run, Screen.outcome, List.append_nil]
    rfl
  | enableColours on =>
    rw [perform, runFrom_modify, Screen.Step.run, Screen.outcome, List.append_nil]
    rfl
  | write w => exact runFrom_write s replaced log w
  | print text x y colour =>
    rw [perform, runFrom_bind_of_ok (runFrom_get _)]
    exact runFrom_write s replaced log (.placeText text (s.buffer.offset x y) colour)
  | printMarkup text x y colour =>
    rw [perform, runFrom_bind_of_ok (runFrom_get _)]
    exact runFrom_write s replaced log (.interpret text (s.buffer.offset x y) colour)
  | testPicture =>
    rw [perform, runFrom_printTestPicture, Screen.Step.run, Screen.outcome, List.append_nil]
    rfl

theorem after_of_ok {t : Screen} {step : Screen.Step} {events : List Log.Event}
    (done : step.run s = .ok (t, events)) :
    (s.plain replaced log).after step =
      t.plain (replaced + if step.Reallocates then 1 else 0) (log ++ events) := by
  rw [after, runFrom_perform, done]
  rfl

theorem after_of_error {step : Screen.Step} {e : ScreenError} (refused : step.run s = .error e) :
    (s.plain replaced log).after step = s.plain replaced log := by
  rw [after, runFrom_perform, refused]
  rfl

theorem after_plain (step : Screen.Step) :
    ∃ count later, (s.plain replaced log).after step = (step.after s).plain count later := by
  rw [Screen.Step.after]
  cases ran : step.run s with
  | ok result => exact ⟨_, _, after_of_ok s replaced log ran⟩
  | error e => exact ⟨replaced, log, after_of_error s replaced log ran⟩

def dressed (o : Screen.Options) (fontSize : Size) : PlainScreen where
  grids := unmade.grids
  replaced := 0
  border := ((Colour.ofValue? o.border).getD Screen.defaultBorder).toValue
  background := ((Colour.ofValue? o.background).getD Screen.defaultBackground).toValue
  cursor := ((Colour.ofValue? o.cursor).getD Screen.defaultCursor).toValue
  fontSize := fontSize.toValue
  charsEnabled := true
  coloursEnabled := true
  log := []

theorem runFrom_dress {o : Screen.Options} {fontSize : Size} (size : o.fontSize = fontSize.toValue) :
    (dress o).runFrom unmade = (.ok (), dressed o fontSize) := by
  rw [dress, size, runFrom_bind_of_ok (runFrom_require .fontSize fontSize _),
    runFrom_bind_of_ok (runFrom_modify _ _), runFrom_bind_of_ok (runFrom_modify _ _),
    runFrom_bind_of_ok (runFrom_modify _ _), runFrom_bind_of_ok (runFrom_modify _ _),
    runFrom_bind_of_ok (runFrom_setColour rfl o.border),
    runFrom_bind_of_ok (runFrom_setColour rfl o.background),
    runFrom_bind_of_ok (runFrom_setColour rfl o.cursor), runFrom_modify]
  rfl

theorem runFrom_dress_refused {o : Screen.Options} (refused : ¬ o.fontSize.IsSize) :
    (dress o).runFrom unmade = (.error (.refused (.notPositive .fontSize o.fontSize)), unmade) := by
  rw [dress, runFrom_bind_of_error (runFrom_require_refused refused .fontSize _)]

/-- The constructor assigns what the screen is made with, or raises what the screen is refused for. -/
theorem runFrom_construct (o : Screen.Options) :
    match Screen.ofOptions o with
    | .ok (s, events) => (construct o).runFrom unmade = (.ok (), s.plain 0 events)
    | .error e => ((construct o).runFrom unmade).1 = .error (.refused e) := by
  rcases Screen.sizes_cases o with ⟨n, w, h, size, columns, lines⟩ | refused | ⟨n, e, size, found⟩
  · let s := Screen.bare o n w h
    let events : List Log.Event := [.allocated w.val h.val]
    have allocated : (allocate o.width o.height).runFrom (dressed o n) =
        (.ok s.buffer.grids, { dressed o n with log := events }) := by
      rw [columns, lines]
      exact runFrom_allocate rfl w h
    rw [Screen.ofOptions_of_sizes size columns lines, construct,
      runFrom_bind_of_ok (runFrom_dress size), runFrom_bind_of_ok allocated,
      runFrom_bind_of_ok (runFrom_modify _ _)]
    cases o.testPicture with
    | false => rfl
    | true => exact runFrom_printTestPicture s 0 events
  · rw [Screen.ofOptions_of_fontSize_refused refused, construct,
      runFrom_bind_of_error (runFrom_dress_refused refused)]
  · rw [Screen.ofOptions_refused size found, construct, runFrom_bind_of_ok (runFrom_dress size),
      runFrom_bind_of_error (runFrom_allocate_refused found _)]

end PlainScreen

end C64Screen
