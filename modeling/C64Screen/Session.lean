import C64Screen.Screen.Step

/-!
# Sessions

A screen together with a reference to one of the buffers it has had. Buffers are told apart by a number,
which counts the buffers the screen had before. A buffer that was replaced is retired: the reference may
still write to it, the screen no longer knows it.
-/

namespace C64Screen

structure Session where
  screen : Screen
  retired : Array Buffer
  /-- The number of the buffer referred to. -/
  kept : Option Nat

namespace Session

def start (s : Screen) : Session := ⟨s, #[], none⟩

/-- The number of the buffer in use. -/
def current (s : Session) : Nat := s.retired.size

def keep (s : Session) : Session := { s with kept := some s.current }

def keptIsCurrent (s : Session) : Bool := s.kept = some s.current

def buffer? (s : Session) (number : Nat) : Option Buffer :=
  if number = s.current then some s.screen.buffer else s.retired[number]?

/-- Puts a buffer in the place of another of its number. -/
def setBuffer (s : Session) (number : Nat) (b : Buffer) : Session :=
  if number = s.current then { s with screen := { s.screen with buffer := b } }
  else { s with retired := s.retired.setIfInBounds number b }

def kept? (s : Session) : Option Buffer := s.kept.bind s.buffer?

def step (s : Session) (step : Screen.Step) : Except ScreenError (Session × List Log.Event) := do
  let (screen, events) ← step.run s.screen
  let retired := if step.Reallocates then s.retired.push s.screen.buffer else s.retired
  return ({ s with screen, retired }, events)

/-- A write to the buffer with a given number. -/
def writeTo (s : Session) (number : Nat) (w : Write) : Session × List Log.Event :=
  if number = s.current then
    let (screen, events) := s.screen.write w
    ({ s with screen }, events)
  else
    match s.retired[number]? with
    | some b =>
      let (b, events) := w.run b
      ({ s with retired := s.retired.setIfInBounds number b }, events)
    | none => (s, [])

def writeKept (s : Session) (w : Write) : Session × List Log.Event :=
  match s.kept with
  | some number => s.writeTo number w
  | none => (s, [])

/-- What can be done in a session. -/
inductive Action where
  | screen (step : Screen.Step)
  | kept (w : Write)

/-- The session after an action, whether or not the action succeeds. -/
def after (s : Session) : Action → Session
  | .screen step =>
    match s.step step with
    | .ok (t, _) => t
    | .error _ => s
  | .kept w => (s.writeKept w).1

end Session

end C64Screen
