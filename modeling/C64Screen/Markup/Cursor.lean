import C64Screen.Charset
import C64Screen.Markup.Script

/-!
# Running a script

A cursor has a place, the colour to write with and a direction of video. A place is the offset of the next
character and the offset at which the present line began, either of them possibly outside the grid. A
cursor may be without a place until it is sent home; an effect that needs one then leaves it adrift.
-/

namespace C64Screen.Markup

structure Place where
  offset : Int
  lineStart : Int
  deriving DecidableEq, Repr

def Place.origin : Place := ⟨0, 0⟩

def Place.lineFeed (width : Nat) (p : Place) : Place :=
  ⟨p.lineStart + width, p.lineStart + width⟩

def Place.move (n : Int) (p : Place) : Place := { p with offset := p.offset + n }

structure Cursor where
  place : Option Place
  colour : Value
  reverse : Bool

/-- A cursor at the start of a text. -/
def Cursor.start (offset : Option Int) (colour : Value) : Cursor :=
  ⟨offset.map (fun o => ⟨o, o⟩), colour, false⟩

def Cursor.shown (cursor : Cursor) (c : Char) : Char :=
  if cursor.reverse then Charset.reverse c else c

/-- Where an effect takes the cursor on a grid of a given width. There is no answer where the effect needs a
place and the cursor has none. -/
def Effect.steer (width : Nat) (cursor : Cursor) : Effect → Option Cursor
  | .write _ => cursor.place.map fun p => { cursor with place := some (p.move 1) }
  | .lineFeed => cursor.place.map fun p => { cursor with place := some (p.lineFeed width) }
  | .clear => some { cursor with place := some .origin }
  | .home => some { cursor with place := some .origin }
  | .move rows cells =>
    cursor.place.map fun p => { cursor with place := some (p.move (rows * width + cells)) }
  | .ink code => some { cursor with colour := .int code }
  | .reverse on => some { cursor with reverse := on }

/-- What an effect leaves on the buffer. -/
def Effect.draw (cursor : Cursor) (b : Buffer) : Effect → Buffer
  | .write c =>
    match cursor.place with
    | some p => b.place (cursor.shown c) p.offset cursor.colour
    | none => b
  | .clear => b.clear
  | _ => b

structure State where
  buffer : Buffer
  cursor : Cursor

/-- A token has been read when a movement finds no place to start from; a character has not. -/
def Effect.adriftAhead (width : Nat) : Effect → Nat
  | .move .. => width
  | _ => 0

inductive Halt where
  | broken (fault : Fault) (position : Nat)
  | adrift (position : Nat)
  deriving DecidableEq, Repr

def Halt.position : Halt → Nat
  | .broken _ position => position
  | .adrift position => position

/-- The state in which a run stops, and why if it is not at the end of its text. -/
structure Stop where
  state : State
  halt : Option Halt

def Ending.run (s : State) (index : Nat) : Ending → Stop
  | .complete => ⟨s, none⟩
  | .broken fault ahead => ⟨s, some (.broken fault (index + ahead))⟩
  | .unclosed effect ahead =>
    match effect.steer s.buffer.width s.cursor with
    | some cursor =>
      ⟨⟨effect.draw s.cursor s.buffer, cursor⟩, some (.broken .parsing (index + ahead))⟩
    | none => ⟨s, some (.adrift (index + effect.adriftAhead ahead))⟩

def runItems (ending : Ending) : State → (index : Nat) → List Item → Stop
  | s, index, [] => ending.run s index
  | s, index, i :: rest =>
    match i.effect.steer s.buffer.width s.cursor with
    | some cursor =>
      runItems ending ⟨i.effect.draw s.cursor s.buffer, cursor⟩ (index + i.width) rest
    | none => ⟨s, some (.adrift (index + i.effect.adriftAhead i.width))⟩

def Script.run (script : Script) (s : State) (index : Nat) : Stop :=
  runItems script.ending s index script.items

/-- Runs a text whose first character has the given index. -/
def run (s : State) (index : Nat) (text : List Char) : Stop := (Script.ofText text).run s index

end C64Screen.Markup
