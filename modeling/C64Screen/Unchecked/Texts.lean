import C64Screen.Unchecked.Cells
import C64Screen.Markup.Interpret

/-!
# Texts, by values of any kind

Placing and interpreting where the text, its offset and its colour may be anything. What is not true counts
as an empty text. Anything else with parts is gone through part by part; markup in parts has no tokens. A
number that is not whole is followed as a cursor all the same, up to where it would have to write.
-/

namespace C64Screen.Unchecked

def lineEnd : String := String.singleton lineFeed

def brace : String := String.singleton Markup.tokenStart

def nextLine? (b : Buffer) (start : Value) : Option Value := start.plus? (.int b.width)

def nextCell? (o : Value) : Option Value := o.plus? (.int 1)

def placeParts (colour : Value) : List Value → (o start : Value) → Buffer → Trial
  | [], _, _, b => fit b
  | part :: rest, o, start, b =>
    if part.isText lineEnd then
      match nextLine? b start with
      | some next => placeParts colour rest next next b
      | none => unfit b
    else
      let t := placeChar part o colour b
      match t.fits, nextCell? o with
      | true, some next => placeParts colour rest next start t.buffer
      | _, _ => unfit t.buffer

def placeText (text o colour : Value) (b : Buffer) : Trial :=
  match text.isTrue, text.parts? with
  | false, _ => fit b
  | true, some parts => placeParts colour parts o o b
  | true, none => unfit b

/-- A buffer after a call, what was logged, and whether all values that the call came to need did fit. -/
structure Outcome where
  buffer : Buffer
  events : List Log.Event
  fits : Bool
  /-- Whether the call came to a number that is too long to be written out. -/
  longNumber : Bool

def Trial.logged (events : List Log.Event) (t : Trial) : Outcome := ⟨t.buffer, events, t.fits, false⟩

def diagnosticEvents (kind : String) (position text : Value) : List Log.Event :=
  match position.number?, text with
  | some n, .text s => [.diagnostic kind n.truncated s.toList]
  | some n, v => [.diagnosticOf kind n.truncated v.shown]
  | none, _ => []

def headline (kind position : Value) : String := kind.spoken ++ " AT POSITION " ++ position.spoken

/-- A diagnostic on anything about anywhere. Its first line is written even if the text does not fit, but not
if the position is too long to be written out. -/
def report (kind text position : Value) (b : Buffer) : Outcome :=
  if isLong position then ⟨b, [], false, true⟩
  else
    let head := (headline kind position).toList.map Charset.reverse
    let b := b.placeText head 0 Markup.diagnosticColour.toValue
    (placeText text (.int b.width) Markup.diagnosticColour.toValue b).logged
      (diagnosticEvents kind.spoken position text)

/-! Markup from a place that is not whole. -/

structure Drift where
  offset : Float
  lineStart : Float
  colour : Value
  reverse : Bool

/-- Runs items as long as nothing is to be written within the grid. A cursor that is sent home is in a whole
place from there on. -/
def runDrift (ending : Markup.Ending) :
    Buffer → Drift → (index : Nat) → List Markup.Item → Buffer × Option Markup.Halt
  | b, _, index, [] =>
    match ending with
    | .complete => (b, none)
    | .broken fault ahead => (b, some (.broken fault (index + ahead)))
    | .unclosed effect ahead =>
      (if effect = .clear then b.clear else b, some (.broken .parsing (index + ahead)))
  | b, d, index, i :: rest =>
    let atHome (b : Buffer) : Buffer × Option Markup.Halt :=
      let stop := Markup.runItems ending ⟨b, ⟨some .origin, d.colour, d.reverse⟩⟩ (index + i.width) rest
      (stop.state.buffer, stop.halt)
    match i.effect with
    | .write _ =>
      if Number.isBelow b.size (.real d.offset) then (b, some (.adrift index))
      else runDrift ending b { d with offset := d.offset + 1 } (index + i.width) rest
    | .lineFeed =>
      let next := d.lineStart + Float.ofNat b.width
      runDrift ending b { d with offset := next, lineStart := next } (index + i.width) rest
    | .clear => atHome b.clear
    | .home => atHome b
    | .move rows cells =>
      let offset := d.offset + Float.ofInt (rows * b.width + cells)
      runDrift ending b { d with offset } (index + i.width) rest
    | .ink code => runDrift ending b { d with colour := .int code } (index + i.width) rest
    | .reverse on => runDrift ending b { d with reverse := on } (index + i.width) rest

/-! Markup that is no text. -/

/-- The buffer after the parts, and the number of the part that could not be run. -/
def runParts (colour : Value) : List Value → (o start : Value) → (index : Nat) → Buffer → Buffer × Option Nat
  | [], _, _, _, b => (b, none)
  | part :: rest, o, start, index, b =>
    if part.isText brace then (b, some index)
    else if part.isText lineEnd then
      match nextLine? b start with
      | some next => runParts colour rest next next (index + 1) b
      | none => (b, some index)
    else
      let t := placeChar part o colour b
      match t.fits, nextCell? o with
      | true, some next => runParts colour rest next start (index + 1) t.buffer
      | _, _ => (t.buffer, some index)

/-- Only lists are run part by part. -/
def runValue (v o colour : Value) (b : Buffer) : Buffer × Option Nat :=
  match v with
  | .list items => runParts colour items o o 0 b
  | _ => (b, some 0)

def interpretText (text : List Char) (o colour : Value) (b : Buffer) : Buffer × List Log.Event :=
  match o.number? with
  | none => Markup.interpret b text none colour
  | some (.whole n) => Markup.interpret b text (some n) colour
  | some (.real x) =>
    let script := Markup.Script.ofText text
    let (b, halt) := runDrift script.ending b ⟨x, x, colour, false⟩ 0 script.items
    Markup.conclude text b halt

def interpret (text o colour : Value) (b : Buffer) : Outcome :=
  if !text.isTrue then (fit b).logged []
  else
    match text with
    | .text s =>
      let (b, events) := interpretText s.toList o colour b
      (fit b).logged events
    | v =>
      match runValue v o colour b with
      | (b, none) => (fit b).logged []
      | (b, some index) =>
        let r := report (.text Markup.Fault.parsing.kind) v (.int index) b
        { r with events := .unexpectedOf v.shown :: r.events }

end C64Screen.Unchecked
