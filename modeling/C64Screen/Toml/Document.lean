import C64Screen.Text.LineEnd
import C64Screen.Toml.Statement

/-!
# Documents

The statements of a document, each carried out before the next is read, so the first fault on the way
decides. A table is opened by a header at most once; tables that keys with points have opened belong to the
section in which that happened and cannot be opened or extended by another; arrays and tables written as
values are never extended. Only the latest table of an array of tables can be extended.
-/

namespace C64Screen.Toml

structure Document where
  entries : Entries
  /-- The path of the section. -/
  header : Path
  /-- Tables that have been opened for good. -/
  declared : List Path
  /-- Arrays and tables written as values. -/
  closed : List Path
  /-- Tables that keys with points have opened in the section. -/
  pending : List Path

namespace Document

def empty : Document := ⟨[], [], [], [], []⟩

/-- A header ends the section before it. -/
def endSection (d : Document) : Document :=
  { d with declared := d.pending ++ d.declared, pending := [] }

def openTable? (d : Document) (path : Path) : Option Document :=
  let d := d.endSection
  if d.declared.contains path || isWithin d.closed path then none
  else
    (open? path d.entries).map fun entries =>
      { d with entries, header := path, declared := path :: d.declared }

/-- What was said of an earlier table of the array does not hold of the new one. -/
def addItem? (d : Document) (path : Path) : Option Document :=
  let d := d.endSection
  if isWithin d.closed path then none
  else
    (append? path d.entries).map fun entries =>
      { d with
        entries
        header := path
        declared := path :: d.declared.filter (fun p => !path.isPrefixOf p)
        closed := d.closed.filter (fun p => !path.isPrefixOf p) }

/-- The tables that a path with points runs through, without the last key. -/
def between (header path : Path) : List Path :=
  (List.range (path.length - 1)).map (fun i => header ++ path.take (i + 1))

def assign? (d : Document) (path : Path) (v : Value) : Option Document :=
  let through := between d.header path
  let full := d.header ++ path
  if through.any d.declared.contains || isWithin d.closed full.dropLast then none
  else
    (insert? true full v d.entries).map fun entries =>
      { d with
        entries
        pending := through ++ d.pending
        closed := if closes v then full :: d.closed else d.closed }

def run? (d : Document) : Statement → Option Document
  | .assign path v => d.assign? path v
  | .table path => d.openTable? path
  | .arrayItem path => d.addItem? path

/-- Reads and carries out what is left of the statements, with fuel for a line each. -/
def readFrom : Nat → Document → List Char → Except Fault Document
  | 0, _, _ => .error .malformed
  | fuel + 1, d, cs =>
    match skipBlanks cs with
    | [] => .ok d
    | c :: rest =>
      if c = '\n' ∨ c = '#' then
        match endLine? (c :: rest) with
        | some rest => readFrom fuel d rest
        | none => .error .malformed
      else
        match statement (c :: rest) with
        | .error fault => .error fault
        | .ok (s, rest) =>
          match d.run? s, endLine? rest with
          | some d, some rest => readFrom fuel d rest
          | _, _ => .error .malformed

end Document

/-- The entries of the document that a text holds. -/
def read (cs : List Char) : Except Fault Entries :=
  let cs := Text.joinLineEnds cs
  (Document.readFrom (cs.length + 1) .empty cs).map Document.entries

end C64Screen.Toml
