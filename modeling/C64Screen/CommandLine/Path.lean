/-!
# Paths

A path without the parts that make no difference: empty parts and parts of a single point. Two slashes in
front are kept, any other number of them is one.
-/

namespace C64Screen.CommandLine

/-- The parts between slashes. -/
def pathParts (cs : List Char) : List (List Char) :=
  match cs with
  | [] => [[]]
  | c :: rest =>
    if c = '/' then [] :: pathParts rest
    else
      match pathParts rest with
      | part :: parts => (c :: part) :: parts
      | [] => [[c]]

def pathRoot (cs : List Char) : List Char :=
  match (cs.takeWhile (· = '/')).length with
  | 0 => []
  | 2 => ['/', '/']
  | _ => ['/']

def normalPath (path : String) : String :=
  let cs := path.toList
  let parts := (pathParts cs).filter (fun part => part ≠ [] && part ≠ ['.'])
  match pathRoot cs ++ ['/'].intercalate parts with
  | [] => "."
  | cs => String.ofList cs

end C64Screen.CommandLine
