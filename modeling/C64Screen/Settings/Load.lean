import C64Screen.Settings
import C64Screen.Toml.Document

/-!
# Settings files

Settings are kept in a file that holds a document in UTF-8. The path of the file only serves to name it.
-/

namespace C64Screen.Settings

inductive LoadError where
  | undecodable
  | invalidDocument (path : String)
  | tooManyDigits (count : Nat)
  | settings (e : Error)
  deriving DecidableEq, Repr

/-- Whether an error quotes a number that is too long to be written out. -/
def Error.quotesLongNumber : Error → Bool
  | .notPositive _ received => !Numeral.isShort received
  | .outOfRange _ received => !Numeral.isShort received
  | _ => false

/-- Bytes that are no text have no message of their own. -/
def LoadError.message? : LoadError → Option String
  | .undecodable => none
  | .invalidDocument path => some ("invalid TOML in " ++ path)
  | .tooManyDigits count => some (Numeral.tooManyDigits count)
  | .settings e => some (if e.quotesLongNumber then Numeral.tooLong else e.message)

/-- An error of the settings themselves, and not of their numerals. -/
def LoadError.isOfSettings : LoadError → Bool
  | .undecodable | .tooManyDigits _ => false
  | .invalidDocument _ => true
  | .settings e => !e.quotesLongNumber

def load (path : String) (bytes : ByteArray) : Except LoadError Settings :=
  match String.fromUTF8? bytes with
  | none => .error .undecodable
  | some text =>
    match Toml.read text.toList with
    | .error .malformed => .error (.invalidDocument path)
    | .error (.tooManyDigits count) => .error (.tooManyDigits count)
    | .ok entries => (ofDocument entries).mapError .settings

end C64Screen.Settings
