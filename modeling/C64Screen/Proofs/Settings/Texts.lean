import C64Screen.Proofs.Settings.Precedence
import C64Screen.Proofs.Text.Digits

/-!
# Numbers given as texts

A text stands for an integer if it is a numeral with nothing but white space around it, and then it is read as what
the numeral denotes. The text of an integer, with white space around it or without, can therefore take the place of
the integer in any section, and what comes of the section is the same.
-/

namespace C64Screen.Settings

open Unicode

variable {s : String} {n : Int}

theorem gives_text_iff :
    Gives (.text s) n ↔ ∃ core, Padded isBlank core s.toList ∧ Numeral.Denotes core n := by
  rw [← Numeral.integer?_trim_eq_some_iff]
  constructor
  · intro gives
    cases gives with
    | text reads => exact reads
  · exact .text

theorem gives_of_written (short : Numeral.isShort n = true) (padded : Padded isBlank (Numeral.written n) s.toList) :
    Gives (.text s) n :=
  gives_text_iff.mpr ⟨_, padded, Numeral.integer?_eq_some_iff.mp (Numeral.integer?_written short)⟩

/-- A value in an entry may be put in the place of one like it. -/
theorem rel_lookup {v w : Value} (alike : Alike v w) (name key : String) (before after : List (String × Value)) :
    Option.Rel Alike (Value.lookup key (before ++ (name, v) :: after))
      (Value.lookup key (before ++ (name, w) :: after)) := by
  induction before with
  | nil =>
    rw [List.nil_append, List.nil_append, Value.lookup, Value.lookup]
    split
    · exact .some alike
    · exact Alike.rel_refl _
  | cons e before ih =>
    rw [List.cons_append, List.cons_append, Value.lookup, Value.lookup]
    split
    · exact Alike.rel_refl _
    · exact ih

theorem ofSection_alike {v w : Value} (alike : Alike v w) (name : String) (before after : List (String × Value)) :
    ofSection (before ++ (name, v) :: after) = ofSection (before ++ (name, w) :: after) :=
  ofSection_congr (fun _ => by simp) fun key => rel_lookup alike name key.text before after

/-- Which texts are read for an integer, and as which. Whatever the key, a section that has the text of an integer,
with blanks around it, comes to the same as the section that has the integer. -/
theorem integer_text_exact (key : Key) (s : String) :
    (∀ n, integer key (.text s) = .ok n ↔
      ∃ core, Padded isBlank core s.toList ∧ Numeral.Denotes core n) ∧
    ((∀ n core, Padded isBlank core s.toList → ¬ Numeral.Denotes core n) →
      integer key (.text s) = .error (.unreadable key s)) ∧
    ∀ n, Numeral.isShort n = true → Padded isBlank (Numeral.written n) s.toList →
      ∀ document other before after,
        Value.lookup "screen" document = some (.table (before ++ (key.text, .text s) :: after)) →
          Value.lookup "screen" other = some (.table (before ++ (key.text, .int n) :: after)) →
            ofDocument document = ofDocument other := by
  refine ⟨?_, ?_, ?_⟩
  · intro n
    rw [integer_eq_ok_iff, gives_text_iff]
  · intro none
    refine integer_eq_error_iff.mpr (.inr ⟨s, rfl, fun n gives => ?_, rfl⟩)
    obtain ⟨core, padded, denotes⟩ := gives_text_iff.mp gives
    exact none n core padded denotes
  · intro n short padded document other before after found foundOther
    have alike : Alike (.text s) (.int n) := .number (gives_of_written short padded) (.int n)
    rw [ofDocument_of_section found, ofDocument_of_section foundOther, ofSection_alike alike]

theorem integer_text_exact_padded :
    Numeral.isShort 40 = true ∧ Padded isBlank (Numeral.written 40) " 40\n".toList ∧
      ofDocument [("screen", .table [("width", .text " 40\n")])] =
        ofDocument [("screen", .table [("width", .int 40)])] := by
  have short : Numeral.isShort 40 = true := by decide
  have padded : Padded isBlank (Numeral.written 40) " 40\n".toList :=
    ⟨[' '], ['\n'], by decide, List.forall_mem_singleton.mpr rfl, List.forall_mem_singleton.mpr rfl⟩
  have same := (integer_text_exact .width " 40\n").2.2 40 short padded
  exact ⟨short, padded, same _ _ [] [] rfl rfl⟩

example : integer .width (.text " +٣_0 ") = .ok 30 := by rfl

end C64Screen.Settings
