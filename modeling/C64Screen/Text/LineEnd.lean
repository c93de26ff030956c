/-!
# Line ends

Texts from files end their lines in different ways. A settings file may use a carriage return and a line
feed together; a text to be drawn may also use a carriage return alone.
-/

namespace C64Screen.Text

/-- Makes a line feed of every carriage return that a line feed follows. -/
def joinLineEnds : List Char → List Char
  | [] => []
  | '\r' :: '\n' :: rest => '\n' :: joinLineEnds rest
  | c :: rest => c :: joinLineEnds rest

/-- Makes a line feed of every line end. -/
def unifyLineEnds : List Char → List Char
  | [] => []
  | '\r' :: '\n' :: rest => '\n' :: unifyLineEnds rest
  | '\r' :: rest => '\n' :: unifyLineEnds rest
  | c :: rest => c :: unifyLineEnds rest

theorem joinLineEnds_of_not_mem {cs : List Char} (h : '\r' ∉ cs) : joinLineEnds cs = cs := by
  fun_induction joinLineEnds cs <;> simp_all

end C64Screen.Text
