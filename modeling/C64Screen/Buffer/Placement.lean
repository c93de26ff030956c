import C64Screen.Buffer

/-!
# Placing text

Characters are placed one after another. A line feed moves to the start of the next line, which lies one
row below the start of the present one, wherever the characters have run to in between.
-/

namespace C64Screen

def lineFeed : Char := '\n'

namespace Buffer

def place (b : Buffer) (c : Char) (o : Int) (colour : Value) : Buffer :=
  (b.setChar c o).putColour colour o

def placeChar (b : Buffer) (char : String) (o : Int) (colour : Value) : Buffer :=
  (b.putChar char o).putColour colour o

@[simp] theorem width_place (b : Buffer) (c : Char) (o : Int) (colour : Value) :
    (b.place c o colour).width = b.width := by simp [place]

@[simp] theorem height_place (b : Buffer) (c : Char) (o : Int) (colour : Value) :
    (b.place c o colour).height = b.height := by simp [place]

/-- The rest of a text whose present line began at `start`. -/
def placeFrom (colour : Value) : List Char → (o start : Int) → Buffer → Buffer
  | [], _, _, b => b
  | c :: rest, o, start, b =>
    if c = lineFeed then placeFrom colour rest (start + b.width) (start + b.width) b
    else placeFrom colour rest (o + 1) start (b.place c o colour)

def placeText (b : Buffer) (text : List Char) (o : Int) (colour : Value) : Buffer :=
  placeFrom colour text o o b

@[simp] theorem placeFrom_nil (colour : Value) (o start : Int) (b : Buffer) :
    placeFrom colour [] o start b = b := rfl

theorem placeFrom_lineFeed (colour : Value) (rest : List Char) (o start : Int) (b : Buffer) :
    placeFrom colour (lineFeed :: rest) o start b =
      placeFrom colour rest (start + b.width) (start + b.width) b := by simp [placeFrom]

theorem placeFrom_cons {c : Char} (h : c ≠ lineFeed) (colour : Value) (rest : List Char)
    (o start : Int) (b : Buffer) :
    placeFrom colour (c :: rest) o start b =
      placeFrom colour rest (o + 1) start (b.place c o colour) := by simp [placeFrom, h]

@[simp] theorem width_placeText (b : Buffer) (text : List Char) (o : Int) (colour : Value) :
    (b.placeText text o colour).width = b.width := by
  have from_any : ∀ (text : List Char) (o start : Int) (b : Buffer),
      (placeFrom colour text o start b).width = b.width := by
    intro text
    induction text with
    | nil => intros; rfl
    | cons c rest ih =>
      intro o start b
      rw [placeFrom]
      split <;> simp [ih]
  exact from_any text o o b

@[simp] theorem height_placeText (b : Buffer) (text : List Char) (o : Int) (colour : Value) :
    (b.placeText text o colour).height = b.height := by
  have from_any : ∀ (text : List Char) (o start : Int) (b : Buffer),
      (placeFrom colour text o start b).height = b.height := by
    intro text
    induction text with
    | nil => intros; rfl
    | cons c rest ih =>
      intro o start b
      rw [placeFrom]
      split <;> simp [ih]
  exact from_any text o o b

end Buffer

end C64Screen
