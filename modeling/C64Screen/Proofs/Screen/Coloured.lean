import C64Screen.Proofs.Buffer.Rows
import C64Screen.Proofs.Screen.Plain

/-!
# No cell without a colour

A buffer that a screen allocates is filled with the cursor colour, and no write takes a colour away. So as
long as the cursor colour is a colour, which is what every assignment to it is tested for, each cell of each
buffer that the screen ever has is coloured. That is an invariant of single steps, whether they succeed or
not, and so of all runs; what is handed out to be drawn is complete because of it.
-/

namespace C64Screen

namespace Buffer

def Coloured (b : Buffer) : Prop := ∀ o cell, b.cell? o = some cell → cell.colour ≠ none

theorem Coloured.lay {b : Buffer} (coloured : b.Coloured) (p : Overlay) : (b.lay p).Coloured := by
  intro o cell found
  rw [cell?_lay] at found
  obtain ⟨under, there, rfl⟩ := Option.map_eq_some_iff.mp found
  exact (p o).colour_press_ne_none (coloured o under there)

theorem coloured_blankBuffer (cursor : Colour) (width height : Size) :
    (Screen.blankBuffer cursor width height).Coloured := by
  intro o cell found
  rw [Screen.blankBuffer, cell?_filled] at found
  split at found
  · cases found
    nofun
  · cases found

end Buffer

namespace Screen

open Buffer

/-! What a step can do to the buffer. -/

/-- A step draws on the buffer or replaces it with a new one in the cursor colour. -/
def Redraws (s t : Screen) : Prop :=
  (∃ p, t.buffer = s.buffer.lay p) ∨ ∃ width height : Size, t.buffer = blankBuffer s.cursor width height

theorem redraws_of_same {s t : Screen} (same : t.buffer = s.buffer) : s.Redraws t :=
  .inl ⟨.blank, same.trans s.buffer.lay_blank.symm⟩

theorem redraws_of_resize {s t : Screen} {width height : Value} {events : List Log.Event}
    (done : s.resize width height = .ok (t, events)) : s.Redraws t := by
  cases found : Quantity.firstRefused? [(.width, width), (.height, height)] with
  | none =>
    obtain ⟨w, h, rfl, rfl⟩ := Quantity.sizes_of_not_refused found
    rw [resize_toValue] at done
    cases done
    exact .inr ⟨w, h, rfl⟩
  | some e =>
    rw [resize_refused found] at done
    cases done

theorem redraws_of_setFontSize {s t : Screen} {size : Value} {events : List Log.Event}
    (done : s.setFontSize size = .ok (t, events)) : s.Redraws t := by
  by_cases accepted : size.IsSize
  · obtain ⟨n, rfl⟩ := Size.isSize_iff.mp accepted
    rw [setFontSize, Quantity.require_toValue] at done
    cases done
    exact .inr ⟨s.buffer.columns, s.buffer.lines, rfl⟩
  · rw [setFontSize, Quantity.require_of_not_isSize accepted] at done
    cases done

theorem redraws_write (s : Screen) (w : Write) : s.Redraws (s.write w).1 := by
  obtain ⟨p, events, laid⟩ := Write.run_settled s.buffer.width w
  exact .inl ⟨p, congrArg Prod.fst (laid s.buffer rfl)⟩

theorem redraws_printTestPicture (s : Screen) : s.Redraws s.printTestPicture := by
  obtain ⟨p, laid⟩ := Write.exists_lay s.buffer (PlainScreen.picture s.buffer.width s.cursor.toValue)
  rw [PlainScreen.runAll_picture] at laid
  exact .inl ⟨p, laid⟩

theorem Redraws.of_ok {s t : Screen} {events : List Log.Event} {result : Screen × List Log.Event}
    (h : s.Redraws result.1)
    (done : (.ok result : Except ScreenError (Screen × List Log.Event)) = .ok (t, events)) :
    s.Redraws t := by
  obtain rfl : result = (t, events) := Except.ok.inj done
  exact h

theorem redraws_of_run {s t : Screen} {step : Step} {events : List Log.Event}
    (done : step.run s = .ok (t, events)) : s.Redraws t := by
  cases step with
  | setWidth width => exact redraws_of_resize done
  | setHeight height => exact redraws_of_resize done
  | resize width height => exact redraws_of_resize done
  | setFontSize size => exact redraws_of_setFontSize done
  | write w => exact (redraws_write s w).of_ok done
  | print text x y colour =>
    exact (redraws_write s (.placeText text (s.buffer.offset x y) colour)).of_ok done
  | printMarkup text x y colour =>
    exact (redraws_write s (.interpret text (s.buffer.offset x y) colour)).of_ok done
  | testPicture =>
    have drawn : s.Redraws (s.printTestPicture, ([] : List Log.Event)).1 := redraws_printTestPicture s
    exact drawn.of_ok done
  | setBorder colour | setBackground colour | setCursor colour | enableChars on | enableColours on =>
    cases done
    exact redraws_of_same rfl

theorem Redraws.coloured {s t : Screen} (h : s.Redraws t) (coloured : s.buffer.Coloured) :
    t.buffer.Coloured := by
  obtain ⟨p, laid⟩ | ⟨width, height, replaced⟩ := h
  · rw [laid]
    exact coloured.lay p
  · rw [replaced]
    exact coloured_blankBuffer s.cursor width height

theorem Step.coloured_after {s : Screen} (coloured : s.buffer.Coloured) (step : Step) :
    (step.after s).buffer.Coloured := by
  rw [after]
  cases done : step.run s with
  | ok result => exact (redraws_of_run done).coloured coloured
  | error e => exact coloured

/-- The screen after one step after another, succeed or not. -/
def Step.afterAll (s : Screen) (steps : List Step) : Screen := steps.foldl after s

theorem Step.coloured_afterAll {s : Screen} (coloured : s.buffer.Coloured) (steps : List Step) :
    (afterAll s steps).buffer.Coloured := by
  induction steps generalizing s with
  | nil => exact coloured
  | cons step rest ih => exact ih (step.coloured_after coloured)

theorem coloured_of_ofOptions {o : Options} {s : Screen} {events : List Log.Event}
    (made : ofOptions o = .ok (s, events)) : s.buffer.Coloured := by
  rcases sizes_cases o with ⟨n, w, h, size, columns, lines⟩ | refused | ⟨n, e, size, found⟩
  · have blank : (bare o n w h).buffer.Coloured := coloured_blankBuffer _ w h
    rw [ofOptions_of_sizes size columns lines] at made
    obtain rfl : _ = s := congrArg Prod.fst (Except.ok.inj made)
    split
    · exact (redraws_printTestPicture _).coloured blank
    · exact blank
  · rw [ofOptions_of_fontSize_refused refused] at made
    cases made
  · rw [ofOptions_refused size found] at made
    cases made

end Screen

/-- What is to hold of a screen, whatever was done to it. -/
structure PlainScreen.Sound (p : PlainScreen) : Prop where
  colour : ∀ part, (p.colour part).IsColour
  fontSize : p.fontSize.IsSize
  width : 0 < p.grids.width
  height : 0 < p.grids.height
  length_chars : p.grids.chars.length = p.grids.width * p.grids.height
  length_colours : p.grids.colours.length = p.grids.width * p.grids.height
  single : ∀ s ∈ p.grids.chars, s.length = 1
  coloured : ∀ v ∈ p.grids.colours, v.IsColour

/-- What is to hold of a payload for a screen of given dimensions. -/
structure Payload.Sound (p : Payload) (columns lines : Nat) : Prop where
  width : p.width = columns
  height : p.height = lines
  length_rows : p.rows.length = lines
  row : ∀ r ∈ p.rows, r.length = columns
  length_colours : p.colours.length = lines
  colourRow : ∀ r ∈ p.colours, r.length = columns
  coloured : ∀ r ∈ p.colours, ∀ c ∈ r, (colourValue c).IsColour

namespace Screen

open Buffer

theorem plain_sound {s : Screen} (coloured : s.buffer.Coloured) (replaced : Nat)
    (log : List Log.Event) : (s.plain replaced log).Sound where
  colour := by
    intro part
    cases part with
    | border => exact s.border.isColour_toValue
    | background => exact s.background.isColour_toValue
    | cursor => exact s.cursor.isColour_toValue
  fontSize := s.fontSize.isSize_toValue
  width := s.buffer.width_pos
  height := s.buffer.height_pos
  length_chars := s.buffer.grids_sound.length_chars
  length_colours := s.buffer.grids_sound.length_colours
  single := s.buffer.grids_sound.single
  coloured := by
    intro v listed
    obtain ⟨i, at_i⟩ := List.mem_iff_getElem?.mp listed
    change s.buffer.grids.colours[i]? = some v at at_i
    rw [getElem?_colours] at at_i
    obtain ⟨cell, found, rfl⟩ := Option.map_eq_some_iff.mp at_i
    exact Payload.isColour_colourValue (coloured i cell found)

theorem length_visibleRows (s : Screen) : s.visibleRows.length = s.height := by
  rw [visibleRows]
  split
  · exact s.buffer.length_charRows
  · exact List.length_replicate

theorem length_of_mem_visibleRows {s : Screen} {r : String} (listed : r ∈ s.visibleRows) :
    r.length = s.width := by
  rw [visibleRows] at listed
  split at listed
  · exact length_of_mem_charRows listed
  · rw [List.eq_of_mem_replicate listed, String.length_ofList, List.length_replicate]

theorem length_effectiveColourRows (s : Screen) : s.effectiveColourRows.length = s.height := by
  rw [effectiveColourRows]
  split
  · exact s.buffer.length_colourRows
  · exact List.length_replicate

/-- With colours enabled the entries of a row are those of the cells, otherwise they are the cursor colour. -/
theorem mem_effectiveColourRows {s : Screen} {r : List (Option Colour)}
    (listed : r ∈ s.effectiveColourRows) :
    r.length = s.width ∧
      ∀ c ∈ r, c = some s.cursor ∨ ∃ o cell, s.buffer.cell? o = some cell ∧ c = cell.colour := by
  rw [effectiveColourRows] at listed
  split at listed
  · obtain ⟨y, below, rfl⟩ := mem_colourRows.mp listed
    refine ⟨by rw [List.length_map, length_row below]; rfl, ?_⟩
    intro c among
    obtain ⟨cell, there, rfl⟩ := List.mem_map.mp among
    obtain ⟨o, found⟩ := exists_cell?_of_mem_row below there
    exact .inr ⟨o, cell, found, rfl⟩
  · obtain rfl := List.eq_of_mem_replicate listed
    exact ⟨List.length_replicate, fun c among => .inl (List.eq_of_mem_replicate among)⟩

theorem payload_sound {s : Screen} (coloured : s.buffer.Coloured) :
    (Payload.ofScreen s).Sound s.width s.height where
  width := rfl
  height := rfl
  length_rows := s.length_visibleRows
  row _ listed := length_of_mem_visibleRows listed
  length_colours := s.length_effectiveColourRows
  colourRow _ listed := (mem_effectiveColourRows listed).1
  coloured := by
    intro r listed c among
    obtain rfl | ⟨o, cell, found, rfl⟩ := (mem_effectiveColourRows listed).2 c among
    · exact s.cursor.isColour_toValue
    · exact Payload.isColour_colourValue (coloured o cell found)

end Screen

/-- The plain screen after one step after another. -/
def PlainScreen.afterAll (p : PlainScreen) (steps : List Screen.Step) : PlainScreen :=
  steps.foldl after p

theorem PlainScreen.afterAll_plain (s : Screen) (replaced : Nat) (log : List Log.Event)
    (steps : List Screen.Step) :
    ∃ count later, (s.plain replaced log).afterAll steps =
      (Screen.Step.afterAll s steps).plain count later := by
  induction steps generalizing s replaced log with
  | nil => exact ⟨replaced, log, rfl⟩
  | cons step rest ih =>
    obtain ⟨count, later, first⟩ := after_plain s replaced log step
    rw [afterAll, List.foldl_cons, first]
    exact ih (step.after s) count later

/-- However a screen was made and whatever steps came after, refused ones among them: its attributes are
colours and sizes, both grids are full, no entry of the colours is missing, and the payload has a row of the
right length for every line, with a colour for every cell, whether or not the grids are looked at. -/
theorem Screen.afterAll_sound {o : Options} {s : Screen} {events : List Log.Event}
    (made : ofOptions o = .ok (s, events)) (steps : List Step) :
    ∃ p : PlainScreen, (PlainScreen.construct o).runFrom .unmade = (.ok (), p) ∧
      let q := p.afterAll steps
      let t := Step.afterAll s steps
      (∃ count later, q = t.plain count later) ∧ q.Sound ∧
        ∀ chars colours : Bool,
          (Payload.ofScreen ((t.enableChars chars).enableColours colours)).Sound
            q.grids.width q.grids.height := by
  have constructed := PlainScreen.runFrom_construct o
  rw [made] at constructed
  obtain ⟨count, later, followed⟩ := PlainScreen.afterAll_plain s 0 events steps
  have coloured := Step.coloured_afterAll (coloured_of_ofOptions made) steps
  refine ⟨s.plain 0 events, constructed, ⟨count, later, followed⟩, ?_, ?_⟩
  · rw [followed]
    exact plain_sound coloured count later
  · intro chars colours
    rw [followed]
    exact payload_sound coloured

/-- A cursor colour that is none, then steps of which two are refused. -/
theorem Screen.afterAll_sound_refused :
    let o : Screen.Options := { width := .int 3, height := .int 2, cursor := .int 99 }
    let s := Screen.bare o ⟨16, by decide⟩ ⟨3, by decide⟩ ⟨2, by decide⟩
    let steps : List Screen.Step :=
      [.setCursor (.bool true), .setWidth (.int 0), .write (.putColour .null 1), .setFontSize (.bool true),
       .enableColours false]
    Screen.ofOptions o = .ok (s, [.allocated 3 2]) ∧
      (Payload.ofScreen (Screen.Step.afterAll s steps)).Sound 3 2 := by
  intro o s steps
  have made : Screen.ofOptions o = .ok (s, [.allocated 3 2]) := rfl
  obtain ⟨p, -, ⟨count, later, followed⟩, -, payload⟩ := Screen.afterAll_sound made steps
  have shown := payload true false
  rw [followed] at shown
  exact ⟨made, shown⟩

end C64Screen
