import C64Screen.Text.LineEnd

/-!
# Lines

A text consists of lines if each of them ends in one of the ways that are allowed. The last line may also end
with the text. Where line feeds with and without a carriage return in front are allowed, joining the two leaves
the same lines with line feeds alone.
-/

namespace C64Screen.Text

inductive Lined (ends : List (List Char)) : List (List Char) → List Char → Prop where
  | nil : Lined ends [] []
  | last (line : List Char) : Lined ends [line] line
  | cons (line : List Char) {last cs : List Char} {later : List (List Char)} (ended : last ∈ ends)
      (tail : Lined ends later cs) : Lined ends (line :: later) (line ++ (last ++ cs))

theorem lined_nil_iff {ends : List (List Char)} {cs : List Char} : Lined ends [] cs ↔ cs = [] := by
  constructor
  · rintro ⟨⟩
    rfl
  · rintro rfl
    exact .nil

/-- A line is the last, or others begin behind its end. -/
theorem lined_cons_iff {ends later : List (List Char)} {line cs : List Char} :
    Lined ends (line :: later) cs ↔
      (later = [] ∧ cs = line) ∨
        ∃ last ∈ ends, ∃ behind, cs = line ++ (last ++ behind) ∧ Lined ends later behind := by
  constructor
  · rintro (_ | _ | ⟨_, ended, tail⟩)
    · exact .inl ⟨rfl, rfl⟩
    · exact .inr ⟨_, ended, _, rfl, tail⟩
  · rintro (⟨rfl, rfl⟩ | ⟨last, ended, behind, rfl, tail⟩)
    · exact .last _
    · exact .cons line ended tail

def lineFeedAlone : List (List Char) := [['\n']]

def lineFeeds : List (List Char) := [['\n'], ['\r', '\n']]

theorem joinLineEnds_append {line : List Char} (bare : '\r' ∉ line) (rest : List Char) :
    joinLineEnds (line ++ rest) = line ++ joinLineEnds rest := by
  induction line with
  | nil => rfl
  | cons c line ih =>
    obtain ⟨other, bare⟩ := not_or.mp (mt List.mem_cons.mpr bare)
    have passed : joinLineEnds (c :: (line ++ rest)) = c :: joinLineEnds (line ++ rest) := by
      rw [joinLineEnds]
      rintro more rfl
      exact absurd rfl other
    rw [List.cons_append, passed, ih bare]
    rfl

theorem joinLineEnds_lineFeed {last : List Char} (ended : last ∈ lineFeeds) (rest : List Char) :
    joinLineEnds (last ++ rest) = ['\n'] ++ joinLineEnds rest := by
  rcases List.mem_cons.mp ended with rfl | other
  · exact joinLineEnds_append (by decide) rest
  · obtain rfl := List.mem_singleton.mp other
    rfl

theorem Lined.joinLineEnds {lines : List (List Char)} {cs : List Char} (lined : Lined lineFeeds lines cs)
    (bare : ∀ line ∈ lines, '\r' ∉ line) : Lined lineFeedAlone lines (Text.joinLineEnds cs) := by
  induction lined with
  | nil => exact .nil
  | last line =>
    rw [joinLineEnds_of_not_mem (bare line List.mem_cons_self)]
    exact .last line
  | cons line ended _ ih =>
    rw [List.forall_mem_cons] at bare
    rw [joinLineEnds_append bare.1, joinLineEnds_lineFeed ended]
    exact .cons line (List.mem_singleton_self _) (ih bare.2)

end C64Screen.Text
