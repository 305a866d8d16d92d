import PlainEnglish.Proofs.Token.Place

/-!
# Tokens further down

What is scanned from a text depends on the place of the text by the numbers of its lines only. So
two texts put together are scanned one after the other, and the tokens of the second one are
moved down by the lines of the first one.

Main statement: `Token.scan_append`.
-/

namespace PlainEnglish

/-- The token that stands the given number of lines further down. -/
def Token.moveDown (n : Int) (t : Token) : Token := { t with line := t.line + n }

section

variable (n line : Int)

@[simp] lemma Token.kind_moveDown (t : Token) : (t.moveDown n).kind = t.kind := rfl

@[simp] lemma Token.text_moveDown (t : Token) : (t.moveDown n).text = t.text := rfl

@[simp] lemma Token.line_moveDown (t : Token) : (t.moveDown n).line = t.line + n := rfl

/-- Lines are moved down, and columns stay. -/
def Placement.down : Placement := ⟨(· + n), id, Int.natCast_nonneg⟩

lemma Token.moveDown_eq_place : Token.moveDown n = Token.place (.down n) := rfl

lemma Word.place_down : Word.place (.down n) = id := rfl

lemma Token.map_moveDown_ofLine (words : List Word) :
    (Token.ofLine line words).map (Token.moveDown n) = Token.ofLine (line + n) words := by
  rw [Token.moveDown_eq_place, Token.map_place_ofLine, Word.place_down, List.map_id]
  rfl

lemma Token.map_moveDown_ofPhysicalLine (text : Text) :
    (Token.ofPhysicalLine text line).map (Token.moveDown n) =
      Token.ofPhysicalLine text (line + n) := by
  by_cases hwords : text.words = []
  · simp [Token.ofPhysicalLine, hwords]
  · rw [Token.ofPhysicalLine_of_words hwords, Token.ofPhysicalLine_of_words hwords,
      List.map_append, Token.map_moveDown_ofLine]
    rfl

end

/-! ### Texts put together -/

section

variable {s : Text} (hs : s.EndsLine) (t : Text)
  (h : ¬(s.getLast? = some '\r' ∧ t.head? = some '\n'))

include hs h

lemma Token.ofLines_append : Token.ofLines (s ++ t) =
    Token.ofLines s ++ (Token.ofLines t).map (Token.moveDown s.lines.length) := by
  rw [Token.ofLines, Text.lines_append hs t h, List.zipIdx_append, List.flatMap_append]
  apply congrArg (Token.ofLines s ++ ·)
  -- the lines of the second text are numbered from the last line of the first one
  rw [Nat.add_comm, ← List.map_snd_add_zipIdx_eq_zipIdx, List.flatMap_map, Token.ofLines,
    List.map_flatMap]
  simp [Token.map_moveDown_ofPhysicalLine]

/-- The tokens of two texts put together, which are ended once. -/
theorem Token.scan_append : Token.scan (s ++ t) =
    (Token.scan s).dropLast ++ (Token.scan t).map (Token.moveDown s.lines.length) := by
  have hfinish : ((s ++ t : Text).lines.length : Int) + 1 =
      t.lines.length + 1 + s.lines.length := by
    rw [Text.lines_append hs t h, List.length_append, Nat.cast_add]
    omega
  rw [Token.scan_eq, Token.scan_eq, Token.scan_eq, List.dropLast_concat, List.map_append,
    Token.ofLines_append hs t h, List.append_assoc, hfinish]
  rfl

end

end PlainEnglish
