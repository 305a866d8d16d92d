import PlainEnglish.Proofs.Token.Place

/-!
# Tokens without their columns

A line is scanned by the texts of its words. Where the words stand, and what blanks there are
between them, is told by nothing but the columns of the tokens.

Main statement: `Token.map_atMargin_scan_congr`.
-/

namespace PlainEnglish

/-- The token as if it stood at the margin. -/
def Token.atMargin (t : Token) : Token := { t with column := 0 }

/-- Everything is put to the margin, and lines stay. -/
def Placement.margin : Placement := ⟨id, fun _ => 0, fun _ => le_rfl⟩

@[simp] lemma Token.kind_atMargin (t : Token) : t.atMargin.kind = t.kind := rfl

@[simp] lemma Token.text_atMargin (t : Token) : t.atMargin.text = t.text := rfl

lemma Token.atMargin_eq_place : Token.atMargin = Token.place .margin := rfl

/-- Words at the margin are told by their texts. -/
lemma Word.map_place_margin (words : List Word) :
    words.map (Word.place .margin) = (words.map Word.text).map fun text => ⟨text, 0⟩ := by
  rw [List.map_map]
  rfl

/-! ### Lines -/

/-- The texts of the words of a line, from left to right. -/
def Text.wordTexts (t : Text) : List Text := t.words.map Word.text

/-- The tokens of a line with words of the given texts, all of them at the margin. -/
def Token.ofTexts (line : Int) (texts : List Text) : List Token :=
  if texts = [] then []
  else Token.ofLine line (texts.map fun text => ⟨text, 0⟩) ++ [⟨.newline, ['\n'], line, 0⟩]

lemma Token.map_atMargin_ofPhysicalLine (t : Text) (line : Int) :
    (Token.ofPhysicalLine t line).map Token.atMargin = Token.ofTexts line t.wordTexts := by
  by_cases hwords : t.words = []
  · simp [Token.ofPhysicalLine, Token.ofTexts, Text.wordTexts, hwords]
  · have htexts : t.wordTexts ≠ [] := by simpa [Text.wordTexts] using hwords
    rw [Token.ofPhysicalLine_of_words hwords, List.map_append, Token.atMargin_eq_place,
      Token.map_place_ofLine, Word.map_place_margin, Token.ofTexts, if_neg htexts]
    rfl

/-! ### Source texts -/

lemma Token.map_atMargin_ofLines (source : Text) :
    (Token.ofLines source).map Token.atMargin =
      ((source.lines.map Text.wordTexts).zipIdx 1).flatMap fun (texts, line) =>
        Token.ofTexts line texts := by
  rw [Token.ofLines, List.map_flatMap, List.zipIdx_map, List.flatMap_map]
  simp [Token.map_atMargin_ofPhysicalLine]

/-- Source texts with the same words on every line have the same tokens but for the columns. -/
theorem Token.map_atMargin_scan_congr {s t : Text}
    (h : s.lines.map Text.wordTexts = t.lines.map Text.wordTexts) :
    (Token.scan s).map Token.atMargin = (Token.scan t).map Token.atMargin := by
  have hlength : s.lines.length = t.lines.length := by
    simpa using congrArg List.length h
  rw [Token.scan_eq, Token.scan_eq, List.map_append, List.map_append, Token.map_atMargin_ofLines,
    Token.map_atMargin_ofLines, h, hlength]

end PlainEnglish
