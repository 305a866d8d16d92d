import PlainEnglish.Proofs.Token.Scan

/-!
# Tokens in other places

Scanning looks at the texts of words only. So if the words of a line are put in other columns,
and the line itself is put elsewhere, the same tokens are found there.

Main statement: `Token.map_place_ofLine`.
-/

namespace PlainEnglish

/-- Where lines and columns are put. Columns of words stay columns of words. -/
structure Placement where
  row : Int → Int
  column : Int → Int
  column_nonneg : ∀ k : Nat, 0 ≤ column k

/-- The word in another column. -/
def Word.place (p : Placement) (word : Word) : Word :=
  { word with column := (p.column word.column).toNat }

/-- The token in another line and column. -/
def Token.place (p : Placement) (t : Token) : Token :=
  { t with line := p.row t.line, column := p.column t.column }

section

variable (p : Placement) (line : Int)

@[simp] lemma Word.text_place (word : Word) : (word.place p).text = word.text := rfl

@[simp] lemma Word.column_place (word : Word) :
    ((word.place p).column : Int) = p.column word.column :=
  Int.toNat_of_nonneg (p.column_nonneg _)

@[simp] lemma Word.spells_place (word : Word) (keyword : Keyword) :
    (word.place p).spells keyword = word.spells keyword := rfl

@[simp] lemma Word.isValuePart_comp_place : Word.isValuePart ∘ Word.place p = Word.isValuePart :=
  rfl

@[simp] lemma Word.place_token (kind : Kind) (word : Word) :
    (word.token line kind).place p = (word.place p).token (p.row line) kind := by
  simp [Word.token, Token.place]

/-! ### Values -/

lemma Token.map_place_ofExpression (column : Int) (t : Text) :
    (Token.ofExpression line column t).map (Token.place p) =
      Token.ofExpression (p.row line) (p.column column) t := by
  rw [Token.ofExpression, List.map_map]
  rfl

lemma Token.map_place_ofContent (column : Int) (t : Text) :
    (Token.ofContent line column t).map (Token.place p) =
      Token.ofContent (p.row line) (p.column column) t := by
  unfold Token.ofContent
  split
  · rfl
  · exact Token.map_place_ofExpression p line column t

lemma Token.map_place_ofValue (column : Int) (t : Text) :
    (Token.ofValue line column t).map (Token.place p) =
      Token.ofValue (p.row line) (p.column column) t := by
  unfold Token.ofValue
  split
  · rfl
  · split
    · rfl
    · exact Token.map_place_ofExpression p line column t

lemma Token.map_place_ofWords {scan scan' : Int → Text → List Token}
    (h : ∀ column t, (scan column t).map (Token.place p) = scan' (p.column column) t)
    (words : List Word) : (Token.ofWords scan words).map (Token.place p) =
      Token.ofWords scan' (words.map (Word.place p)) := by
  cases words with
  | nil => rfl
  | cons word words =>
    rw [List.map_cons, Token.ofWords_cons, Token.ofWords_cons, h, Word.column_place, Word.joined,
      Word.joined, ← List.map_cons (f := Word.place p), List.map_map]
    rfl

/-! ### Lines -/

lemma Token.takeName_place (words : List Word) :
    Token.takeName (p.row line) (words.map (Word.place p)) =
      ((Token.takeName line words).1.map (Token.place p),
        (Token.takeName line words).2.map (Word.place p)) := by
  cases words <;> simp [Token.takeName]

lemma Token.takeValue_place (words : List Word) :
    Token.takeValue (p.row line) (words.map (Word.place p)) =
      ((Token.takeValue line words).1.map (Token.place p),
        (Token.takeValue line words).2.map (Word.place p)) := by
  have hvalue := Token.map_place_ofWords p (Token.map_place_ofValue p line)
  rcases words with _ | ⟨first, _ | ⟨second, rest⟩⟩
  · rfl
  · rfl
  · by_cases hwith : first.spells .withWord = true ∧ second.spells .valueWord = true
    · simp [Token.takeValue, hwith, hvalue, List.takeWhile_map, List.dropWhile_map]
    · simp [Token.takeValue, hwith]

/-- What is found in a line is found there wherever its words stand. -/
lemma Token.map_place_ofLine (words : List Word) :
    (Token.ofLine line words).map (Token.place p) =
      Token.ofLine (p.row line) (words.map (Word.place p)) := by
  fun_induction Token.ofLine line words with
  | case1 => simp [Token.ofLine]
  | case2 first rest hprint =>
    conv_rhs => rw [List.map_cons, Token.ofLine.eq_def]
    simp [hprint, Token.map_place_ofWords p (Token.map_place_ofContent p line)]
  | case3 first hprint => simp [Token.ofLine, hprint]
  | case4 first hprint second more hcreate name value ih =>
    conv_rhs => rw [List.map_cons, List.map_cons, Token.ofLine.eq_def]
    simp [hprint, hcreate, Token.takeName_place, Token.takeValue_place, ih, name, value]
  | case5 first hprint second more hcreate ih =>
    rw [ih]
    conv_rhs => rw [List.map_cons, List.map_cons, Token.ofLine.eq_def]
    simp [hprint, hcreate]

end

end PlainEnglish
