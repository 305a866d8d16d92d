import PlainEnglish.Proofs.Grammar.Program
import PlainEnglish.Proofs.Number.Numeral
import PlainEnglish.Proofs.Token.Line

/-!
# Scanned programs

The tokens of a source text are those of its lines and an end token. All of their numbers can be
read, so only the grammar can keep a source text from being a program.

Main statements: `Program.parse_eq_ok_iff`, `Program.parse_error_grammar`.
-/

namespace PlainEnglish

open Grammar

/-- The tokens of the lines of a source text, without the end token. -/
def Token.ofLines (source : Text) : List Token :=
  (source.lines.zipIdx 1).flatMap fun (text, line) => Token.ofPhysicalLine text line

lemma Token.scan_eq (source : Text) : Token.scan source =
    Token.ofLines source ++ [⟨.finish, [], source.lines.length + 1, 1⟩] := rfl

/-! ### Physical lines -/

lemma Token.ofPhysicalLine_of_words {text : Text} (h : text.words ≠ []) (line : Int) :
    Token.ofPhysicalLine text line =
      Token.ofLine line text.words ++ [⟨.newline, ['\n'], line, text.trimEnd.length + 1⟩] := by
  unfold Token.ofPhysicalLine
  split
  · next hnil => exact absurd hnil h
  · rfl

lemma Token.of_mem_ofPhysicalLine {text : Text} {line : Int} {t : Token}
    (h : t ∈ Token.ofPhysicalLine text line) :
    t.kind = .newline ∨ Token.IsFrom line text.words t := by
  by_cases hwords : text.words = []
  · simp [Token.ofPhysicalLine, hwords] at h
  · rw [Token.ofPhysicalLine_of_words hwords, List.mem_append, List.mem_singleton] at h
    rcases h with h | rfl
    · exact Or.inr (Token.of_mem_ofLine h)
    · exact Or.inl rfl

/-- A line ends with its only newline token, unless it is blank. -/
lemma Token.countP_newline_ofPhysicalLine (text : Text) (line : Int) :
    (Token.ofPhysicalLine text line).countP (·.kind = .newline) =
      if text.any (fun c => !isBlank c) then 1 else 0 := by
  by_cases hwords : text.words = []
  · simp [Token.ofPhysicalLine, hwords, Text.words_eq_nil_iff.mp hwords]
  · have hnone : (Token.ofLine line text.words).countP (·.kind = .newline) = 0 := by
      rw [List.countP_eq_zero]
      intro t ht
      simpa using (Token.of_mem_ofLine ht).kind_ne.1
    rw [Token.ofPhysicalLine_of_words hwords, List.countP_append, hnone,
      if_pos (by simpa using mt Text.words_eq_nil_iff.mpr hwords)]
    rfl

lemma Token.isChain_ofPhysicalLine (text : Text) (line : Int) :
    (Token.ofPhysicalLine text line).IsChain Token.MayAdjoin ∧
      ∀ t ∈ (Token.ofPhysicalLine text line).head?, t.IsLoose := by
  by_cases hwords : text.words = []
  · simp [Token.ofPhysicalLine, hwords]
  · have hnewline (column : Int) : Token.IsLoose ⟨.newline, ['\n'], line, column⟩ := ⟨rfl, rfl⟩
    rw [Token.ofPhysicalLine_of_words hwords]
    constructor
    · apply Token.isChain_append_of_isLoose (Token.isChain_ofLine line _)
        (List.isChain_singleton _)
      simpa using hnewline _
    · cases hline : Token.ofLine line text.words with
      | nil => simpa using hnewline _
      | cons first rest =>
        have hfirst := Token.isLoose_head_ofLine line text.words
        rw [hline] at hfirst
        simpa using hfirst

/-! ### All lines -/

/-- A token of a source text is a newline, or it comes from the words of one of the lines. -/
lemma Token.of_mem_ofLines {source : Text} {t : Token} (h : t ∈ Token.ofLines source) :
    t.kind = .newline ∨ ∃ text ∈ source.lines, ∃ line, Token.IsFrom line text.words t := by
  obtain ⟨⟨text, line⟩, hmem, ht⟩ := List.mem_flatMap.mp h
  exact (Token.of_mem_ofPhysicalLine ht).imp_right fun hfrom =>
    ⟨text, List.fst_mem_of_mem_zipIdx hmem, line, hfrom⟩

lemma Token.kind_ne_finish_of_mem_ofLines {source : Text} {t : Token}
    (h : t ∈ Token.ofLines source) : t.kind ≠ .finish := by
  rcases Token.of_mem_ofLines h with hkind | ⟨text, -, line, hfrom⟩
  · simp [hkind]
  · exact hfrom.kind_ne.2

lemma Token.isNumeral_of_mem_ofLines {source : Text} {t : Token} (h : t ∈ Token.ofLines source)
    (hnumber : t.kind = .number) : t.text.isNumeral = true := by
  rcases Token.of_mem_ofLines h with hkind | ⟨text, -, line, hfrom⟩
  · simp [hkind] at hnumber
  · exact hfrom.isNumeral hnumber

/-- The text of a number token is a numeral, so it can be read as a number. -/
lemma Token.isReadable_of_mem_ofLines {source : Text} {t : Token}
    (h : t ∈ Token.ofLines source) : t.IsReadable := by
  intro hnumber
  obtain ⟨numeral, hread⟩ :=
    Option.isSome_iff_exists.mp (Token.isNumeral_of_mem_ofLines h hnumber)
  rw [Number.ofText?_of_read? hread]
  rfl

/-- The text of a token has no line break in it, unless the token is a newline. -/
lemma Token.isLineBreak_eq_false {source : Text} {t : Token} (h : t ∈ Token.ofLines source)
    (hkind : t.kind ≠ .newline) {c : Char} (hc : c ∈ t.text) : isLineBreak c = false := by
  rcases Token.of_mem_ofLines h with hnewline | ⟨text, -, line, hfrom⟩
  · exact absurd hnewline hkind
  · rcases hfrom.not_blank hc with rfl | hblank
    · decide
    · by_contra hbreak
      rw [Bool.not_eq_false] at hbreak
      simp [isBlank_of_isLineBreak hbreak] at hblank

lemma Token.isChain_ofLines (source : Text) :
    (Token.ofLines source).IsChain Token.MayAdjoin := by
  suffices h : ∀ lines : List (Text × Nat),
      (lines.flatMap fun (text, line) => Token.ofPhysicalLine text line).IsChain
          Token.MayAdjoin ∧
        ∀ t ∈ (lines.flatMap fun (text, line) => Token.ofPhysicalLine text line).head?,
          t.IsLoose from
    (h _).1
  intro lines
  induction lines with
  | nil => exact ⟨List.isChain_nil, by simp⟩
  | cons first lines ih =>
    obtain ⟨text, line⟩ := first
    obtain ⟨hchain, hhead⟩ := Token.isChain_ofPhysicalLine text line
    refine ⟨Token.isChain_append_of_isLoose hchain ih.1 ih.2, ?_⟩
    intro t ht
    rw [List.flatMap_cons, List.head?_append, Option.mem_def, Option.or_eq_some_iff] at ht
    rcases ht with ht | ⟨-, ht⟩
    · exact hhead t ht
    · exact ih.2 t ht

/-- There are as many newline tokens as lines that are not blank. -/
lemma Token.countP_newline_ofLines (source : Text) :
    (Token.ofLines source).countP (·.kind = .newline) =
      source.lines.countP fun text => text.any fun c => !isBlank c := by
  have hlines (lines : List (Text × Nat)) :
      (lines.flatMap fun (text, line) => Token.ofPhysicalLine text line).countP
        (·.kind = .newline) =
        (lines.map Prod.fst).countP fun text => text.any fun c => !isBlank c := by
    induction lines with
    | nil => rfl
    | cons first lines ih =>
      rw [List.flatMap_cons, List.countP_append, ih, List.map_cons, List.countP_cons,
        Token.countP_newline_ofPhysicalLine, Nat.add_comm]
  rw [Token.ofLines, hlines, List.zipIdx_map_fst]

/-! ### Parsing a source text -/

/-- A source text is a program exactly if the tokens of its lines have a derivation. -/
lemma Program.parse_eq_ok_iff {source : Text} {p : Program} :
    Program.parse source = .ok p ↔
      ∃ d : Derivation, d.tokens = Token.ofLines source ∧ d.program = p := by
  rw [Program.parse, Program.ofTokens_eq_ok_iff, Token.scan_eq]
  constructor
  · rintro ⟨d, finish, rest, htokens, hkind, -, hp⟩
    -- the end token of the scan is the first one, so it is the one behind the derivation
    have hbefore : ∀ t ∈ Token.ofLines source, t.kind ≠ .finish :=
      fun t => Token.kind_ne_finish_of_mem_ofLines
    rcases List.append_eq_append_iff.mp htokens with ⟨more, hd, hlast⟩ | ⟨more, hlines, hrest⟩
    · cases more with
      | nil => exact ⟨d, by simpa using hd, hp⟩
      | cons t more =>
        simp only [List.cons_append, List.cons.injEq] at hlast
        exact absurd (show t.kind = .finish by rw [← hlast.1])
          (Derivation.kind_ne_finish (d := d) (by simp [hd]))
    · cases more with
      | nil => exact ⟨d, by simpa using hlines.symm, hp⟩
      | cons t more =>
        simp only [List.cons_append, List.cons.injEq] at hrest
        exact absurd (hrest.1 ▸ hkind) (hbefore t (by simp [hlines]))
  · rintro ⟨d, htokens, hp⟩
    exact ⟨d, _, [], by rw [htokens], rfl,
      fun t ht => Token.isReadable_of_mem_ofLines (htokens ▸ ht), hp⟩

/-- A source text that is no program leaves the grammar: reading its numbers never fails. -/
lemma Program.parse_error_grammar {source : Text} {e : ParseError}
    (h : Program.parse source = .error e) : ∃ g, e = .grammar g := by
  refine Program.ofTokens_error_grammar ?_ h
  intro t ht
  rw [Token.scan_eq, List.mem_append, List.mem_singleton] at ht
  rcases ht with ht | rfl
  · exact Token.isReadable_of_mem_ofLines ht
  · simp [Token.IsReadable]

end PlainEnglish
