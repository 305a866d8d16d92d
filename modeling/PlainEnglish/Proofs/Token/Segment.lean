import PlainEnglish.Proofs.Token.Line

/-!
# Segments of lines

Which words of a line make tokens, and which of them together. Keywords and names are made of
single words, and a value or printed content of a row of words. The tokens of a line are those of
its segments.

Main statements: `Token.ofLine_eq_flatMap`, `Segment.words_sublist_of_mem`.
-/

namespace PlainEnglish

/-- Words of a line that make tokens: a keyword or a name on its own, the words of a declared
value, or those of printed content. -/
inductive Segment where
  | keyword (k : Keyword) (word : Word)
  | name (word : Word)
  | value (words : List Word)
  | content (words : List Word)
deriving DecidableEq, Repr

namespace Segment

/-- The words of a segment. -/
def words : Segment → List Word
  | .keyword _ word => [word]
  | .name word => [word]
  | .value words => words
  | .content words => words

/-- The tokens of a segment. -/
def tokens (line : Int) : Segment → List Token
  | .keyword k word => [word.token line (.keyword k)]
  | .name word => [word.token line .identifier]
  | .value words => Token.ofWords (Token.ofValue line) words
  | .content words => Token.ofWords (Token.ofContent line) words

/-- The name of a declaration, and the words behind it. -/
def takeName : List Word → List Segment × List Word
  | [] => ([], [])
  | word :: rest => ([.name word], rest)

/-- The value of a declaration with its two keywords, and the words behind it. -/
def takeValue : List Word → List Segment × List Word
  | first :: second :: rest =>
    if first.spells .withWord && second.spells .valueWord then
      ([.keyword .withWord first, .keyword .valueWord second,
        .value (rest.takeWhile Word.isValuePart)], rest.dropWhile Word.isValuePart)
    else ([], first :: second :: rest)
  | words => ([], words)

/-! ### Names and values -/

section

variable (line : Int) (words : List Word)

lemma takeName_eq : Token.takeName line words =
    ((takeName words).1.flatMap (tokens line), (takeName words).2) := by
  cases words <;> rfl

lemma takeValue_eq : Token.takeValue line words =
    ((takeValue words).1.flatMap (tokens line), (takeValue words).2) := by
  rcases words with _ | ⟨first, _ | ⟨second, rest⟩⟩
  · rfl
  · rfl
  · by_cases hwith : first.spells .withWord = true ∧ second.spells .valueWord = true
    · simp [takeValue, Token.takeValue, hwith, tokens]
    · simp [takeValue, Token.takeValue, hwith]

lemma length_takeName_le : (takeName words).2.length ≤ words.length := by
  have hle := Token.length_takeName_le 0 words
  rwa [takeName_eq] at hle

lemma length_takeValue_le : (takeValue words).2.length ≤ words.length := by
  have hle := Token.length_takeValue_le 0 words
  rwa [takeValue_eq] at hle

end

/-! ### Lines -/

/-- The segments of a line with the given words. -/
def ofLine : List Word → List Segment
  | [] => []
  | first :: rest =>
    if first.spells .printWord then [.keyword .printWord first, .content rest]
    else
      match rest with
      | [] => []
      | second :: more =>
        if first.spells .createWord && second.spells .variableWord then
          let name := takeName more
          let value := takeValue name.2
          .keyword .createWord first :: .keyword .variableWord second ::
            (name.1 ++ value.1 ++ ofLine value.2)
        else ofLine (second :: more)
termination_by words => words.length
decreasing_by
  · have := length_takeName_le more
    have := length_takeValue_le (takeName more).2
    simp only [List.length_cons]
    omega
  · simp

end Segment

/-- The tokens of a line are those of its segments, one segment after the other. -/
theorem Token.ofLine_eq_flatMap (line : Int) (words : List Word) :
    Token.ofLine line words = (Segment.ofLine words).flatMap (Segment.tokens line) := by
  fun_induction Token.ofLine line words with
  | case1 => simp [Segment.ofLine]
  | case2 first rest hprint =>
    rw [Segment.ofLine.eq_def]
    simp [hprint, Segment.tokens]
  | case3 first hprint => simp [Segment.ofLine, hprint]
  | case4 first hprint second more hcreate name value ih =>
    have hname : name = ((Segment.takeName more).1.flatMap (Segment.tokens line),
        (Segment.takeName more).2) := Segment.takeName_eq line more
    have hvalue : value = ((Segment.takeValue (Segment.takeName more).2).1.flatMap
        (Segment.tokens line), (Segment.takeValue (Segment.takeName more).2).2) := by
      rw [← Segment.takeValue_eq, ← congrArg Prod.snd hname]
    rw [hvalue] at ih
    rw [hvalue, hname, ih, Segment.ofLine.eq_def (first :: second :: more)]
    simp [hprint, hcreate, Segment.tokens]
  | case5 first hprint second more hcreate ih =>
    rw [ih, Segment.ofLine.eq_def (first :: second :: more)]
    simp [hprint, hcreate]

/-! ### Words of segments -/

namespace Segment

variable {words : List Word} {s : Segment}

lemma words_takeName :
    (takeName words).1.flatMap Segment.words ++ (takeName words).2 = words := by
  cases words <;> rfl

lemma words_takeValue :
    (takeValue words).1.flatMap Segment.words ++ (takeValue words).2 = words := by
  rcases words with _ | ⟨first, _ | ⟨second, rest⟩⟩
  · rfl
  · rfl
  · by_cases hwith : first.spells .withWord = true ∧ second.spells .valueWord = true
    · simp [takeValue, hwith, Segment.words]
    · simp [takeValue, hwith]

/-- The segments of a line lie one behind the other in it. -/
lemma words_sublist_ofLine (words : List Word) :
    ((ofLine words).flatMap Segment.words).Sublist words := by
  fun_induction ofLine words with
  | case1 => exact List.Sublist.refl _
  | case2 first rest hprint => simp [Segment.words]
  | case3 first hprint => simp
  | case4 first hprint second more hcreate name value ih =>
    have hmore : more = name.1.flatMap Segment.words ++
        (value.1.flatMap Segment.words ++ value.2) := by
      rw [words_takeValue, words_takeName]
    rw [List.flatMap_cons, List.flatMap_cons, List.flatMap_append, List.flatMap_append, hmore,
      List.append_assoc]
    exact ((ih.append_left _).append_left _).cons_cons second |>.cons_cons first
  | case5 first hprint second more hcreate ih => exact ih.cons first

lemma words_sublist_of_mem (h : s ∈ ofLine words) : s.words.Sublist words := by
  have hpart : s.words.Sublist ((ofLine words).flatMap Segment.words) := by
    rw [List.flatMap_def]
    exact List.sublist_flatten_of_mem (List.mem_map_of_mem h)
  exact hpart.trans (words_sublist_ofLine words)

end Segment

end PlainEnglish
