import PlainEnglish.Text.Blank
import PlainEnglish.Text.Lines
import PlainEnglish.Number.Numeral
import PlainEnglish.Token.Basic

/-!
# Scanning

Scanning never fails. Each line is a row of words in which the beginnings of statements are
looked for, and a word that is no part of a statement is passed over.
-/

namespace PlainEnglish

/-! ### Values -/

/-- Whether a text stands between double quotes. -/
def Text.isQuoted (t : Text) : Bool :=
  2 ≤ t.length && Text.startsWith t ['"'] && Text.endsWith t ['"']

/-- The text between the first and the last character. -/
def Text.inner (t : Text) : Text := t.tail.dropLast

/-- One more character in front of the fragments of an expression: an operator is a fragment of
its own. -/
def Text.consFragment (c : Char) (fragments : List Text) : List Text :=
  if isOperator c then [] :: [c] :: fragments else Text.consToFirst c fragments

/-- The fragments of an expression, trimmed: its operators, and what stands between them. -/
def Text.fragments (t : Text) : List Text :=
  ((t.foldr Text.consFragment [[]]).map Text.trim).filter (· ≠ [])

/-- The kind of a fragment. -/
def Kind.ofFragment (fragment : Text) : Kind :=
  match fragment with
  | [c] =>
    match Operator.ofSymbol? c with
    | some op => .operator op
    | none => if Text.isNumeral fragment then .number else .identifier
  | _ => if Text.isNumeral fragment then .number else .identifier

/-- The tokens of an expression. They all have the column in which the expression begins. -/
def Token.ofExpression (line column : Int) (t : Text) : List Token :=
  (Text.fragments t).map fun fragment => ⟨Kind.ofFragment fragment, fragment, line, column⟩

/-- The tokens of what a statement prints. -/
def Token.ofContent (line column : Int) (t : Text) : List Token :=
  if Text.isQuoted t then [⟨.string, Text.inner t, line, column⟩]
  else Token.ofExpression line column t

/-- The tokens of a declared value. A text that is a numeral is one token, also with a sign. -/
def Token.ofValue (line column : Int) (t : Text) : List Token :=
  if Text.isQuoted t then [⟨.string, Text.inner t, line, column⟩]
  else if Text.isNumeral t then [⟨.number, t, line, column⟩]
  else Token.ofExpression line column t

/-- Tokens for a row of words, taken as one text with single spaces and placed in the column of
the first word. -/
def Token.ofWords (scan : Int → Text → List Token) : List Word → List Token
  | [] => []
  | word :: words => scan word.column (Text.join [' '] (word.text :: words.map Word.text))

/-! ### Lines -/

/-- A word as a token. -/
def Word.token (line : Int) (kind : Kind) (word : Word) : Token :=
  ⟨kind, word.text, line, word.column⟩

/-- Whether a word may be a part of a declared value: it does not begin like a statement that
prints. -/
def Word.isValuePart (word : Word) : Bool := !Text.startsWith word.text Keyword.printWord.text

/-- Whether a word is a keyword. -/
def Word.spells (word : Word) (keyword : Keyword) : Bool := word.text = keyword.text

/-- The name of a declaration, which is whatever word comes next, and the words behind it. -/
def Token.takeName (line : Int) : List Word → List Token × List Word
  | [] => ([], [])
  | name :: rest => ([name.token line .identifier], rest)

/-- The value of a declaration with the two keywords in front of it, and the words behind it; no
tokens if the two keywords do not come next. -/
def Token.takeValue (line : Int) : List Word → List Token × List Word
  | first :: second :: rest =>
    if first.spells .withWord && second.spells .valueWord then
      (first.token line (.keyword .withWord) :: second.token line (.keyword .valueWord) ::
        Token.ofWords (Token.ofValue line) (rest.takeWhile Word.isValuePart),
        rest.dropWhile Word.isValuePart)
    else ([], first :: second :: rest)
  | words => ([], words)

theorem Token.length_takeName_le (line : Int) (words : List Word) :
    (Token.takeName line words).2.length ≤ words.length := by
  cases words <;> simp [Token.takeName]

theorem Token.length_takeValue_le (line : Int) (words : List Word) :
    (Token.takeValue line words).2.length ≤ words.length := by
  unfold Token.takeValue
  split
  · split
    · exact Nat.le_trans (List.dropWhile_sublist _).length_le
        (by simp only [List.length_cons]; omega)
    · exact Nat.le_refl _
  · exact Nat.le_refl _

/-- The tokens of the words of a line. -/
def Token.ofLine (line : Int) : List Word → List Token
  | [] => []
  | first :: rest =>
    if first.spells .printWord then
      first.token line (.keyword .printWord) :: Token.ofWords (Token.ofContent line) rest
    else
      match rest with
      | [] => []
      | second :: more =>
        if first.spells .createWord && second.spells .variableWord then
          let name := Token.takeName line more
          let value := Token.takeValue line name.2
          first.token line (.keyword .createWord) ::
            second.token line (.keyword .variableWord) ::
            (name.1 ++ value.1 ++ Token.ofLine line value.2)
        else Token.ofLine line (second :: more)
termination_by words => words.length
decreasing_by
  · have := Token.length_takeName_le line more
    have := Token.length_takeValue_le line (Token.takeName line more).2
    simp only [List.length_cons]
    omega
  · simp

/-- The tokens of a physical line: none for a blank one, and otherwise those of its words and a
newline right behind its last word. -/
def Token.ofPhysicalLine (text : Text) (line : Int) : List Token :=
  match Text.words text with
  | [] => []
  | words =>
    Token.ofLine line words ++ [⟨.newline, ['\n'], line, (Text.trimEnd text).length + 1⟩]

/-- The tokens of a program, ended by a token behind its last line. -/
def Token.scan (source : Text) : List Token :=
  let lines := Text.lines source
  (lines.zipIdx 1).flatMap (fun (text, line) => Token.ofPhysicalLine text line) ++
    [⟨.finish, [], lines.length + 1, 1⟩]

end PlainEnglish
