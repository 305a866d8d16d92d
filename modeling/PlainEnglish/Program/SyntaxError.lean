import PlainEnglish.Diagnostic
import PlainEnglish.Token.Basic

/-!
# Syntax errors

The grammar is left where a token is of another kind than expected, or where tokens are expected
and there are none left.
-/

namespace PlainEnglish

/-- What the grammar expects at some place. -/
inductive Expectation where
  | kind (k : Kind)
  | statement
  | operand
deriving DecidableEq, Repr

/-- The kinds of tokens that meet an expectation. -/
def Expectation.kinds : Expectation → List Kind
  | .kind k => [k]
  | .statement => [.keyword .createWord, .keyword .printWord]
  | .operand => [.number, .string, .identifier]

/-- The words for an expectation. -/
def Expectation.phrase : Expectation → Text
  | .kind k => k.name
  | .statement => "CREATE or PRINT"
  | .operand => "NUMBER, STRING or IDENTIFIER"

/-- A place at which a row of tokens leaves the grammar: a token, or the end of the row, for
which the line of the last token is known. -/
inductive SyntaxError where
  | unexpected (wanted : Expectation) (token : Token)
  | endOfInput (wanted : Expectation) (lastLine : Option Int)
deriving DecidableEq, Repr

/-- The words for a syntax error. -/
def SyntaxError.message : SyntaxError → Text
  | .unexpected wanted token =>
    "Expected " ++ wanted.phrase ++ ", got " ++ token.kind.name ++ " at line " ++
      Text.ofInt token.line
  | .endOfInput _ _ => "Unexpected end of input"

/-- The line of a syntax error. -/
def SyntaxError.line : SyntaxError → Option Int
  | .unexpected _ token => some token.line
  | .endOfInput _ lastLine => lastLine

/-- The column of a syntax error. -/
def SyntaxError.column : SyntaxError → Option Int
  | .unexpected _ token => some token.column
  | .endOfInput _ _ => none

/-- What would have been in the grammar. -/
def SyntaxError.wanted : SyntaxError → Expectation
  | .unexpected wanted _ => wanted
  | .endOfInput wanted _ => wanted

/-- The names of the kinds that would have been in the grammar. -/
def SyntaxError.expected (e : SyntaxError) : List Text := e.wanted.kinds.map Kind.name

/-- The name of the kind that is not in the grammar. -/
def SyntaxError.found : SyntaxError → Option Text
  | .unexpected _ token => some token.kind.name
  | .endOfInput _ _ => none

/-- A syntax error as a diagnostic. -/
def SyntaxError.diagnostic (e : SyntaxError) : Diagnostic where
  subject := .grammar e.expected e.found
  message := e.message
  line := e.line
  column := e.column

/-- Why tokens do not make a program: they leave the grammar, or a token that should be a number
has a text that names none. -/
inductive ParseError where
  | grammar (e : SyntaxError)
  | notNumber (text : Text)
deriving DecidableEq, Repr

end PlainEnglish
