import PlainEnglish.Text.Quoted

/-!
# Tokens

A token is a piece of a line with its kind and its place.
-/

namespace PlainEnglish

/-- The words that make up statements. -/
inductive Keyword where
  | createWord
  | variableWord
  | withWord
  | valueWord
  | printWord
deriving DecidableEq, Repr

/-- The four operators, in the order in which the preview looks for them. -/
inductive Operator where
  | plus
  | minus
  | times
  | over
deriving DecidableEq, Repr

/-- The kinds of tokens. -/
inductive Kind where
  | keyword (word : Keyword)
  | identifier
  | number
  | string
  | operator (op : Operator)
  | newline
  | finish
deriving DecidableEq, Repr

/-- A piece of a line with its kind, its line and its column. -/
structure Token where
  kind : Kind
  text : Text
  line : Int
  column : Int
deriving DecidableEq, Repr

/-! ### Spellings -/

/-- All keywords. -/
def Keyword.all : List Keyword := [.createWord, .variableWord, .withWord, .valueWord, .printWord]

/-- A keyword as it stands in a program. -/
def Keyword.text : Keyword → Text
  | .createWord => "create"
  | .variableWord => "variable"
  | .withWord => "with"
  | .valueWord => "value"
  | .printWord => "print"

/-- All operators. -/
def Operator.all : List Operator := [.plus, .minus, .times, .over]

/-- The character of an operator. -/
def Operator.symbol : Operator → Char
  | .plus => '+'
  | .minus => '-'
  | .times => '*'
  | .over => '/'

/-- The operator that a character stands for. -/
def Operator.ofSymbol? (c : Char) : Option Operator :=
  match c with
  | '+' => some .plus
  | '-' => some .minus
  | '*' => some .times
  | '/' => some .over
  | _ => none

/-- Whether a character stands for an operator. -/
def isOperator (c : Char) : Bool := (Operator.ofSymbol? c).isSome

/-! ### Names -/

/-- The name of a keyword. -/
def Keyword.name : Keyword → Text
  | .createWord => "CREATE"
  | .variableWord => "VARIABLE"
  | .withWord => "WITH"
  | .valueWord => "VALUE"
  | .printWord => "PRINT"

/-- The name of an operator. -/
def Operator.name : Operator → Text
  | .plus => "PLUS"
  | .minus => "MINUS"
  | .times => "MULTIPLY"
  | .over => "DIVIDE"

/-- All kinds of tokens. -/
def Kind.all : List Kind :=
  Keyword.all.map .keyword ++ [.identifier, .number, .string] ++ Operator.all.map .operator ++
    [.newline, .finish]

/-- The name of a kind, as messages and listings show it. -/
def Kind.name : Kind → Text
  | .keyword word => word.name
  | .identifier => "IDENTIFIER"
  | .number => "NUMBER"
  | .string => "STRING"
  | .operator op => op.name
  | .newline => "NEWLINE"
  | .finish => "END"

/-- The kind with the given name. -/
def Kind.ofName? (name : Text) : Option Kind := Kind.all.find? fun kind => kind.name = name

/-! ### Listings -/

/-- A token in full, with its text between quotes. -/
def Token.inspect (t : Token) : Text :=
  "Token(" ++ t.kind.name ++ ", " ++ t.text.quoted ++ ", " ++ Text.ofInt t.line ++ ":" ++
    Text.ofInt t.column ++ ")"

/-- One line of a listing: the kind, filled up to the given width, the text and the line. -/
def Token.listed (width : Int) (t : Token) : Text :=
  t.kind.name.padEnd width ++ " -> '" ++ t.text ++ "' (line " ++ Text.ofInt t.line ++ ")"

/-- Whether a listing leaves out tokens of a kind. -/
def Kind.isHidden : Kind → Bool
  | .newline | .finish => true
  | _ => false

/-- The listing of a row of tokens, one text for each token that is not left out. -/
def Token.listing (width : Int) (tokens : List Token) : List Text :=
  (tokens.filter fun t => !t.kind.isHidden).map (Token.listed width)

/-- Whether the listing of a row of tokens can be made. -/
def Token.canList (widest : Nat) (width : Int) (tokens : List Token) : Bool :=
  (tokens.filter fun t => !t.kind.isHidden).all fun t => t.kind.name.canPad widest width

end PlainEnglish
