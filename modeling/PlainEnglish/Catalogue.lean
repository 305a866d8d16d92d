import PlainEnglish.Text.Blank
import PlainEnglish.Text.Lowercase

/-!
# Examples

Every installation has a few example programs, in categories.
-/

namespace PlainEnglish

/-- An example program. -/
structure Example where
  name : Text
  category : Text
  description : Text
  source : Text
deriving DecidableEq, Repr

/-- Whether a character may stand in a slug beside the hyphens. -/
def isSlugChar (c : Char) : Bool := ('a' ≤ c && c ≤ 'z') || ('0' ≤ c && c ≤ '9')

/-- The text with every other run of characters replaced by one hyphen. -/
def Text.hyphenated (t : Text) : Text :=
  t.foldr
    (fun c rest =>
      if isSlugChar c then c :: rest else if rest.head? = some '-' then rest else '-' :: rest)
    []

/-- The slug of a name: its small letters and digits, with a single hyphen for whatever else
stands between them. -/
def Text.slug (name : Text) : Text :=
  (((Text.hyphenated name.lowercase).dropWhile (· = '-')).reverse.dropWhile (· = '-')).reverse

/-- The slug of an example. -/
def Example.slug (e : Example) : Text := e.name.slug

/-! ### The catalogue -/

/-- The categories with their titles. -/
def Example.categories : List (Text × Text) :=
  [("basics", "Basic Syntax"), ("math", "Math Operations")]

/-- All examples. -/
def Example.all : List Example := [
  { name := "Hello World"
    category := "basics"
    description := "The simplest EBPL program - printing a message."
    source := "print \"Hello, EBPL World!\"" },
  { name := "Variables"
    category := "basics"
    description := "Creating and using variables with different data types."
    source :=
      "create variable name with value \"Alice\"\n" ++
      "create variable age with value 25\n" ++
      "print name\n" ++
      "print age" },
  { name := "Basic Math"
    category := "basics"
    description := "Basic arithmetic operations with variables."
    source :=
      "create variable a with value 10\n" ++
      "create variable b with value 5\n" ++
      "print a + b\n" ++
      "print a - b\n" ++
      "print a * b\n" ++
      "print a / b" },
  { name := "Calculator"
    category := "math"
    description := "Complete calculator with all basic operations."
    source :=
      "create variable num1 with value 15\n" ++
      "create variable num2 with value 3\n" ++
      "\n" ++
      "create variable addition with value num1 + num2\n" ++
      "create variable subtraction with value num1 - num2\n" ++
      "create variable multiplication with value num1 * num2\n" ++
      "create variable division with value num1 / num2\n" ++
      "\n" ++
      "print \"Calculator Results:\"\n" ++
      "print addition\n" ++
      "print subtraction\n" ++
      "print multiplication\n" ++
      "print division" }]

/-- The examples of a category, or all of them. -/
def Example.list : Option Text → List Example
  | none => Example.all
  | some category => Example.all.filter fun e => e.category = category

/-- The example with the given slug or name, in any letter case and with blanks around it. -/
def Example.find? (name : Text) : Option Example :=
  let wanted := name.trim.lowercase
  Example.all.find? fun e => wanted = e.slug || wanted = e.name.lowercase

/-- The words for a name that no example has. -/
def Example.unknown (name : Text) : Text := "Unknown example '" ++ name ++ "'"

end PlainEnglish
