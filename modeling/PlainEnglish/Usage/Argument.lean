import PlainEnglish.Text.Digit
import PlainEnglish.Usage.Mistake

/-!
# Words of command lines

Every word of a command line is plain, or names a switch, or looks like a switch that there is
not. The name of a switch may be cut short as long as it fits one switch only. Two hyphens alone
separate the words in front of them from words that are plain whatever they look like. Words that
look like negative numbers, and words that hold a space and name no switch, are plain as well.
-/

namespace PlainEnglish

/-- What stands in one word with a switch: a value behind its name and an equals sign, or what
follows its letter, with or without such a sign between them. -/
inductive Attached where
  | value (t : Text)
  | tail (t : Text)
deriving DecidableEq, Repr

/-- A word of a command line. -/
inductive Argument where
  | plain (word : Text)
  | separator
  | switch (word : Text) (s : Switch) (attached : Option Attached)
  | unknown (word : Text)
deriving DecidableEq, Repr

/-- Two hyphens alone. -/
def Argument.hyphens : Text := "--"

/-- A word as it was given. -/
def Argument.word : Argument → Text
  | .plain word => word
  | .separator => Argument.hyphens
  | .switch word _ _ => word
  | .unknown word => word

/-- What stands behind an equals sign: behind a name a value, and behind a letter what follows
it. -/
def Attached.behind (name t : Text) : Attached :=
  if Text.startsWith name Argument.hyphens then .value t else .tail t

/-- The part of a word in front of its first equals sign, and what is attached behind the
sign. -/
def Text.atSign (word : Text) : Text × Option Attached :=
  let name := word.takeWhile (· ≠ '=')
  (name,
    match word.dropWhile (· ≠ '=') with
    | _ :: rest => some (.behind name rest)
    | [] => none)

/-- The switches whose names begin with a word, up to its equals sign, or whose letter it begins
with, each with what is attached. -/
def Usage.candidates (u : Usage) (word : Text) : List (Switch × Option Attached) :=
  match word with
  | '-' :: '-' :: _ =>
    let (name, attached) := Text.atSign word
    (u.switches.filter fun s => Text.startsWith s.name name).map fun s => (s, attached)
  | '-' :: c :: tail =>
    (u.switches.filter fun s => s.letter = some c).map fun s => (s, some (.tail tail))
  | _ => []

/-- Whether a word looks like a negative number: a hyphen, then digits, of which some may stand
in front of a point. A newline at the end does not count. -/
def Text.isNegativeNumeral (word : Text) : Bool :=
  match word with
  | '-' :: rest =>
    let rest := if rest.getLast? = some '\n' then rest.dropLast else rest
    match rest.dropWhile isDigit with
    | [] => !rest.isEmpty
    | '.' :: fraction => !fraction.isEmpty && fraction.all isDigit
    | _ => false
  | _ => false

/-- What a word is that is not two hyphens alone. -/
def Usage.argument (u : Usage) (word : Text) : Except UsageMistake Argument :=
  if word.head? ≠ some '-' then .ok (.plain word)
  else
    match u.find? word with
    | some s => .ok (.switch word s none)
    | none =>
      let (name, attached) := Text.atSign word
      match u.find? name with
      | some s => .ok (.switch word s attached)
      | none =>
        match u.candidates word with
        | [] =>
          if word = ['-'] ∨ Text.isNegativeNumeral word ∨ ' ' ∈ word then .ok (.plain word)
          else .ok (.unknown word)
        | [(s, attached)] => .ok (.switch word s attached)
        | several => .error (.ambiguous word (several.map Prod.fst))

/-- What the words of a command line are. -/
def Usage.arguments (u : Usage) : List Text → Except UsageMistake (List Argument)
  | [] => .ok []
  | word :: words =>
    if word = Argument.hyphens then .ok (.separator :: words.map .plain)
    else
      match u.argument word with
      | .error mistake => .error mistake
      | .ok argument => (u.arguments words).map (argument :: ·)

end PlainEnglish
