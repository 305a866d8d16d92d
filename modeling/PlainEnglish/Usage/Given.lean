import PlainEnglish.Number.Whole
import PlainEnglish.Usage.Argument

/-!
# What a command line gives

The words of a command line are gone through from left to right. Each switch does what it does at
once, so the first one that asks for help or the version ends the reading. The first plain word
is the operand. Words that mean nothing are collected. Two hyphens are never a value: attached to
a switch, they blank its value out.
-/

namespace PlainEnglish

/-- What a command line gives: the names of the switches that leave marks, the values of
switches, the latest first and none where a value is blanked out, the operand, the words that
belong to it if it is a command, and the words that mean nothing. -/
structure Given where
  marks : List Text := []
  values : List (Text × Option Text) := []
  operand : Option Text := none
  behind : List Text := []
  unknown : List Text := []
deriving DecidableEq, Repr

/-- What ends the reading of a command line early. -/
inductive Interruption where
  | help
  | version
  | mistake (m : UsageMistake)
deriving DecidableEq, Repr

/-- Whether a switch has left its mark. -/
def Given.isMarked (g : Given) (name : Text) : Bool := name ∈ g.marks

/-- What a switch is set to, if it is set: a value, or none if that is blanked out. -/
def Given.setting? (g : Given) (name : Text) : Option (Option Text) := g.values.lookup name

/-- The value of a switch. -/
def Given.value? (g : Given) (name : Text) : Option Text := (g.setting? name).join

/-- What is given, with more words that mean nothing. -/
def Given.addUnknown (g : Given) (words : List Text) : Given :=
  { g with unknown := g.unknown ++ words }

/-! ### Switches -/

/-- What is wrong with the value of a switch. -/
def ValueRule.mistake? (rule : ValueRule) (s : Switch) (value : Text) : Option UsageMistake :=
  match rule with
  | .any => none
  | .oneOf choices => if value ∈ choices then none else some (.notChoice s value choices)
  | .integer => if (Text.integer? value).isSome then none else some (.notInteger s value)

/-- What is given, with a value for a switch. -/
def Given.setValue (g : Given) (s : Switch) (rule : ValueRule) (value : Text) :
    Except Interruption Given :=
  match rule.mistake? s value with
  | some mistake => .error (.mistake mistake)
  | none => .ok { g with values := (s.name, some value) :: g.values }

/-- What is given, with a value for a switch that is attached to it. -/
def Given.setAttached (g : Given) (s : Switch) (rule : ValueRule) (value : Text) :
    Except Interruption Given :=
  if value = Argument.hyphens then .ok { g with values := (s.name, none) :: g.values }
  else g.setValue s rule value

/-- What is given, after a switch without a value. -/
def Given.apply (g : Given) (s : Switch) : Except Interruption Given :=
  match s.effect with
  | .help => .error .help
  | .version => .error .version
  | _ => .ok { g with marks := s.name :: g.marks }

/-- The switches without values that share a word: only letters of further ones may follow the
letter of the first. -/
def Usage.sharing (u : Usage) (s : Switch) : Text → Except UsageMistake (List Switch)
  | [] => .ok [s]
  | c :: tail =>
    match u.switches.find? fun next => next.letter = some c with
    | some next => (u.sharing next tail).map (s :: ·)
    | none => .error (.needlessValue s (c :: tail))

/-- What is given, after a word with a switch without a value. -/
def Usage.applyWord (u : Usage) (g : Given) (s : Switch) (attached : Option Attached) :
    Except Interruption Given :=
  match attached with
  | none => g.apply s
  | some (.value value) => .error (.mistake (.needlessValue s value))
  | some (.tail []) => .error (.mistake (.needlessValue s []))
  | some (.tail tail) =>
    match u.sharing s tail with
    | .error mistake => .error (.mistake mistake)
    | .ok switches => switches.foldlM Given.apply g

/-- The value that stands in one word with its switch. -/
def Attached.asValue : Attached → Text
  | .value t => t
  | .tail t => t

/-! ### Operands -/

/-- What is given, with a plain word for an operand and the words behind it. -/
def Operand.take (operand : Operand) (g : Given) (word : Text) (rest : List Text) :
    Except Interruption Given :=
  match operand with
  | .command name _ commands =>
    if word ∈ commands.map Prod.fst then .ok { g with operand := some word, behind := rest }
    else .error (.mistake (.notCommand name word (commands.map Prod.fst)))
  | _ => .ok ({ g with operand := some word }.addUnknown rest)

/-- What is given, with the words behind a separator, none of which is a switch. A separator in
front of a command takes the place of the command. -/
def Usage.takeSeparated (u : Usage) (g : Given) (words : List Text) :
    Except Interruption Given :=
  match g.operand, u.operand, words with
  | none, some (.command name purpose commands), _ :: _ =>
    (Operand.command name purpose commands).take g Argument.hyphens words
  | none, some (.optional _ _), [] => .ok g
  | none, some operand, word :: rest => operand.take g word rest
  | _, _, _ => .ok (g.addUnknown (Argument.hyphens :: words))

/-! ### Command lines -/

/-- What is given by the words of a command line, together with what is already given. -/
def Usage.readFrom (u : Usage) (g : Given) : List Argument → Except Interruption Given
  | [] => .ok g
  | .separator :: rest => u.takeSeparated g (rest.map Argument.word)
  | .unknown word :: rest => u.readFrom (g.addUnknown [word]) rest
  | .switch _ s attached :: rest =>
    match s.effect, attached with
    | .value rule, some attached =>
      match g.setAttached s rule attached.asValue with
      | .error stop => .error stop
      | .ok g => u.readFrom g rest
    | .value rule, none =>
      match rest with
      | .plain word :: rest =>
        match g.setValue s rule word with
        | .error stop => .error stop
        | .ok g => u.readFrom g rest
      | _ => .error (.mistake (.missingValue s))
    | _, _ =>
      match u.applyWord g s attached with
      | .error stop => .error stop
      | .ok g => u.readFrom g rest
  | .plain word :: rest =>
    match g.operand, u.operand with
    | none, some (.command name purpose commands) =>
      (Operand.command name purpose commands).take g word (rest.map Argument.word)
    | none, some _ =>
      match rest with
      | .separator :: rest =>
        .ok ({ g with operand := some word }.addUnknown (rest.map Argument.word))
      | rest => u.readFrom { g with operand := some word } rest
    | _, _ => u.readFrom (g.addUnknown [word]) rest

/-- What a command line gives. A required operand must be there. -/
def Usage.read (u : Usage) (words : List Text) : Except Interruption Given :=
  match u.arguments words with
  | .error mistake => .error (.mistake mistake)
  | .ok arguments =>
    match u.readFrom {} arguments with
    | .error stop => .error stop
    | .ok g =>
      match g.operand, u.operand with
      | none, some (.required name _) => .error (.mistake (.missingOperand name))
      | _, _ => .ok g

end PlainEnglish
