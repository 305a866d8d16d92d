import PlainEnglish.Text.Blank
import PlainEnglish.Usage.Basic

/-!
# Pages of help

The synopsis of a usage and its page of help. No line is longer than 78 characters unless a
single word is.
-/

namespace PlainEnglish

/-- The width of a page. -/
def pageWidth : Nat := 78

/-- The rightmost column at which the purposes of switches and operands begin. -/
def purposeColumn : Nat := 24

/-! ### Lines -/

/-- The lines of words, the first of which begins with `line`. -/
def Text.fillAfter (width : Nat) (line : Text) : List Text → List Text
  | [] => [line]
  | word :: words =>
    if line.length + 1 + word.length ≤ width then
      Text.fillAfter width (line ++ ' ' :: word) words
    else line :: Text.fillAfter width word words

/-- The lines of words, each filled with as many words as fit. -/
def Text.fill (width : Nat) : List Text → List Text
  | [] => []
  | word :: words => Text.fillAfter width word words

/-- Spaces in front of a line. -/
def Text.indent (width : Nat) (line : Text) : Text := List.replicate width ' ' ++ line

/-! ### Switches and operands -/

/-- A choice, in braces. -/
def Text.choice (choices : List Text) : Text := '\x7b' :: Text.join [','] choices ++ ['\x7d']

/-- What stands for the value of a switch: its choices, or else its name in capitals. -/
def Switch.placeholder? (s : Switch) : Option Text :=
  match s.effect with
  | .value (.oneOf choices) => some (Text.choice choices)
  | .value _ =>
    some ((s.name.dropWhile (· = '-')).map fun c => if c = '-' then '_' else c.toUpper)
  | _ => none

/-- A name of a switch with what stands for its value. -/
def Switch.withPlaceholder (s : Switch) (name : Text) : Text :=
  match s.placeholder? with
  | some placeholder => name ++ ' ' :: placeholder
  | none => name

/-- A switch in a synopsis. -/
def Switch.synopsis (s : Switch) : Text :=
  '[' :: s.withPlaceholder (s.names.headD []) ++ [']']

/-- What stands for an operand in a page of help. -/
def Operand.heading : Operand → Text
  | .required name _ => name
  | .optional name _ => name
  | .command _ _ commands => Text.choice (commands.map Prod.fst)

/-- An operand in a synopsis. -/
def Operand.synopsis (operand : Operand) : Text :=
  match operand with
  | .required _ _ => operand.heading
  | .optional _ _ => '[' :: operand.heading ++ [']']
  | .command _ _ _ => operand.heading ++ " ..."

/-! ### The synopsis -/

/-- How a program is called, without its switches and operands. -/
def Usage.call (u : Usage) : Text := "usage: " ++ u.program

/-- The lines of a synopsis: one if it is short enough, or else the switches and then the
operand, filled into lines of their own behind the call. -/
def Usage.synopsisLines (u : Usage) : List Text :=
  let switches := u.switches.map Switch.synopsis
  let operands := u.operand.toList.map Operand.synopsis
  let line := Text.join [' '] (u.call :: switches ++ operands)
  if line.length ≤ pageWidth then [line]
  else
    let width := u.call.length + 1
    let lines := Text.fill (pageWidth - width) switches ++ Text.fill (pageWidth - width) operands
    match lines.map (Text.indent width) with
    | first :: rest => (u.call ++ first.drop u.call.length) :: rest
    | [] => [u.call]

/-- The synopsis of a usage. -/
def Usage.synopsis (u : Usage) : Text := Text.join ['\n'] u.synopsisLines

/-! ### The page -/

/-- An entry of a page: how far it is indented, its heading and its purpose. -/
structure PageEntry where
  indent : Nat
  heading : Text
  purpose : Text
deriving DecidableEq, Repr

/-- The lines of an entry whose purpose begins at the given column. The purpose begins on a line
of its own when the heading leaves no two spaces in front of it. -/
def PageEntry.lines (column : Nat) (entry : PageEntry) : List Text :=
  let heading := Text.indent entry.indent entry.heading
  let purpose := Text.fill (pageWidth - column) (entry.purpose.words.map Word.text)
  if heading.length + 2 ≤ column then
    (Text.padEnd column heading ++ purpose.headD []) :: purpose.tail.map (Text.indent column)
  else heading :: purpose.map (Text.indent column)

/-- The entries of an operand: its own and those of its commands. -/
def Operand.entries (operand : Operand) : List PageEntry :=
  match operand with
  | .required _ purpose => [⟨2, operand.heading, purpose⟩]
  | .optional _ purpose => [⟨2, operand.heading, purpose⟩]
  | .command _ purpose commands =>
    ⟨2, operand.heading, purpose⟩ :: commands.map fun (name, purpose) => ⟨4, name, purpose⟩

/-- The entry of a switch. -/
def Switch.entry (s : Switch) : PageEntry :=
  ⟨2, Text.join ", " (s.names.map s.withPlaceholder), s.purpose⟩

/-- A part of a page with its title, or nothing if it has no entries. -/
def PageEntry.part (column : Nat) (title : Text) (entries : List PageEntry) : List (List Text) :=
  if entries.isEmpty then [] else [title :: entries.flatMap (PageEntry.lines column)]

/-- The page of help of a usage. -/
def Usage.page (u : Usage) : Text :=
  let operands := u.operand.toList.flatMap Operand.entries
  let switches := u.switches.map Switch.entry
  let widest := ((operands ++ switches).map fun entry => 2 + entry.heading.length).foldl max 0
  let column := min (widest + 2) purposeColumn
  let purpose := Text.fill pageWidth (u.purpose.words.map Word.text)
  let paragraphs :=
    [u.synopsisLines] ++ (if purpose.isEmpty then [] else [purpose]) ++
      PageEntry.part column "positional arguments:" operands ++
      PageEntry.part column "options:" switches
  Text.join "\n\n" (paragraphs.map (Text.join ['\n']))

end PlainEnglish
