import PlainEnglish.Files.Basic

/-!
# Trees of files

What stands at a path is found by a walk through the directories on the way, from the root of all
files on.
-/

namespace PlainEnglish

/-- A tree of files: the working directory, and the files and empty directories, each with the
names that lead to it from the root. -/
structure FileTree where
  directory : Path
  entries : List (List Text × Entry)

/-- What stands where names lead to. There is a directory wherever something stands below. -/
def FileTree.entry? (tree : FileTree) (names : List Text) : Option Entry :=
  match tree.entries.find? fun entry => decide (entry.1 = names) with
  | some entry => some entry.2
  | none =>
    if tree.entries.any fun entry => decide (names <+: entry.1) then some .directory else none

/-- What a walk along names leads to from the place that other names lead to. A double dot leads
back, and nothing leads on from a file. -/
def FileTree.walk (tree : FileTree) (here : List Text) : List Text →
    Except ReadFailure (Option Entry)
  | [] => .ok (tree.entry? here)
  | name :: names =>
    match tree.entry? here with
    | some .directory =>
      if name.isLongName then .error .longName
      else tree.walk (if name = ['.', '.'] then here.dropLast else here ++ [name]) names
    | _ => .ok none

/-- All that can be looked at in a tree. Nothing stands at a path with a null character. -/
def FileTree.files (tree : FileTree) : Files := fun path =>
  if path.names.any fun name => decide ('\x00' ∈ name) then .ok none
  else if path.isLong then .error .longName
  else tree.walk [] (tree.directory.follow path).names

end PlainEnglish
