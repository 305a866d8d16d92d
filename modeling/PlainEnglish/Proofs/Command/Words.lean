import PlainEnglish.Command.Report
import PlainEnglish.Proofs.Usage.Given

/-!
# Words that ask for a file

A word behind a command is its operand or a switch, and no switch takes the place of the operand.
So the words that ask to compile a file are refused, or the file is what the word behind the
command names. Whatever is refused ends with the status of a page or of a wrong use.

Main statements: `Invocation.read_compile_cases`, `Invocation.read_file`,
`Report.ending_of_refused`.
-/

namespace PlainEnglish

/-! ### Single words -/

section

variable {u : Usage} {word value : Text} {a : Argument} {g g' : Given} {s : Switch}
  {rule : ValueRule}
  {attached : Option Attached}

lemma Usage.word_of_argument (h : u.argument word = .ok a) : a.word = word := by
  unfold Usage.argument at h
  split at h
  · obtain rfl := Except.ok.inj h
    rfl
  · split at h
    · obtain rfl := Except.ok.inj h
      rfl
    · simp only at h
      split at h
      · obtain rfl := Except.ok.inj h
        rfl
      · split at h
        · split at h <;> obtain rfl := Except.ok.inj h <;> rfl
        · obtain rfl := Except.ok.inj h
          rfl
        · exact nomatch h

/-- A single word is one argument, unless it is a mistake. -/
lemma Usage.arguments_singleton (u : Usage) (word : Text) :
    (∃ mistake, u.arguments [word] = .error mistake) ∨
      ∃ a, u.arguments [word] = .ok [a] ∧ a.word = word := by
  unfold Usage.arguments
  split
  · next hword => exact Or.inr ⟨.separator, rfl, hword.symm⟩
  · cases ha : u.argument word with
    | error mistake => exact Or.inl ⟨mistake, rfl⟩
    | ok a => exact Or.inr ⟨a, rfl, Usage.word_of_argument ha⟩

/-! ### Switches -/

lemma Given.operand_setValue (h : g.setValue s rule value = .ok g') :
    g'.operand = g.operand := by
  unfold Given.setValue at h
  split at h
  · exact nomatch h
  · obtain rfl := Except.ok.inj h
    rfl

lemma Given.operand_setAttached (h : g.setAttached s rule value = .ok g') :
    g'.operand = g.operand := by
  unfold Given.setAttached at h
  split at h
  · obtain rfl := Except.ok.inj h
    rfl
  · exact Given.operand_setValue h

/-- A single argument that is not plain is no operand. -/
lemma Usage.operand_readFrom (hplain : ∀ word, a ≠ .plain word)
    (h : u.readFrom g [a] = .ok g') : g'.operand = g.operand := by
  cases a with
  | plain word => exact absurd rfl (hplain word)
  | separator =>
    have hseparated : u.takeSeparated g [] = .ok g' := h
    unfold Usage.takeSeparated at hseparated
    split at hseparated
    · next heq => cases heq
    · obtain rfl := Except.ok.inj hseparated
      rfl
    · next heq => cases heq
    · obtain rfl := Except.ok.inj hseparated
      rfl
  | unknown word =>
    obtain rfl := Except.ok.inj h
    rfl
  | switch word s attached =>
    unfold Usage.readFrom at h
    split at h
    · split at h
      · cases h
      · next hset =>
        obtain rfl := Except.ok.inj h
        exact Given.operand_setAttached hset
    · cases h
    · split at h
      · cases h
      · next hword =>
        obtain ⟨marks, rfl⟩ := Usage.exists_marks_of_applyWord hword
        obtain rfl := Except.ok.inj h
        rfl

end

/-! ### A command with a file -/

/-- A file is compiled and its output shown. -/
def Invocation.ofFile (file : Text) : Invocation :=
  ⟨none, false, none, .compile file ⟨false, false, false, false⟩⟩

section

variable {file : Text} {a : Argument} {words : List Text} {refusal : Refusal}

lemma Usage.main_arguments (file : Text) : Usage.main.arguments [compileCommand, file] =
    (Usage.main.arguments [file]).map (.plain compileCommand :: ·) := by
  have hcommand : Usage.main.argument compileCommand = .ok (.plain compileCommand) := rfl
  rw [Usage.arguments, if_neg (by decide), hcommand]

/-- The word behind the command is left to the command, whatever it looks like. -/
lemma Usage.main_given (h : Usage.main.arguments [file] = .ok [a]) (ha : a.word = file) :
    Usage.main.given [compileCommand, file] =
      .ok { operand := some compileCommand, behind := [file] } := by
  have hread : Usage.main.readFrom {} [.plain compileCommand, a] =
      .ok { operand := some compileCommand, behind := [a.word] } := rfl
  simp only [Usage.given, Usage.read, Usage.main_arguments, h, Except.map, hread, ha]

/-- The command takes a plain word for the file. -/
lemma Usage.compile_given (h : Usage.compile.arguments [file] = .ok [.plain file]) :
    Usage.compile.given [file] = .ok { operand := some file } := by
  have hread : Usage.compile.readFrom {} [.plain file] = .ok { operand := some file } := rfl
  simp only [Usage.given, Usage.read, h, hread]

/-- The command takes no other word for the file. -/
lemma Usage.compile_given_of_ne (h : Usage.compile.arguments [file] = .ok [a])
    (hplain : ∀ word, a ≠ .plain word) :
    ∃ refusal, Usage.compile.given [file] = .error refusal := by
  cases hread : Usage.compile.readFrom {} [a] with
  | error stop =>
    refine ⟨.ofInterruption .compile stop, ?_⟩
    simp only [Usage.given, Usage.read, h, hread]
  | ok g =>
    have hnone : g.operand = none := Usage.operand_readFrom hplain hread
    refine ⟨.mistake .compile (.missingOperand "file"), ?_⟩
    simp only [Usage.given, Usage.read, h, hread, hnone]
    rfl

lemma Invocation.read_of_given (hmain : Usage.main.given [compileCommand, file] =
    .ok { operand := some compileCommand, behind := [file] }) :
    Invocation.read [compileCommand, file] =
      (Usage.compile.given [file]).bind fun g =>
        if g.unknown = [] then .ok ⟨none, false, none, .ofCompile g⟩
        else .error (.mistake .main (.unknownWords g.unknown)) := by
  have hlookup : Task.commands.lookup compileCommand = some (.compile, .ofCompile) := rfl
  simp only [Invocation.read, hmain, Option.bind_some, hlookup, Except.bind]
  cases Usage.compile.given [file] with
  | error refusal => rfl
  | ok g =>
    simp only [List.nil_append, ite_not]
    rfl

/-- The words that ask to compile a file are refused, or they ask for nothing else. -/
theorem Invocation.read_compile_cases (file : Text) :
    (∃ refusal, Invocation.read [compileCommand, file] = .error refusal) ∨
      Invocation.read [compileCommand, file] = .ok (.ofFile file) := by
  rcases Usage.main.arguments_singleton file with ⟨mistake, hmain⟩ | ⟨a, hmain, ha⟩
  · refine Or.inl ⟨.mistake .main mistake, ?_⟩
    simp only [Invocation.read, Usage.given, Usage.read, Usage.main_arguments, hmain, Except.map,
      Refusal.ofInterruption]
  · rw [Invocation.read_of_given (Usage.main_given hmain ha)]
    rcases Usage.compile.arguments_singleton file with ⟨mistake, hcompile⟩ | ⟨a, hcompile, ha⟩
    · refine Or.inl ⟨.mistake .compile mistake, ?_⟩
      simp only [Usage.given, Usage.read, hcompile, Refusal.ofInterruption, Except.bind]
    · by_cases hplain : ∃ word, a = .plain word
      · obtain ⟨word, rfl⟩ := hplain
        obtain rfl : word = file := ha
        exact Or.inr (by rw [Usage.compile_given hcompile]; rfl)
      · obtain ⟨refusal, hrefusal⟩ :=
          Usage.compile_given_of_ne hcompile fun word heq => hplain ⟨word, heq⟩
        exact Or.inl ⟨refusal, by rw [hrefusal]; rfl⟩

/-- They are not refused if the file does not look like a switch. -/
theorem Invocation.read_file (h : file.head? = some '-' → file = ['-']) :
    Invocation.read [compileCommand, file] = .ok (.ofFile file) := by
  have harguments (u : Usage) (hhyphen : u.arguments [['-']] = .ok [.plain ['-']]) :
      u.arguments [file] = .ok [.plain file] := by
    by_cases hfile : file = ['-']
    · rw [hfile, hhyphen]
    · have hhead : file.head? ≠ some '-' := fun hhead => hfile (h hhead)
      have hne : file ≠ Argument.hyphens := by
        rintro rfl
        exact hhead rfl
      rw [Usage.arguments, if_neg hne, Usage.argument, if_pos hhead]
      rfl
  rw [Invocation.read_of_given (Usage.main_given (harguments .main (by rfl)) rfl),
    Usage.compile_given (harguments .compile (by rfl))]
  rfl

/-! ### Refusals -/

lemma Report.ending_ofInterruption (u : Usage) (stop : Interruption) :
    (Report.ofRefusal (.ofInterruption u stop)).ending = .status 0 ∨
      (Report.ofRefusal (.ofInterruption u stop)).ending = .status usageStatus := by
  cases stop with
  | help => exact Or.inl rfl
  | version => exact Or.inl rfl
  | mistake m => exact Or.inr rfl

lemma Report.ending_of_given {u : Usage} (h : u.given words = .error refusal) :
    (Report.ofRefusal refusal).ending = .status 0 ∨
      (Report.ofRefusal refusal).ending = .status usageStatus := by
  unfold Usage.given at h
  split at h
  · exact nomatch h
  · obtain rfl := Except.error.inj h
    exact Report.ending_ofInterruption _ _

/-- Whatever is refused ends with a status. -/
theorem Report.ending_of_refused (h : Invocation.read words = .error refusal) :
    (Report.ofRefusal refusal).ending = .status 0 ∨
      (Report.ofRefusal refusal).ending = .status usageStatus := by
  unfold Invocation.read at h
  split at h
  · next hmain =>
    obtain rfl := Except.error.inj h
    exact Report.ending_of_given hmain
  · split at h
    · split at h <;> obtain rfl := Except.error.inj h <;> exact Or.inr rfl
    · split at h
      · next hcommand =>
        obtain rfl := Except.error.inj h
        exact Report.ending_of_given hcommand
      · simp only at h
        split at h
        · obtain rfl := Except.error.inj h
          exact Or.inr rfl
        · exact nomatch h

end

end PlainEnglish
