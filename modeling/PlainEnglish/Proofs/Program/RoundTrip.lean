import PlainEnglish.Proofs.Grammar.Scanned
import PlainEnglish.Proofs.Program.Written

/-!
# Programs written back

A program is written with one statement on each line, and parsing what is written finds the
program again, on these lines.

Main statement: `Program.parse_written`.
-/

namespace PlainEnglish

open Grammar

/-! ### Writing -/

/-- A statement as it is written in a source text. -/
def Statement.written : Statement → Text
  | .declaration name value _ => Text.join [' '] [Keyword.createWord.text,
    Keyword.variableWord.text, name, Keyword.withWord.text, Keyword.valueWord.text,
    value.written]
  | .printing value _ => Text.join [' '] [Keyword.printWord.text, value.written]

/-- A program as a source text, with one line for each statement. -/
def Program.written (p : Program) : Text := Text.join ['\n'] (p.map Statement.written)

/-- A statement moved to the given line. -/
def Statement.onLine (line : Int) : Statement → Statement
  | .declaration name value _ => .declaration name value line
  | .printing value _ => .printing value line

/-- A program with its first statement on the first line, its second one on the second line, and
so on. -/
def Program.onLines (p : Program) : Program := (p.zipIdx 1).map fun (s, line) => s.onLine line

/-- Two statements are the same, but for the signs of zeros. -/
inductive Statement.Alike : Statement → Statement → Prop where
  | declaration (name : Text) {value value' : Expression} (h : Expression.Alike value value')
      (line : Int) : Alike (.declaration name value line) (.declaration name value' line)
  | printing {value value' : Expression} (h : Expression.Alike value value') (line : Int) :
      Alike (.printing value line) (.printing value' line)

/-! ### Lines -/

lemma Keyword.isWord_text (keyword : Keyword) : keyword.text.IsWord := by
  cases keyword <;> exact ⟨by decide, Text.forall_eq_false_of_any (by decide)⟩

/-- A row of words that is one phrase is scanned as the phrase. -/
lemma Text.IsPhrase.exists_ofWords {t : Text} (h : t.IsPhrase) (scan : Int → Text → List Token)
    (column : Nat) : ∃ c, Token.ofWords scan (t.wordsFrom column) = scan c t :=
  Token.exists_ofWords_eq scan h.ne_nil (h.join_wordsFrom column)

lemma Text.IsValuePhrase.isValuePart {t : Text} (h : t.IsValuePhrase) (column : Nat) :
    ∀ word ∈ t.wordsFrom column, word.isValuePart = true := by
  intro word hword
  have hpiece : word.text ∈ t.splitAt ' ' := by
    rw [← h.1.map_text_wordsFrom column]
    exact List.mem_map_of_mem hword
  have hprint := h.2 _ hpiece
  rw [Word.isValuePart, Bool.not_eq_true', ← Bool.not_eq_true, Text.startsWith,
    List.isPrefixOf_iff_prefix]
  exact hprint

/-! ### Statements -/

/-- A statement that is scanned back from its own line. -/
def Statement.ScansBack (s : Statement) : Prop :=
  s.written.IsPhrase ∧ ∀ line : Int, ∃ (d : Derivation) (s' : Statement),
    d.tokens = Token.ofPhysicalLine s.written line ∧ d.program = [s'] ∧
      Statement.Alike s' (s.onLine line)

/-- A clause on a line of its own. -/
lemma Statement.exists_derivation {t : Text} {line : Int} {c : Clause} {s : Statement}
    {words : List Word} (hwords : t.words = words) (hne : words ≠ [])
    (htokens : Token.ofLine line words = c.tokens) (hs : c.statement? = some s) :
    ∃ d : Derivation, d.tokens = Token.ofPhysicalLine t line ∧ d.program = [s] := by
  subst hwords
  refine ⟨[c, .newline ⟨⟨.newline, ['\n'], line, t.trimEnd.length + 1⟩, rfl⟩], ?_, ?_⟩
  · rw [Token.ofPhysicalLine_of_words hne, htokens]
    simp [Clause.tokens]
  · rw [Derivation.program_cons, hs]
    rfl

lemma Statement.scansBack_printing {value : Expression} {line : Int}
    (hphrase : value.written.IsPhrase)
    (hexists : ∀ line column, ∃ c : Chain, c.tokens = Token.ofContent line column value.written ∧
      Expression.Alike c.expression value) : (Statement.printing value line).ScansBack := by
  have hprint := Keyword.printWord.isWord_text
  refine ⟨Text.isPhrase_join_cons hprint.isPhrase (by simpa using hphrase), fun line' => ?_⟩
  have hwords : (Statement.printing value line).written.words =
      ⟨Keyword.printWord.text, 1⟩ :: value.written.wordsFrom 7 := by
    rw [Text.words_eq_wordsFrom, Statement.written, Text.wordsFrom_join_cons hprint,
      Text.join_singleton]
    rfl
  obtain ⟨column, hscan⟩ := hphrase.exists_ofWords (Token.ofContent line') 7
  obtain ⟨chain, hchain, halike⟩ := hexists line' column
  have htokens := Token.ofLine_printing line' 1 (value.written.wordsFrom 7)
  rw [hscan, ← hchain] at htokens
  obtain ⟨d, hd, hprogram⟩ := Statement.exists_derivation hwords (List.cons_ne_nil _ _)
    (c := .printing ⟨_, rfl⟩ chain) htokens rfl
  exact ⟨d, _, hd, hprogram, .printing halike line'⟩

lemma Statement.scansBack_declaration {name : Text} {value : Expression} {line : Int}
    (hname : name.IsWord) (hphrase : value.written.IsValuePhrase)
    (hexists : ∀ line column, ∃ c : Chain, c.tokens = Token.ofValue line column value.written ∧
      Expression.Alike c.expression value) :
      (Statement.declaration name value line).ScansBack := by
  have hcreate := Keyword.createWord.isWord_text
  have hvariable := Keyword.variableWord.isWord_text
  have hwith := Keyword.withWord.isWord_text
  have hvalue := Keyword.valueWord.isWord_text
  constructor
  · apply Text.isPhrase_join_cons hcreate.isPhrase
    apply Text.isPhrase_join_cons hvariable.isPhrase
    apply Text.isPhrase_join_cons hname.isPhrase
    apply Text.isPhrase_join_cons hwith.isPhrase
    apply Text.isPhrase_join_cons hvalue.isPhrase
    simpa using hphrase.1
  · intro line'
    obtain ⟨b, d, e, f, hwords⟩ :
        ∃ b d e f, (Statement.declaration name value line).written.words =
        ⟨Keyword.createWord.text, 1⟩ :: ⟨Keyword.variableWord.text, b⟩ :: ⟨name, d⟩ ::
          ⟨Keyword.withWord.text, e⟩ :: ⟨Keyword.valueWord.text, f⟩ ::
            value.written.wordsFrom (f + Keyword.valueWord.text.length + 1) := by
      rw [Text.words_eq_wordsFrom, Statement.written, Text.wordsFrom_join_cons hcreate,
        Text.wordsFrom_join_cons hvariable, Text.wordsFrom_join_cons hname,
        Text.wordsFrom_join_cons hwith, Text.wordsFrom_join_cons hvalue, Text.join_singleton]
      exact ⟨_, _, _, _, rfl⟩
    obtain ⟨column, hscan⟩ := hphrase.1.exists_ofWords (Token.ofValue line')
      (f + Keyword.valueWord.text.length + 1)
    obtain ⟨chain, hchain, halike⟩ := hexists line' column
    have hparts := hphrase.isValuePart (f + Keyword.valueWord.text.length + 1)
    have htokens := Token.ofLine_declaration line' 1 b e f ⟨name, d⟩
      (value.written.wordsFrom (f + Keyword.valueWord.text.length + 1))
    rw [List.takeWhile_eq_self_iff.mpr hparts, List.dropWhile_eq_nil_iff.mpr hparts, hscan,
      ← hchain, Token.ofLine, List.append_nil] at htokens
    obtain ⟨d, hd, hprogram⟩ := Statement.exists_derivation hwords (List.cons_ne_nil _ _)
      (c := .declaration ⟨_, rfl⟩ ⟨_, rfl⟩ ⟨Word.token line' .identifier ⟨name, d⟩, rfl⟩ ⟨_, rfl⟩
        ⟨_, rfl⟩ chain) htokens rfl
    exact ⟨d, _, hd, hprogram, .declaration name halike line'⟩

/-- A scanned statement is scanned back, if its numbers are finite and no name in a declared
value begins like a statement that prints. -/
lemma Grammar.Clause.IsScanned.scansBack {line : Int} {c : Clause} (h : c.IsScanned line)
    {s : Statement} (hs : c.statement? = some s)
    (hfinite : ∀ x, .number x ∈ s.value.operands → x.isFinite = true)
    (hname : ∀ name value line, s = .declaration name value line →
      ∀ f, .name f ∈ value.operands → ¬Keyword.printWord.text <+: f) : s.ScansBack := by
  have hspelled := h.spelled
  cases c with
  | newline t => cases hs
  | declaration create variableWord name withWord valueWord chain =>
    obtain rfl := Option.some.inj hs
    obtain ⟨hword, column, text, htext, htokens⟩ := hspelled
    obtain ⟨hphrase, hexists⟩ := chain.exists_ofValue_written htokens htext hfinite
      (hname _ _ _ rfl)
    exact Statement.scansBack_declaration hword hphrase hexists
  | printing print chain =>
    obtain rfl := Option.some.inj hs
    obtain ⟨column, text, htext, htokens⟩ := hspelled
    obtain ⟨hphrase, hexists⟩ := chain.exists_ofContent_written htokens htext hfinite
    exact Statement.scansBack_printing hphrase hexists

/-! ### Programs -/

lemma Program.exists_derivation {p : Program} (h : ∀ s ∈ p, s.ScansBack) (first : Nat) :
    ∃ d : Derivation,
      d.tokens = ((p.map Statement.written).zipIdx first).flatMap
        (fun (text, line) => Token.ofPhysicalLine text line) ∧
      List.Forall₂ Statement.Alike d.program
        ((p.zipIdx first).map fun (s, line) => s.onLine line) := by
  induction p generalizing first with
  | nil => exact ⟨[], rfl, .nil⟩
  | cons s p ih =>
    rw [List.forall_mem_cons] at h
    obtain ⟨d, s', htokens, hprogram, halike⟩ := h.1.2 first
    obtain ⟨e, hrest, hprograms⟩ := ih h.2 (first + 1)
    refine ⟨d ++ e, ?_, ?_⟩
    · rw [Derivation.tokens_append, htokens, hrest]
      rfl
    · rw [Derivation.program_append, hprogram]
      exact .cons halike hprograms

/-- A program that is parsed from a source text is parsed from what is written for it, with its
statements on the lines one, two, and so on, and but for the signs of zeros. Its numbers have to
be finite, and no name in a declared value may begin like a statement that prints. -/
theorem Program.parse_written {source : Text} {p : Program} (h : Program.parse source = .ok p)
    (hfinite : ∀ s ∈ p, ∀ x, Expression.number x ∈ s.value.operands → x.isFinite = true)
    (hname : ∀ name value line, Statement.declaration name value line ∈ p →
      ∀ f, Expression.name f ∈ value.operands → Text.startsWith f "print" = false) :
    ∃ q, Program.parse p.written = .ok q ∧ List.Forall₂ Statement.Alike q p.onLines := by
  have hscans : ∀ s ∈ p, s.ScansBack := by
    intro s hs
    obtain ⟨d, -, rfl, hscanned⟩ := Program.scanned_of_parse h
    obtain ⟨c, hc, hstatement⟩ := Derivation.mem_program_iff.mp hs
    obtain ⟨line, hline⟩ := hscanned c hc
    refine hline.scansBack hstatement (hfinite s hs) ?_
    rintro name value line rfl f hf
    rw [← List.isPrefixOf_iff_prefix, Bool.not_eq_true]
    exact hname name value line hs f hf
  obtain ⟨d, htokens, halike⟩ := Program.exists_derivation hscans 1
  have hphrase : ∀ line ∈ p.map Statement.written, line.IsPhrase := by
    rw [List.forall_mem_map]
    exact fun s hs => (hscans s hs).1
  have hlines : Text.lines p.written = p.map Statement.written :=
    Text.lines_join (fun line hline => (hphrase line hline).ne_nil)
      fun line hline c => (hphrase line hline).isLineBreak_eq_false
  refine ⟨d.program, Program.parse_eq_ok_iff.mpr ⟨d, ?_, rfl⟩, halike⟩
  rw [htokens, Token.ofLines, hlines]

/-- A source text with quotes in names, keywords in names, and minus zero. -/
def oddSource : Text := "create variable \"x with value -0\n\nprint with \tvalue+1.50 *\"c"

/-- The program of the source text: minus zero, and one and a half by its rank. -/
def oddProgram : Program :=
  [.declaration "\"x" (.number (.signedZero true)) 1,
    .printing (.binary (.binary (.name "with value") .plus
      (.number (.finite false ⟨4609434218613702656, by decide⟩))) .times (.name "\"c")) 3]

theorem Program.parse_written_oddProgram :
    Program.parse oddSource = .ok oddProgram ∧
    (∀ s ∈ oddProgram, ∀ x, Expression.number x ∈ s.value.operands → x.isFinite = true) ∧
    (∀ name value line, Statement.declaration name value line ∈ oddProgram →
      ∀ f, Expression.name f ∈ value.operands → Text.startsWith f "print" = false) ∧
    ∃ q, Program.parse "create variable \"x with value 0\nprint with value + 1.5 * \"c" = .ok q ∧
      List.Forall₂ Statement.Alike q oddProgram.onLines := by
  have hparse : Program.parse oddSource = .ok oddProgram := by decide +kernel
  have hfinite : ∀ s ∈ oddProgram, ∀ x, Expression.number x ∈ s.value.operands →
      x.isFinite = true := by
    simp [oddProgram, Statement.value, Expression.operands, Number.signedZero, Number.isFinite]
  have hname : ∀ name value line, Statement.declaration name value line ∈ oddProgram →
      ∀ f, Expression.name f ∈ value.operands → Text.startsWith f "print" = false := by
    rintro name value line hmem f hf
    obtain ⟨-, rfl, -⟩ : _ ∧ value = .number (.signedZero true) ∧ _ := by
      simpa [oddProgram] using hmem
    simp [Expression.operands] at hf
  have hwritten : oddProgram.written =
      "create variable \"x with value 0\nprint with value + 1.5 * \"c".toList := by
    decide +kernel
  obtain ⟨q, hq, halike⟩ := Program.parse_written hparse hfinite hname
  exact ⟨hparse, hfinite, hname, q, hwritten ▸ hq, halike⟩

end PlainEnglish
