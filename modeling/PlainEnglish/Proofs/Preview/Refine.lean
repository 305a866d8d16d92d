import PlainEnglish.Proofs.Compile.Story
import PlainEnglish.Proofs.Preview.Interpreter
import PlainEnglish.Proofs.Preview.Line

/-!
# The preview runs the program

The preview reads a script as text, but on a scanned program with flat expressions it prints what
the interpreter prints on the tree. The lines of the script keep the variables of the preview and
those of the interpreter in step: names have alike values, and whatever else the preview takes
for a variable has a name that no program can use.

Main statement: `compile_output_eq_run`.
-/

namespace PlainEnglish

/-! ### Variables in step -/

/-- The variables of a preview are in step with those of a run. -/
structure Environment.Mirrors (env spec : Environment) : Prop where
  alike : ∀ name : Text, name.IsName →
    Option.Rel Value.Alike (env.value? name) (spec.value? name)
  keys : ∀ entry ∈ env, Text.IsName entry.1 ∨ Text.printStart <+: entry.1

lemma Environment.value?_define (env : Environment) (key name : Text) (value : Value) :
    (env.define key value).value? name = if name = key then some value else env.value? name := by
  by_cases h : name = key
  · simp [Environment.define, Environment.value?, h]
  · have hne : (name == key) = false := by simpa using h
    simp [Environment.define, Environment.value?, List.lookup_cons, h, hne]

lemma Environment.mirrors_nil : Environment.Mirrors [] [] where
  alike _ _ := .none
  keys _ h := absurd h List.not_mem_nil

section

variable {env spec : Environment}

lemma Environment.Mirrors.define (h : env.Mirrors spec) {name : Text} (hname : name.IsName)
    {v w : Value} (hvw : Value.Alike v w) :
    (env.define name v).Mirrors (spec.define name w) where
  alike other hother := by
    rw [Environment.value?_define, Environment.value?_define]
    split
    · exact .some hvw
    · exact h.alike other hother
  keys entry hentry := by
    rcases List.mem_cons.mp hentry with rfl | hentry
    · exact Or.inl hname
    · exact h.keys entry hentry

/-- A line that prints changes no variable with a name. -/
lemma Environment.IsEcho.value?_eq {env' : Environment} (h : env.IsEcho env') {name : Text}
    (hname : name.IsName) : env'.value? name = env.value? name := by
  rcases h with rfl | ⟨key, value, hkey, rfl⟩
  · rfl
  · have hne : name ≠ key := by
      rintro rfl
      have hparen : '(' ∈ name := hkey.subset (by decide)
      exact hname.isTerm.not_mem (by decide) hparen
    rw [Environment.value?_define, if_neg hne]

lemma Environment.Mirrors.echo (h : env.Mirrors spec) {env' : Environment}
    (hecho : env.IsEcho env') : env'.Mirrors spec where
  alike name hname := by
    rw [hecho.value?_eq hname]
    exact h.alike name hname
  keys := by
    rcases hecho with rfl | ⟨key, value, hkey, rfl⟩
    · exact h.keys
    · intro entry hentry
      rcases List.mem_cons.mp hentry with rfl | hentry
      · exact Or.inr hkey
      · exact h.keys entry hentry

/-- Only what begins with a letter or an underscore can be the name of a variable. -/
lemma Environment.Mirrors.value?_eq_none (h : env.Mirrors spec) {t : Text}
    (ht : ∀ c ∈ t.head?, isNameStart c = false) : env.value? t = none := by
  rw [Environment.value?, List.lookup_eq_none_iff]
  intro entry hentry
  rw [bne_iff_ne]
  rintro rfl
  rcases h.keys entry hentry with hname | ⟨rest, hrest⟩
  · cases hkey : entry.1 with
    | nil =>
      rw [hkey] at hname
      exact hname
    | cons c rest =>
      rw [hkey] at hname ht
      exact absurd hname.1 (by simpa using ht c rfl)
  · rw [← hrest] at ht
    exact absurd (ht 'p' rfl) (by decide)

lemma Option.Rel.getD_alike {a b : Option Value} (h : Option.Rel Value.Alike a b) (v : Value) :
    Value.Alike (a.getD v) (b.getD v) := by
  cases h with
  | some h => exact h
  | none => exact .refl v

end

/-! ### Written expressions -/

lemma Number.mem_plain {negative : Bool} {m : Magnitude} {c : Char}
    (h : c ∈ Number.plain (.finite negative m)) : c = '-' ∨ isTermChar c = true := by
  rw [Number.plain_finite] at h
  rcases List.mem_append.mp h with h | h
  · unfold Text.sign at h
    split at h
    · exact Or.inl (List.mem_singleton.mp h)
    · exact absurd h List.not_mem_nil
  · exact Or.inr (m.names_plain.1.isTerm.chars c h)

lemma Number.plain_ne_nil (negative : Bool) (m : Magnitude) :
    Number.plain (.finite negative m) ≠ [] := by
  rw [Number.plain_finite]
  exact List.append_ne_nil_of_right_ne_nil _ m.names_plain.1.isTerm.ne_nil

/-- A number begins neither like a name nor with a quote. -/
lemma Number.head_plain {negative : Bool} {m : Magnitude} {c : Char}
    (h : c ∈ (Number.plain (.finite negative m)).head?) :
    isNameStart c = false ∧ c ≠ '"' := by
  have hhead : c = '-' ∨ c.isDigit = true := by
    rw [Number.plain_finite] at h
    unfold Text.sign at h
    split at h
    · simp at h
      exact Or.inl h.symm
    · obtain ⟨d, rest, hplain, hd⟩ := m.names_plain.1.exists_cons
      rw [hplain] at h
      simp at h
      exact Or.inr (h ▸ hd)
  rcases hhead with rfl | hdigit
  · decide
  · refine ⟨?_, ?_⟩
    · by_contra hstart
      have hnone := isDigit_eq_false_of_isNameStart (by simpa using hstart)
      simp [isDigit_of_isDigit hdigit] at hnone
    · rintro rfl
      exact absurd hdigit (by decide)

lemma Number.isTrimmed_plain (negative : Bool) (m : Magnitude) :
    (Number.plain (.finite negative m)).IsTrimmed := by
  apply Text.isTrimmed_of_not_blank
  intro c hc
  rcases Number.mem_plain hc with rfl | hc
  · decide
  · exact isBlank_eq_false_of_isTermChar hc

lemma Expression.IsTerm.isTerm_render {e : Expression} (h : e.IsTerm) : e.render.IsTerm := by
  cases h with
  | number m => exact m.names_plain.1.isTerm
  | name h => exact h.isTerm

lemma Expression.IsScanned.isTrimmed_render {e : Expression} (h : e.IsScanned) :
    e.render.IsTrimmed := by
  cases h with
  | number negative m => exact Number.isTrimmed_plain negative m
  | string h => exact Text.isTrimmed_inScript _
  | name h => exact h.isTerm.isTrimmed
  | operation hleft op hright => exact Text.isTrimmed_cons_append (by decide) (by decide) _

lemma Expression.IsScanned.render_ne_nil {e : Expression} (h : e.IsScanned) : e.render ≠ [] := by
  cases h with
  | number negative m => exact Number.plain_ne_nil negative m
  | string h => exact List.cons_ne_nil _ _
  | name h => exact h.isTerm.ne_nil
  | operation hleft op hright => exact List.cons_ne_nil _ _

lemma Expression.IsScanned.newline_not_mem {e : Expression} (h : e.IsScanned) :
    '\n' ∉ e.render := by
  intro hmem
  cases h with
  | number negative m =>
    rcases Number.mem_plain hmem with h | h
    · exact absurd h (by decide)
    · exact absurd h (by decide)
  | string h =>
    rcases Text.mem_inScript hmem with hquote | hmem
    · exact absurd hquote (by decide)
    · exact h hmem
  | name h => exact h.isTerm.not_mem (by decide) hmem
  | operation hleft op hright =>
    have hl := hleft.isTerm_render.not_mem (show isTermChar '\n' = false by decide)
    have hr := hright.isTerm_render.not_mem (show isTermChar '\n' = false by decide)
    have hop : '\n' ≠ op.symbol := by cases op <;> decide
    simp [Expression.render, hl, hr, hop] at hmem

/-! ### Reading back what was written -/

section

variable {env spec : Environment}

/-- An operand is read as the value that it has on the tree. -/
lemma Expression.IsTerm.operand_render {e : Expression} (he : e.IsTerm) (h : env.Mirrors spec)
    (default : Number) : Value.Alike (env.operand e.render default)
      (e.value spec fun t => (spec.value? t).getD (.number default)) := by
  cases he with
  | number m =>
    rw [Expression.render, Environment.operand_plain]
    exact .refl _
  | name hname =>
    rw [Expression.render, Environment.operand_name hname]
    exact Option.Rel.getD_alike (h.alike _ hname) _

/-- An operation is read as the value that it has on the tree. -/
lemma Expression.evaluate_operation {left right : Expression} (hleft : left.IsTerm)
    (hright : right.IsTerm) (op : Operator) (h : env.Mirrors spec) (lone : Text → Value) :
    Value.Alike (env.evaluate (Expression.binary left op right).render)
      ((Expression.binary left op right).value spec lone) := by
  rw [Expression.render, Environment.evaluate_operation hleft.isTerm_render hright.isTerm_render,
    Expression.value]
  exact op.apply_alike (hleft.operand_render h _) (hright.operand_render h _)

/-- What is declared is read as the value that it has on the tree. -/
lemma Expression.IsScanned.evaluate_render {e : Expression} (he : e.IsScanned)
    (hinert : ∀ t, e = .string t → t.IsInert) (h : env.Mirrors spec) :
    Value.Alike (env.evaluate e.render) (e.value spec Value.text) := by
  cases he with
  | number negative m => exact Environment.evaluate_plain (h.value?_eq_none (by simp)) negative m
  | string =>
    rw [Expression.render, Environment.evaluate_inScript (hinert _ rfl)]
    exact .refl _
  | name hname =>
    rw [Expression.render, Environment.evaluate_name hname]
    exact .refl _
  | operation hleft op hright => exact Expression.evaluate_operation hleft hright op h _

/-- What is printed is printed as it is on the tree. -/
lemma Expression.IsScanned.printed_render {e : Expression} (he : e.IsScanned)
    (h : env.Mirrors spec) : env.printed e.render =
      (e.value spec fun t => (spec.value? t).getD (.text t)).render := by
  cases he with
  | number negative m =>
    have hnone : env.value? (Number.plain (.finite negative m)) = none :=
      h.value?_eq_none fun c hc => (Number.head_plain hc).1
    have hquoted : Text.isQuoted (Number.plain (.finite negative m)) = false := by
      obtain ⟨c, rest, hplain⟩ := List.exists_cons_of_ne_nil (Number.plain_ne_nil negative m)
      rw [hplain]
      exact Text.isQuoted_cons_of_ne (Number.head_plain (by rw [hplain]; rfl)).2 rest
    have hvalue := (Environment.evaluate_plain (h.value?_eq_none (by simp)) negative m).render_eq
    rw [Expression.render, Environment.printed_of_not_isQuoted hnone hquoted]
    split
    · exact hvalue
    · rfl
  | string =>
    rw [Expression.render, Environment.printed_inScript]
    · rfl
    · exact h.value?_eq_none fun c hc => by
        cases hc
        decide
  | name hname =>
    rw [Expression.render, Environment.printed_name hname]
    exact (Option.Rel.getD_alike (h.alike _ hname) _).render_eq
  | @operation left right hleft op hright =>
    have hnone : env.value? (Expression.binary left op right).render = none :=
      h.value?_eq_none fun c hc => by
        cases hc
        decide
    have hquoted : Text.isQuoted (Expression.binary left op right).render = false :=
      Text.isQuoted_cons_of_ne (by decide) _
    have hmem : op.symbol ∈ left.render ++ [' '] ++ op.symbol :: ' ' :: right.render := by simp
    obtain ⟨found, hfound⟩ := Operator.exists_findIn? hmem (isOperator_symbol op)
    have hfind : (Operator.findIn?
        (Text.dropParentheses (Expression.binary left op right).render)).isSome = true := by
      rw [Expression.render, hleft.isTerm_render.dropParentheses_operation
        hright.isTerm_render, hfound]
      rfl
    rw [Environment.printed_of_not_isQuoted hnone hquoted, if_pos hfind]
    exact (Expression.evaluate_operation hleft hright op h _).render_eq

end

/-! ### Statements in step -/

/-- A trace is in step with a run: it has printed the same, and so have the variables the same
values. -/
structure Trace.Mirrors (trace spec : Trace) : Prop where
  printed : trace.printed = spec.printed
  env : trace.env.Mirrors spec.env

lemma Trace.mirrors_start : Trace.Mirrors ⟨[], []⟩ ⟨[], []⟩ := ⟨rfl, Environment.mirrors_nil⟩

/-- The line of a statement is traced as the statement is run. -/
lemma Statement.afterLine_render {trace spec : Trace} (h : trace.Mirrors spec) {s : Statement}
    (hflat : s.IsFlat) (hinert : s.DeclaresInert) (hscanned : s.value.IsScanned) (number : Nat) :
    ∃ trace', trace.afterLine number (s.render 0) = .ok trace' ∧
      trace'.Mirrors (s.run spec) := by
  cases s with
  | declaration name value line =>
    change value.IsScanned at hscanned
    refine ⟨_, Trace.afterLine_declaration trace number hflat.1 hscanned.isTrimmed_render
      hscanned.render_ne_nil, h.printed, ?_⟩
    exact h.env.define hflat.1 (hscanned.evaluate_render hinert h.env)
  | printing value line =>
    change value.IsScanned at hscanned
    have henv := h.env.echo (Environment.isEcho_echo _ value.render)
    refine ⟨_, Trace.afterLine_printing trace number hscanned.isTrimmed_render, ?_, henv⟩
    rw [hscanned.printed_render henv, h.printed]
    rfl

/-- The lines of a program are traced as the program is run. -/
lemma Trace.afterLines_render {p : Program}
    (hp : ∀ s ∈ p, s.IsFlat ∧ s.DeclaresInert ∧ s.value.IsScanned) {trace spec : Trace}
    (h : trace.Mirrors spec) (number : Nat) : ∃ trace',
      trace.afterLines ((p.map (Statement.render 0)).zipIdx number) = .ok trace' ∧
        trace'.Mirrors (p.foldl Statement.run spec) := by
  induction p generalizing trace spec number with
  | nil => exact ⟨trace, rfl, h⟩
  | cons s p ih =>
    rw [List.forall_mem_cons] at hp
    obtain ⟨next, hline, hnext⟩ := Statement.afterLine_render h hp.1.1 hp.1.2.1 hp.1.2.2 number
    obtain ⟨last, hlines, hlast⟩ := ih hp.2 hnext (number + 1)
    refine ⟨last, ?_, hlast⟩
    rw [List.map_cons, List.zipIdx_cons, Trace.afterLines]
    simp only [hline]
    exact hlines

lemma Statement.newline_not_mem_render {s : Statement} (hflat : s.IsFlat)
    (hscanned : s.value.IsScanned) : '\n' ∉ s.render 0 := by
  have hvalue := hscanned.newline_not_mem
  cases s with
  | declaration name value line =>
    have hname := hflat.1.isTerm.not_mem (show isTermChar '\n' = false by decide)
    change '\n' ∉ name ++ [' ', '=', ' '] ++ value.render
    change '\n' ∉ value.render at hvalue
    simp [hname, hvalue]
  | printing value line =>
    change '\n' ∉ Text.printStart ++ value.render ++ [')']
    change '\n' ∉ value.render at hvalue
    simp [hvalue]

/-- The preview of a script passes over its header and the empty line behind it. -/
lemma Trace.ofScript_standard {p : Program} (hp : ∀ s ∈ p, '\n' ∉ Statement.render 0 s) :
    Trace.ofScript (p.script Settings.standard) =
      Trace.afterLines ⟨[], []⟩ ((p.map (Statement.render 0)).zipIdx 4) := by
  have hlines : p.scriptLines Settings.standard =
      ("#!/usr/bin/env python3" : Text) :: ("# Generated from EBPL" : Text) :: [] ::
        p.map (Statement.render 0) := rfl
  rw [Trace.ofScript, Program.script, hlines, Text.splitAt_join (List.cons_ne_nil _ _)]
  · simp only [List.zipIdx_cons, Trace.afterLines]
    rw [Trace.afterLine_idle _ _ (by decide)]
    simp only
    rw [Trace.afterLine_idle _ _ (by decide)]
    simp only
    rw [Trace.afterLine_idle _ _ (by decide)]
  · intro line hline
    simp only [List.mem_cons, List.mem_map] at hline
    rcases hline with rfl | rfl | rfl | ⟨s, hs, rfl⟩
    · decide
    · decide
    · exact List.not_mem_nil
    · exact hp s hs

/-- A compilation with the standard settings shows the preview of its script. -/
lemma compile_standard {source : Text} {p : Program} (h : Program.parse source = .ok p) :
    (compile Settings.standard source).outcome =
      .compiled (Token.listing Settings.standard.tokenPadWidth (Token.scan source))
        (p.script Settings.standard) (Preview.ofScript (p.script Settings.standard)).output
        (Preview.ofScript (p.script Settings.standard)).report := (compile_of_ok h).1

/-- A compilation with the standard settings shows the trace of its statements. -/
lemma compile_of_trace {source : Text} {p : Program} {trace : Trace}
    (h : Program.parse source = .ok p) (hp : ∀ s ∈ p, '\n' ∉ Statement.render 0 s)
    (htrace : Trace.afterLines ⟨[], []⟩ ((p.map (Statement.render 0)).zipIdx 4) = .ok trace) :
    (compile Settings.standard source).outcome =
      .compiled (Token.listing Settings.standard.tokenPadWidth (Token.scan source))
        (p.script Settings.standard) (Text.join ['\n'] trace.lines) [] := by
  rw [← Trace.ofScript_standard hp] at htrace
  have hpreview : Preview.ofScript (p.script Settings.standard) =
      ⟨trace.lines, [], trace.env⟩ := by
    rw [Preview.ofScript, htrace]
  rw [compile_standard h, hpreview]
  rfl

/-- The preview of a program with flat expressions never fails, and it prints what the program
prints when it is run on its tree. -/
theorem compile_output_eq_run {source : Text} {p : Program} (h : Program.parse source = .ok p)
    (hflat : ∀ s ∈ p, s.IsFlat) (hinert : ∀ s ∈ p, s.DeclaresInert) :
    ∃ listing, (compile Settings.standard source).outcome =
      .compiled listing (p.script Settings.standard) (Text.join ['\n'] p.run.lines) [] := by
  have hscanned (s : Statement) (hs : s ∈ p) : s.value.IsScanned :=
    Program.isScanned_of_parse h hs (hflat s hs).value
  have hnewline (s : Statement) (hs : s ∈ p) : '\n' ∉ s.render 0 :=
    Statement.newline_not_mem_render (hflat s hs) (hscanned s hs)
  obtain ⟨trace, htrace, hmirrors⟩ := Trace.afterLines_render
    (fun s hs => ⟨hflat s hs, hinert s hs, hscanned s hs⟩) Trace.mirrors_start 4
  have hrun : trace.lines = p.run.lines := congrArg List.reverse hmirrors.printed
  exact ⟨_, hrun ▸ compile_of_trace h hnewline htrace⟩

/-- A source text whose printed string looks like an assignment of an operation. -/
def flatSource : Text :=
  "create variable x with value -2.5\ncreate variable word with value \"a=b # c\"\n" ++
  "create variable y with value x\nprint \"x = (1 + 2)\"\nprint x * 4\nprint word + 4\n" ++
  "print y\nprint nothing / 4\n"

/-- The program of the source text: minus two and a half, and four, by their ranks. -/
def flatProgram : Program :=
  let four : Expression := .number (.finite false ⟨4616189618054758400, by decide⟩)
  [.declaration "x" (.number (.finite true ⟨4612811918334230528, by decide⟩)) 1,
    .declaration "word" (.string "a=b # c") 2, .declaration "y" (.name "x") 3,
    .printing (.string "x = (1 + 2)") 4, .printing (.binary (.name "x") .times four) 5,
    .printing (.binary (.name "word") .plus four) 6, .printing (.name "y") 7,
    .printing (.binary (.name "nothing") .over four) 8]

theorem compile_output_flatSource :
    Program.parse flatSource = .ok flatProgram ∧ (∀ s ∈ flatProgram, s.IsFlat) ∧
      (∀ s ∈ flatProgram, s.DeclaresInert) ∧
      ∃ listing, (compile Settings.standard flatSource).outcome =
        .compiled listing (flatProgram.script Settings.standard)
          "x = (1 + 2)\n-10\na=b # c4\nx\n0" [] := by
  have hparse : Program.parse flatSource = .ok flatProgram := by decide +kernel
  have hname {c : Char} {rest : Text} (hc : isNameStart c = true)
      (hrest : rest.all isNameChar = true) : Text.IsName (c :: rest) :=
    ⟨hc, List.all_eq_true.mp hrest⟩
  have hfour := Expression.IsOperand.number false ⟨4616189618054758400, by decide⟩
  have hflat : ∀ s ∈ flatProgram, s.IsFlat := by
    simp only [flatProgram, List.forall_mem_cons]
    exact ⟨⟨hname rfl rfl, .operand (.number _ _)⟩, ⟨hname rfl rfl, .operand (.string _)⟩,
      ⟨hname rfl rfl, .operand (.name (hname rfl rfl))⟩, .operand (.string _),
      .operation (.name (hname rfl rfl)) _ hfour, .operation (.name (hname rfl rfl)) _ hfour,
      .operand (.name (hname rfl rfl)), .operation (.name (hname rfl rfl)) _ hfour,
      List.forall_mem_nil _⟩
  have hword : Text.IsInert "a=b # c" := Text.isInert_of_all (by decide)
  have hinert : ∀ s ∈ flatProgram, s.DeclaresInert := by
    simp only [flatProgram, List.forall_mem_cons]
    exact ⟨nofun, fun t ht => Expression.string.inj ht ▸ hword, nofun, trivial, trivial, trivial,
      trivial, trivial, List.forall_mem_nil _⟩
  have hlines : Text.join ['\n'] flatProgram.run.lines =
      ("x = (1 + 2)\n-10\na=b # c4\nx\n0" : Text) := by decide +kernel
  exact ⟨hparse, hflat, hinert, hlines ▸ compile_output_eq_run hparse hflat hinert⟩

end PlainEnglish
