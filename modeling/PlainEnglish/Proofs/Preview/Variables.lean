import PlainEnglish.Proofs.Preview.Refine
import PlainEnglish.Proofs.Preview.Statement

/-!
# Variables of a preview

Which variables there are behind the lines of a program whose declared names are names. A line
that prints is an assignment too if there is an equals sign in it, but what it assigns to begins
like the line itself. No value depends on such a variable, because parentheses are taken away
before operands are looked up.

Main statements: `Environment.mem_keys_afterProgram`, `Environment.Agrees.afterProgram`.
-/

namespace PlainEnglish

/-! ### Variables as a table -/

section

variable {env : Environment} {key : Text}

lemma Environment.mem_keys_iff : key ∈ env.map Prod.fst ↔
    ∃ value, env.value? key = some value := by
  rw [← Option.isSome_iff_exists, Environment.value?, List.lookup_isSome_iff]
  simp

/-- The variables with their values, as they are shown, are those that can be looked up. -/
lemma Environment.mem_variables_iff {value : Value} :
    (key, value) ∈ env.variables ↔ env.value? key = some value := by
  simp only [Environment.variables, List.mem_filterMap, List.mem_mergeSort, List.mem_eraseDups,
    Option.map_eq_some_iff, Prod.mk.injEq]
  constructor
  · rintro ⟨name, -, v, hvalue, rfl, rfl⟩
    exact hvalue
  · intro hvalue
    exact ⟨key, Environment.mem_keys_iff.mpr ⟨value, hvalue⟩, value, hvalue, rfl, rfl⟩

lemma Environment.mem_map_fst_variables_iff :
    key ∈ env.variables.map Prod.fst ↔ key ∈ env.map Prod.fst := by
  rw [@Environment.mem_keys_iff env, List.mem_map]
  simp [Environment.mem_variables_iff]

end

/-! ### Statements -/

/-- A statement that declares a name, if it declares anything. -/
def Statement.DeclaresName : Statement → Prop
  | .declaration name _ _ => name.IsName
  | .printing _ _ => True

/-- Whether a statement is a declaration. -/
def Statement.isDeclaration : Statement → Bool
  | .declaration _ _ _ => true
  | .printing _ _ => false

/-- What the line of a statement assigns to. -/
def Statement.target? : Statement → Option Text
  | .declaration name _ _ => some name
  | .printing value _ =>
    if '=' ∈ value.render then
      some (Text.printStart ++ Text.trimEnd (value.render.takeWhile (· ≠ '=')))
    else none

/-- The variables after the line of a statement. -/
def Environment.afterStatement (env : Environment) : Statement → Environment
  | .declaration name value _ => env.define name (env.evaluate value.render)
  | .printing value _ => env.echo value.render

/-- The variables after the lines of a program. -/
def Environment.afterProgram (env : Environment) (p : Program) : Environment :=
  p.foldl Environment.afterStatement env

lemma Trace.afterLine_afterStatement {s : Statement} (h : s.FitsLine) (hname : s.DeclaresName)
    (trace : Trace) (number : Nat) : ∃ printed,
      trace.afterLine number (s.render 0) = .ok ⟨printed, trace.env.afterStatement s⟩ := by
  cases s with
  | declaration name value line =>
    exact ⟨_, Trace.afterLine_declaration trace number hname h.2.isTrimmed h.2.ne_nil⟩
  | printing value line =>
    exact ⟨_, Trace.afterLine_printing trace number (Text.FitsLine.isTrimmed h)⟩

/-- The preview of a program with names never fails, and the variables are those that its lines
assign. -/
lemma Trace.afterLines_afterProgram {p : Program} (hp : ∀ s ∈ p, s.FitsLine)
    (hnames : ∀ s ∈ p, s.DeclaresName) (trace : Trace) (number : Nat) : ∃ printed,
      trace.afterLines ((p.map (Statement.render 0)).zipIdx number) =
        .ok ⟨printed, trace.env.afterProgram p⟩ := by
  induction p generalizing trace number with
  | nil => exact ⟨_, rfl⟩
  | cons s p ih =>
    rw [List.forall_mem_cons] at hp hnames
    obtain ⟨printed, hline⟩ := Trace.afterLine_afterStatement hp.1 hnames.1 trace number
    rw [List.map_cons, List.zipIdx_cons, Trace.afterLines]
    simp only [hline]
    exact ih hp.2 hnames.2 _ _

/-! ### Names of variables -/

lemma Environment.mem_keys_afterStatement {env : Environment} {s : Statement} {key : Text} :
    key ∈ (env.afterStatement s).map Prod.fst ↔ s.target? = some key ∨
      key ∈ env.map Prod.fst := by
  cases s with
  | declaration name value line =>
    simp [Environment.afterStatement, Environment.define, Statement.target?, eq_comm]
  | printing value line =>
    by_cases heq : '=' ∈ value.render
    · simp [Environment.afterStatement, Environment.echo, Environment.define, Statement.target?,
        heq, eq_comm]
    · simp [Environment.afterStatement, Environment.echo, Statement.target?, heq]

/-- The variables after a program are those before it and those that its lines assign to. -/
theorem Environment.mem_keys_afterProgram {env : Environment} {p : Program} {key : Text} :
    key ∈ (env.afterProgram p).map Prod.fst ↔
      (∃ s ∈ p, s.target? = some key) ∨ key ∈ env.map Prod.fst := by
  induction p generalizing env with
  | nil => simp [Environment.afterProgram]
  | cons s p ih =>
    calc key ∈ ((env.afterStatement s).afterProgram p).map Prod.fst
        ↔ (∃ s ∈ p, s.target? = some key) ∨ key ∈ (env.afterStatement s).map Prod.fst := ih
      _ ↔ (∃ t ∈ s :: p, t.target? = some key) ∨ key ∈ env.map Prod.fst := by
        rw [Environment.mem_keys_afterStatement, List.exists_mem_cons_iff, or_assoc,
          or_left_comm]

/-! ### Values of variables -/

/-- Variables that agree on all names but those that a line which prints can assign to. -/
def Environment.Agrees (env env' : Environment) : Prop :=
  ∀ key : Text, ¬Text.printStart <+: key → env.value? key = env'.value? key

section

variable {env env' : Environment}

lemma Environment.Agrees.operand (h : env.Agrees env') {t : Text} (ht : '(' ∉ t)
    (default : Number) : env.operand t.trim default = env'.operand t.trim default := by
  have hkey : ¬Text.printStart <+: t.trim := by
    intro hstart
    exact ht (Text.mem_of_mem_trim (hstart.subset (by decide)))
  rw [Environment.operand, Environment.operand, h _ hkey]

/-- No expression depends on what a line that prints assigns to. -/
lemma Environment.Agrees.evaluate (h : env.Agrees env') (t : Text) :
    env.evaluate t = env'.evaluate t := by
  have hparen : '(' ∉ Text.dropParentheses t := by
    simp [Text.dropParentheses]
  unfold Environment.evaluate
  simp only
  split
  · next op hop =>
    split
    · next left right rest hsplit =>
      have hpiece {piece : Text} (hmem : piece ∈ left :: right :: rest) : '(' ∉ piece :=
        fun hc => hparen (Text.mem_of_mem_splitAt (hsplit ▸ hmem) hc)
      rw [h.operand (hpiece (by simp)), h.operand (hpiece (by simp))]
    · rfl
  · rfl

lemma Environment.Agrees.define (h : env.Agrees env') (name : Text) {v v' : Value}
    (hv : v = v') :
    (env.define name v).Agrees (env'.define name v') := by
  intro key hkey
  rw [Environment.value?_define, Environment.value?_define, h key hkey, hv]

lemma Environment.Agrees.echo (h : env.Agrees env') (content : Text) :
    (env.echo content).Agrees env' := by
  intro key hkey
  rcases Environment.isEcho_echo env content with hsame | ⟨name, value, hname, hdefine⟩
  · rw [hsame, h key hkey]
  · have hne : key ≠ name := by
      rintro rfl
      exact hkey hname
    rw [hdefine, Environment.value?_define, if_neg hne, h key hkey]

/-- The statements of a program that print can be left out. -/
theorem Environment.Agrees.afterProgram (h : env.Agrees env') (p : Program) :
    (env.afterProgram p).Agrees (env'.afterProgram (p.filter Statement.isDeclaration)) := by
  induction p generalizing env env' with
  | nil => exact h
  | cons s p ih =>
    cases s with
    | declaration name value line => exact ih (h.define name (h.evaluate value.render))
    | printing value line => exact ih (h.echo value.render)

end

end PlainEnglish
