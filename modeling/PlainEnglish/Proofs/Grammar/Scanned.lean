import PlainEnglish.Proofs.Grammar.Reading

/-!
# Programs of source texts

A source text is a program, or parsing fails inside one of its lines. There are three ways for it
to fail: the name of a declaration is missing, its value is missing, or an operand is missing.

Main statement: `Program.parse_ok_or_error_in_line`.
-/

namespace PlainEnglish

open Grammar

/-! ### Beginnings of statements -/

/-- The keyword that a statement begins with. -/
def Statement.keyword : Statement → Keyword
  | .declaration _ _ _ => .createWord
  | .printing _ _ => .printWord

/-- The keyword and the line of a token that begins a statement. -/
def Token.start? (t : Token) : Option (Keyword × Int) :=
  match t.kind with
  | .keyword .createWord => some (.createWord, t.line)
  | .keyword .printWord => some (.printWord, t.line)
  | _ => none

namespace Grammar

lemma Primary.start?_token (p : Primary) : p.token.start? = none := by
  rcases p.token_kind with h | h | h <;> simp [Token.start?, h]

lemma Chain.filterMap_start? (c : Chain) : c.tokens.filterMap Token.start? = [] := by
  obtain ⟨first, links⟩ := c
  rw [Chain.tokens, List.filterMap_cons_none first.start?_token]
  induction links with
  | nil => rfl
  | cons l links ih =>
    have hsign : l.sign.val.start? = none := by simp [Token.start?, l.sign.property]
    rw [List.flatMap_cons, Link.tokens, List.cons_append, List.singleton_append,
      List.filterMap_cons_none hsign, List.filterMap_cons_none l.primary.start?_token, ih]

lemma Clause.filterMap_start? (c : Clause) : c.tokens.filterMap Token.start? =
    c.statement?.toList.map fun s => (s.keyword, s.line) := by
  cases c with
  | newline t => simp [Clause.tokens, Clause.statement?, Token.start?, t.property]
  | declaration create variableWord name withWord valueWord chain =>
    simp [Clause.tokens, Clause.statement?, Token.start?, create.property, variableWord.property,
      name.property, withWord.property, valueWord.property, chain.filterMap_start?,
      Statement.keyword, Statement.line]
  | printing print chain =>
    simp [Clause.tokens, Clause.statement?, Token.start?, print.property, chain.filterMap_start?,
      Statement.keyword, Statement.line]

/-- The statements of a derivation stand in the order of the tokens that begin them, and have the
lines of these tokens. -/
lemma Derivation.filterMap_start? (d : Derivation) : d.tokens.filterMap Token.start? =
    d.program.map fun s => (s.keyword, s.line) := by
  induction d with
  | nil => rfl
  | cons c d ih =>
    rw [Derivation.tokens_cons, List.filterMap_append, c.filterMap_start?, ih,
      Derivation.program_cons, List.map_append]

lemma Clause.IsScanned.line_eq {line : Int} {c : Clause} (h : c.IsScanned line) {s : Statement}
    (hs : c.statement? = some s) {t : Token} (ht : t ∈ c.tokens) : t.line = s.line := by
  cases c with
  | newline t => simp [Clause.statement?] at hs
  | declaration create variableWord name withWord valueWord chain =>
    obtain rfl := Option.some.inj hs
    rw [h.onLine t ht, Statement.line, h.onLine create.val (by simp [Clause.tokens])]
  | printing print chain =>
    obtain rfl := Option.some.inj hs
    rw [h.onLine t ht, Statement.line, h.onLine print.val (by simp [Clause.tokens])]

/-! ### Where scanned tokens leave the grammar -/

/-- The three ways to leave the grammar. -/
lemma Stub.StopsAt.wanted_cases {stub : Stub} {kind : Kind} (h : stub.StopsAt kind) :
    (stub.wanted = .kind .identifier ∧ kind = .newline) ∨
    (stub.wanted = .kind (.keyword .withWord) ∧ kind.opensClause = true) ∨
    (stub.wanted = .operand ∧ (kind.isOperator = true ∨ kind.opensClause = true)) := by
  cases stub with
  | started => exact h.elim
  | nameless => exact Or.inl ⟨rfl, h⟩
  | named => exact Or.inr (Or.inl ⟨rfl, h⟩)
  | valueless => exact h.elim
  | declaring => exact Or.inr (Or.inr ⟨rfl, h⟩)
  | printing => exact Or.inr (Or.inr ⟨rfl, h⟩)

lemma Stub.StopsAt.not_mem_kinds {stub : Stub} {kind : Kind} (h : stub.StopsAt kind) :
    kind ∉ stub.wanted.kinds := by
  intro hmem
  rcases h.wanted_cases with ⟨hwanted, rfl⟩ | ⟨hwanted, hkind⟩ | ⟨hwanted, hkind⟩
  · simp [hwanted, Expectation.kinds] at hmem
  · obtain rfl := by simpa [hwanted, Expectation.kinds] using hmem
    simp [Kind.opensClause] at hkind
  · simp only [hwanted, Expectation.kinds, List.mem_cons, List.not_mem_nil, or_false] at hmem
    rcases hmem with rfl | rfl | rfl <;> simp [Kind.isOperator, Kind.opensClause] at hkind

end Grammar

/-- The names of the kinds that begin a statement or end a line. -/
def clauseNames : List Text := ["CREATE", "PRINT", "NEWLINE"]

/-- The names of the operators. -/
def operatorNames : List Text := ["PLUS", "MINUS", "MULTIPLY", "DIVIDE"]

lemma Kind.name_mem_clauseNames {kind : Kind} (h : kind.opensClause = true) :
    kind.name ∈ clauseNames := by
  revert h
  rcases kind with word | _ | _ | _ | op | _ | _
  · cases word <;> decide
  · decide
  · decide
  · decide
  · cases op <;> decide
  · decide
  · decide

lemma Kind.name_mem_operatorNames {kind : Kind} (h : kind.isOperator = true) :
    kind.name ∈ operatorNames := by
  obtain ⟨op, rfl⟩ := Kind.exists_operator_eq h
  cases op <;> decide

/-! ### Parsing -/

/-- Behind lines that leave the grammar nothing is looked at. -/
lemma Program.ofTokens_of_stops {source : Text} {d : Derivation} {stub : Stub} {t : Token}
    {rest : List Token} (h : Token.ofLines source = d.tokens ++ (stub.tokens ++ t :: rest))
    (hstops : stub.StopsAt t.kind) (more : List Token) :
    Program.ofTokens (Token.ofLines source ++ more) =
      .error (.grammar (.unexpected stub.wanted t)) := by
  have hreadable : ∀ u ∈ d.tokens ++ stub.tokens, u.IsReadable := by
    intro u hu
    have hmem : u ∈ Token.ofLines source := by
      rw [h, ← List.append_assoc]
      exact List.mem_append_left _ hu
    exact Token.isReadable_of_mem_ofLines hmem
  rw [h, List.append_assoc, List.append_assoc, List.cons_append]
  exact Program.ofTokens_of_stub hreadable hstops.not_mem_kinds

/-- The derivation of a program, each clause of which is scanned from one line. -/
lemma Program.scanned_of_parse {source : Text} {p : Program} (h : Program.parse source = .ok p) :
    ∃ d : Derivation, d.tokens = Token.ofLines source ∧ d.program = p ∧
      ∀ c ∈ d, ∃ line, c.IsScanned line := by
  cases Token.reading_ofLines source with
  | whole d eq scanned =>
    have hok : Program.parse source = .ok d.program :=
      Program.parse_eq_ok_iff.mpr ⟨d, eq.symm, rfl⟩
    exact ⟨d, eq.symm, Except.ok.inj (hok.symm.trans h), scanned⟩
  | broken d stub t rest eq onLine stops =>
    rw [Program.parse, Token.scan_eq, Program.ofTokens_of_stops eq stops] at h
    cases h

/-- The place at which the tokens of a source text leave the grammar. -/
lemma Program.stops_of_parse {source : Text} {e : ParseError}
    (h : Program.parse source = .error e) :
    ∃ (d : Derivation) (stub : Stub) (t : Token) (rest : List Token),
      Token.ofLines source = d.tokens ++ (stub.tokens ++ t :: rest) ∧
      (∀ u ∈ stub.tokens, u.line = t.line) ∧ stub.StopsAt t.kind ∧
      e = .grammar (.unexpected stub.wanted t) := by
  cases Token.reading_ofLines source with
  | whole d eq scanned =>
    have hok : Program.parse source = .ok d.program :=
      Program.parse_eq_ok_iff.mpr ⟨d, eq.symm, rfl⟩
    rw [hok] at h
    cases h
  | broken d stub t rest eq onLine stops =>
    rw [Program.parse, Token.scan_eq, Program.ofTokens_of_stops eq stops] at h
    exact ⟨d, stub, t, rest, eq, onLine, stops, (Except.error.inj h).symm⟩

/-- A source text is a program whose statements begin with the keywords of its tokens, in order
and on their lines, and each statement is on one line. Or there is a syntax error at a token
behind the beginning of a statement that is on the line of this token: a line ends in place of a
name, a statement begins or a line ends in place of `with`, or an operator, the beginning of a
statement or the end of a line stands in place of an operand. -/
theorem Program.parse_ok_or_error_in_line (source : Text) :
    (∃ (p : Program) (d : Derivation) (finish : Token), Program.parse source = .ok p ∧
      p.map (fun s => (s.keyword, s.line)) = (Token.scan source).filterMap Token.start? ∧
      Token.scan source = d.tokens ++ [finish] ∧ finish.kind = .finish ∧ d.program = p ∧
      ∀ c ∈ d, ∀ s, c.statement? = some s → ∀ t ∈ c.tokens, t.line = s.line) ∨
    ∃ (e : SyntaxError) (d : Derivation) (stub : Stub) (t : Token) (rest : List Token),
      Program.parse source = .error (.grammar e) ∧
      Token.scan source = d.tokens ++ (stub.tokens ++ t :: rest) ∧
      e = .unexpected stub.wanted t ∧ (∀ u ∈ stub.tokens, u.line = t.line) ∧
      ((e.expected = ["IDENTIFIER"] ∧ e.found = some "NEWLINE") ∨
        (e.expected = ["WITH"] ∧
          ∃ name ∈ clauseNames, e.found = some name) ∨
        (e.expected = ["NUMBER", "STRING", "IDENTIFIER"] ∧
          ∃ name ∈ operatorNames ++ clauseNames, e.found = some name)) := by
  cases hparse : Program.parse source with
  | ok p =>
    obtain ⟨d, htokens, rfl, hscanned⟩ := Program.scanned_of_parse hparse
    refine Or.inl ⟨d.program, d, _, rfl, ?_, by rw [Token.scan_eq, htokens], rfl, rfl, ?_⟩
    · rw [Token.scan_eq, List.filterMap_append, ← htokens, d.filterMap_start?]
      simp [Token.start?]
    · intro c hc s hs t ht
      obtain ⟨line, hline⟩ := hscanned c hc
      exact hline.line_eq hs ht
  | error e =>
    obtain ⟨d, stub, t, rest, hlines, honLine, hstops, rfl⟩ := Program.stops_of_parse hparse
    have hscan : Token.scan source = d.tokens ++ (stub.tokens ++ t ::
        (rest ++ [⟨.finish, [], source.lines.length + 1, 1⟩])) := by
      simp [Token.scan_eq, hlines]
    refine Or.inr ⟨_, d, stub, t, _, rfl, hscan, rfl, honLine, ?_⟩
    rcases hstops.wanted_cases with ⟨hwanted, hkind⟩ | ⟨hwanted, hkind⟩ | ⟨hwanted, hkind⟩
    · refine Or.inl ⟨?_, ?_⟩
      · rw [SyntaxError.expected, SyntaxError.wanted, hwanted]
        rfl
      · rw [SyntaxError.found, hkind]
        rfl
    · refine Or.inr (Or.inl ⟨?_, _, Kind.name_mem_clauseNames hkind, rfl⟩)
      rw [SyntaxError.expected, SyntaxError.wanted, hwanted]
      rfl
    · refine Or.inr (Or.inr ⟨?_, _, List.mem_append.mpr ?_, rfl⟩)
      · rw [SyntaxError.expected, SyntaxError.wanted, hwanted]
        rfl
      · exact hkind.imp Kind.name_mem_operatorNames Kind.name_mem_clauseNames

end PlainEnglish
