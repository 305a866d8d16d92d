import PlainEnglish.Proofs.Grammar.Scanned
import PlainEnglish.Proofs.Token.Move

/-!
# Programs of two texts put together

A derivation can be moved down as a whole. So two texts put together are a program if both are,
and otherwise the first one that is none tells why.

Main statement: `Program.parse_append`.
-/

namespace PlainEnglish

/-- The statement that stands the given number of lines further down. -/
def Statement.moveDown (n : Int) : Statement → Statement
  | .declaration name value line => .declaration name value (line + n)
  | .printing value line => .printing value (line + n)

namespace Grammar

/-! ### Trees further down -/

section

variable (n : Int) {kind : Kind}

/-- A token of a kind that stands the given number of lines further down. -/
def moveDown (t : Token.OfKind kind) : Token.OfKind kind := ⟨t.val.moveDown n, t.property⟩

@[simp] lemma val_moveDown (t : Token.OfKind kind) : (moveDown n t).val = t.val.moveDown n := rfl

def Primary.moveDown : Primary → Primary
  | .number t => .number (Grammar.moveDown n t)
  | .string t => .string (Grammar.moveDown n t)
  | .name t => .name (Grammar.moveDown n t)

@[simp] lemma Primary.token_moveDown (p : Primary) :
    (p.moveDown n).token = p.token.moveDown n := by
  cases p <;> rfl

@[simp] lemma Primary.expression_moveDown (p : Primary) :
    (p.moveDown n).expression = p.expression := by
  cases p <;> rfl

def Link.moveDown (l : Link) : Link := ⟨l.op, Grammar.moveDown n l.sign, l.primary.moveDown n⟩

@[simp] lemma Link.tokens_moveDown (l : Link) :
    (l.moveDown n).tokens = l.tokens.map (Token.moveDown n) := by
  simp [Link.tokens, Link.moveDown]

@[simp] lemma Link.extend_moveDown (left : Expression) (l : Link) :
    Link.extend left (l.moveDown n) = Link.extend left l := by
  simp [Link.extend, Link.moveDown]

def Chain.moveDown (c : Chain) : Chain := ⟨c.first.moveDown n, c.links.map (Link.moveDown n)⟩

@[simp] lemma Chain.tokens_moveDown (c : Chain) :
    (c.moveDown n).tokens = c.tokens.map (Token.moveDown n) := by
  simp [Chain.tokens, Chain.moveDown, List.flatMap_map, List.map_flatMap]

@[simp] lemma Chain.expression_moveDown (c : Chain) :
    (c.moveDown n).expression = c.expression := by
  simp [Chain.expression, Chain.moveDown, List.foldl_map]

def Clause.moveDown : Clause → Clause
  | .newline t => .newline (Grammar.moveDown n t)
  | .declaration create variableWord name withWord valueWord chain =>
    .declaration (Grammar.moveDown n create) (Grammar.moveDown n variableWord)
      (Grammar.moveDown n name) (Grammar.moveDown n withWord) (Grammar.moveDown n valueWord)
      (chain.moveDown n)
  | .printing print chain => .printing (Grammar.moveDown n print) (chain.moveDown n)

@[simp] lemma Clause.tokens_moveDown (c : Clause) :
    (c.moveDown n).tokens = c.tokens.map (Token.moveDown n) := by
  cases c <;> simp [Clause.tokens, Clause.moveDown]

@[simp] lemma Clause.statement?_moveDown (c : Clause) :
    (c.moveDown n).statement? = c.statement?.map (Statement.moveDown n) := by
  cases c <;> simp [Clause.statement?, Clause.moveDown, Statement.moveDown]

def Derivation.moveDown (d : Derivation) : Derivation := d.map (Clause.moveDown n)

@[simp] lemma Derivation.tokens_moveDown (d : Derivation) :
    (d.moveDown n).tokens = d.tokens.map (Token.moveDown n) := by
  simp [Derivation.tokens, Derivation.moveDown, List.flatMap_map, List.map_flatMap]

@[simp] lemma Derivation.program_moveDown (d : Derivation) :
    (d.moveDown n).program = d.program.map (Statement.moveDown n) := by
  simp [Derivation.program, Derivation.moveDown, List.filterMap_map, List.map_filterMap]

def Opening.moveDown : Opening → Opening
  | .empty => .empty
  | .after chain op sign => .after (chain.moveDown n) op (Grammar.moveDown n sign)

@[simp] lemma Opening.tokens_moveDown (o : Opening) :
    (o.moveDown n).tokens = o.tokens.map (Token.moveDown n) := by
  cases o <;> simp [Opening.tokens, Opening.moveDown]

def Stub.moveDown : Stub → Stub
  | .started create => .started (Grammar.moveDown n create)
  | .nameless create variableWord =>
    .nameless (Grammar.moveDown n create) (Grammar.moveDown n variableWord)
  | .named create variableWord name =>
    .named (Grammar.moveDown n create) (Grammar.moveDown n variableWord)
      (Grammar.moveDown n name)
  | .valueless create variableWord name withWord =>
    .valueless (Grammar.moveDown n create) (Grammar.moveDown n variableWord)
      (Grammar.moveDown n name) (Grammar.moveDown n withWord)
  | .declaring create variableWord name withWord valueWord opening =>
    .declaring (Grammar.moveDown n create) (Grammar.moveDown n variableWord)
      (Grammar.moveDown n name) (Grammar.moveDown n withWord) (Grammar.moveDown n valueWord)
      (opening.moveDown n)
  | .printing print opening => .printing (Grammar.moveDown n print) (opening.moveDown n)

@[simp] lemma Stub.tokens_moveDown (s : Stub) :
    (s.moveDown n).tokens = s.tokens.map (Token.moveDown n) := by
  cases s <;> simp [Stub.tokens, Stub.moveDown]

@[simp] lemma Stub.wanted_moveDown (s : Stub) : (s.moveDown n).wanted = s.wanted := by
  cases s <;> rfl

lemma Stub.StopsAt.moveDown {s : Stub} (h : s.StopsAt kind) : (s.moveDown n).StopsAt kind := by
  cases s <;> exact h

end

end Grammar

open Grammar

/-! ### Parsing -/

section

variable {s : Text} (hs : s.EndsLine) {t : Text}
  (h : ¬(s.getLast? = some '\r' ∧ t.head? = some '\n'))

include hs h

lemma Program.parse_append_of_error {e : ParseError} (he : Program.parse s = .error e) :
    Program.parse (s ++ t) = .error e := by
  obtain ⟨d, stub, u, rest, hlines, -, hstops, rfl⟩ := Program.stops_of_parse he
  rw [Program.parse, Token.scan_eq, Token.ofLines_append hs t h, List.append_assoc]
  exact Program.ofTokens_of_stops hlines hstops _

lemma Program.parse_append_of_ok_of_error {p : Program} {e : ParseError}
    (hp : Program.parse s = .ok p) (he : Program.parse t = .error e) :
    ∃ (wanted : Expectation) (token : Token), e = .grammar (.unexpected wanted token) ∧
      Program.parse (s ++ t) =
        .error (.grammar (.unexpected wanted (token.moveDown s.lines.length))) := by
  obtain ⟨d, hd, -⟩ := Program.parse_eq_ok_iff.mp hp
  obtain ⟨d', stub, u, rest, hlines, -, hstops, rfl⟩ := Program.stops_of_parse he
  have hmoved : Token.ofLines (s ++ t) =
      (d ++ d'.moveDown s.lines.length : Derivation).tokens ++
        ((stub.moveDown s.lines.length).tokens ++ u.moveDown s.lines.length ::
          rest.map (Token.moveDown s.lines.length)) := by
    rw [Token.ofLines_append hs t h, hlines, ← hd, Derivation.tokens_append]
    simp
  have hstops' : (stub.moveDown s.lines.length).StopsAt (u.moveDown s.lines.length).kind :=
    hstops.moveDown _
  refine ⟨stub.wanted, u, rfl, ?_⟩
  rw [Program.parse, Token.scan_eq, Program.ofTokens_of_stops hmoved hstops',
    Stub.wanted_moveDown]

lemma Program.parse_append_of_ok {p q : Program} (hp : Program.parse s = .ok p)
    (hq : Program.parse t = .ok q) :
    Program.parse (s ++ t) = .ok (p ++ q.map (Statement.moveDown s.lines.length)) := by
  obtain ⟨d, hd, rfl⟩ := Program.parse_eq_ok_iff.mp hp
  obtain ⟨e, he, rfl⟩ := Program.parse_eq_ok_iff.mp hq
  rw [Program.parse_eq_ok_iff]
  refine ⟨d ++ e.moveDown s.lines.length, ?_, ?_⟩
  · rw [Derivation.tokens_append, Derivation.tokens_moveDown, hd, he,
      Token.ofLines_append hs t h]
  · rw [Derivation.program_append, Derivation.program_moveDown]

end

/-- A text that is empty or ends with a line break, and another one, unless a return and a
newline meet, are scanned and parsed one after the other. The second one is moved down by the
lines of the first one, and a syntax error in the first one does not depend on the second one. -/
theorem Program.parse_append {s t : Text} (hs : s.EndsLine)
    (h : ¬(s.getLast? = some '\r' ∧ t.head? = some '\n')) :
    Token.scan (s ++ t) =
      (Token.scan s).dropLast ++ (Token.scan t).map (Token.moveDown s.lines.length) ∧
    (∀ e, Program.parse s = .error e → Program.parse (s ++ t) = .error e) ∧
    (∀ p e, Program.parse s = .ok p → Program.parse t = .error e →
      ∃ (wanted : Expectation) (token : Token), e = .grammar (.unexpected wanted token) ∧
        Program.parse (s ++ t) =
          .error (.grammar (.unexpected wanted (token.moveDown s.lines.length)))) ∧
    (∀ p q, Program.parse s = .ok p → Program.parse t = .ok q →
      Program.parse (s ++ t) = .ok (p ++ q.map (Statement.moveDown s.lines.length))) :=
  ⟨Token.scan_append hs t h, fun _ => Program.parse_append_of_error hs h,
    fun _ _ => Program.parse_append_of_ok_of_error hs h, fun _ _ =>
    Program.parse_append_of_ok hs h⟩

/-- A line with a program on it. -/
def wholeLine : Text := "print y\r\n"

/-- An empty line and a line that is broken off. -/
def brokenLines : Text := "\nprint x +\n"

theorem Program.parse_append_brokenLines :
    wholeLine.EndsLine ∧ ¬(wholeLine.getLast? = some '\r' ∧ brokenLines.head? = some '\n') ∧
    Program.parse (wholeLine ++ brokenLines) =
      .error (.grammar (.unexpected .operand ⟨.newline, "\n", 3, 10⟩)) := by
  have hs : wholeLine.EndsLine := Text.endsLine_of_getLast? rfl (by decide)
  have h : ¬(wholeLine.getLast? = some '\r' ∧ brokenLines.head? = some '\n') := by decide
  have hp : Program.parse wholeLine = .ok [.printing (.name "y") 1] := by decide +kernel
  have he : Program.parse brokenLines =
      .error (.grammar (.unexpected .operand ⟨.newline, "\n", 2, 10⟩)) := by decide +kernel
  obtain ⟨wanted, token, heq, hparse⟩ := (Program.parse_append hs h).2.2.1 _ _ hp he
  obtain ⟨rfl, rfl⟩ := SyntaxError.unexpected.inj (ParseError.grammar.inj heq)
  exact ⟨hs, h, hparse⟩

end PlainEnglish
