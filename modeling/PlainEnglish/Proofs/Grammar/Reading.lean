import PlainEnglish.Proofs.Grammar.Failure
import PlainEnglish.Proofs.Text.Phrase
import PlainEnglish.Proofs.Token.Fragment
import PlainEnglish.Proofs.Token.Scan

/-!
# How scanned lines read

The tokens of a line are whole statements and a newline, or they leave the grammar inside the
line: behind the beginning of a statement stands a token that cannot come next. There are few
such places, because scanning begins a declaration with two keywords at once and lets operands
and operators alternate.

Main statement: `Token.reading_ofLines`.
-/

namespace PlainEnglish

/-- Whether a token of a kind begins a statement or ends a line. -/
def Kind.opensClause : Kind → Bool
  | .keyword .createWord | .keyword .printWord | .newline => true
  | _ => false

lemma Kind.exists_operator_eq {kind : Kind} (h : kind.isOperator = true) :
    ∃ op, kind = .operator op := by
  cases kind with
  | operator op => exact ⟨op, rfl⟩
  | keyword word => simp [Kind.isOperator] at h
  | identifier => simp [Kind.isOperator] at h
  | number => simp [Kind.isOperator] at h
  | string => simp [Kind.isOperator] at h
  | newline => simp [Kind.isOperator] at h
  | finish => simp [Kind.isOperator] at h

namespace Grammar

/-! ### Rows of operators and operands -/

/-- An operand and an operator in front of an expression. -/
def Chain.prepend (p : Primary) {op : Operator} (sign : Token.OfKind (.operator op))
    (c : Chain) : Chain := ⟨p, ⟨op, sign, c.first⟩ :: c.links⟩

@[simp] lemma Chain.tokens_prepend (p : Primary) {op : Operator}
    (sign : Token.OfKind (.operator op)) (c : Chain) :
    (c.prepend p sign).tokens = p.token :: sign.val :: c.tokens := rfl

def Opening.prepend (p : Primary) {op : Operator} (sign : Token.OfKind (.operator op)) :
    Opening → Opening
  | .empty => .after ⟨p, []⟩ op sign
  | .after chain op' sign' => .after (chain.prepend p sign) op' sign'

@[simp] lemma Opening.tokens_prepend (p : Primary) {op : Operator}
    (sign : Token.OfKind (.operator op)) (o : Opening) :
    (o.prepend p sign).tokens = p.token :: sign.val :: o.tokens := by
  cases o <;> rfl

lemma Primary.exists_token_eq {t : Token} (h : t.kind.isOperand = true) :
    ∃ p : Primary, p.token = t := by
  cases hkind : t.kind with
  | number => exact ⟨.number ⟨t, hkind⟩, rfl⟩
  | string => exact ⟨.string ⟨t, hkind⟩, rfl⟩
  | identifier => exact ⟨.name ⟨t, hkind⟩, rfl⟩
  | keyword word => simp [hkind, Kind.isOperand] at h
  | operator op => simp [hkind, Kind.isOperand] at h
  | newline => simp [hkind, Kind.isOperand] at h
  | finish => simp [hkind, Kind.isOperand] at h

/-- Operators and operands in which no two operands are neighbours are an expression, or an
operand is missing: in front of one of the operators, or at the end. -/
lemma chain_or_opening {row : List Token} {t : Token} (rest : List Token)
    (hkinds : ∀ u ∈ row, u.kind.isOperator = true ∨ u.kind.isOperand = true)
    (halternate : row.IsChain Token.Alternate) (ht : t.kind.opensClause = true) :
    (∃ c : Chain, c.tokens = row) ∨ ∃ (o : Opening) (u : Token) (more : List Token),
      row ++ t :: rest = o.tokens ++ u :: more ∧
        (u.kind.isOperator = true ∨ u.kind.opensClause = true) := by
  -- an operand and the operator behind it are taken away together
  induction row using List.twoStepInduction with
  | nil => exact Or.inr ⟨.empty, t, rest, rfl, Or.inr ht⟩
  | singleton u =>
    rcases hkinds u (by simp) with hop | hoperand
    · exact Or.inr ⟨.empty, u, t :: rest, rfl, Or.inl hop⟩
    · obtain ⟨p, rfl⟩ := Primary.exists_token_eq hoperand
      exact Or.inl ⟨⟨p, []⟩, rfl⟩
  | cons_cons u v row ih =>
    rcases hkinds u (by simp) with hop | hoperand
    · exact Or.inr ⟨.empty, u, v :: row ++ t :: rest, rfl, Or.inl hop⟩
    · have hv : v.kind.isOperator = true := by
        rcases (List.isChain_cons_cons.mp halternate).1 with hop | hop
        · simp [Kind.isOperand_eq_false_of_isOperator hop] at hoperand
        · exact hop
      obtain ⟨p, rfl⟩ := Primary.exists_token_eq hoperand
      obtain ⟨op, hop⟩ := Kind.exists_operator_eq hv
      let sign : Token.OfKind (.operator op) := ⟨v, hop⟩
      rcases ih (fun w hw => hkinds w (by simp [hw])) halternate.tail.tail with
        ⟨c, hc⟩ | ⟨o, w, more, ho, hw⟩
      · exact Or.inl ⟨c.prepend p sign, by rw [Chain.tokens_prepend, hc]⟩
      · refine Or.inr ⟨o.prepend p sign, w, more, ?_, hw⟩
        rw [Opening.tokens_prepend, List.cons_append, List.cons_append, ho]
        rfl

/-! ### Readings -/

/-- Whether the name and the value of a clause are scanned from words of a line. -/
def Clause.IsSpelled (line : Int) : Clause → Prop
  | .newline _ => True
  | .declaration _ _ name _ _ chain => name.val.text.IsWord ∧ ∃ (column : Int) (text : Text),
    text.IsValuePhrase ∧ chain.tokens = Token.ofValue line column text
  | .printing _ chain => ∃ (column : Int) (text : Text),
    text.IsPhrase ∧ chain.tokens = Token.ofContent line column text

/-- A clause that is scanned from one line. -/
structure Clause.IsScanned (line : Int) (c : Clause) : Prop where
  onLine : ∀ t ∈ c.tokens, t.line = line
  spelled : c.IsSpelled line

/-- Whether the beginning of a statement may be followed by a token of a kind that does not go on
with it. -/
def Stub.StopsAt (kind : Kind) : Stub → Prop
  | .started _ => False
  | .nameless _ _ => kind = .newline
  | .named _ _ _ => kind.opensClause = true
  | .valueless _ _ _ _ => False
  | .declaring _ _ _ _ _ _ => kind.isOperator = true ∨ kind.opensClause = true
  | .printing _ _ => kind.isOperator = true ∨ kind.opensClause = true

/-- How a row of tokens reads: as a whole, or up to a token that leaves the grammar. -/
inductive Reading (tokens : List Token) : Prop where
  | whole (d : Derivation) (eq : tokens = d.tokens) (scanned : ∀ c ∈ d, ∃ line, c.IsScanned line)
  | broken (d : Derivation) (stub : Stub) (t : Token) (rest : List Token)
      (eq : tokens = d.tokens ++ (stub.tokens ++ t :: rest))
      (onLine : ∀ u ∈ stub.tokens, u.line = t.line) (stops : stub.StopsAt t.kind)

section

variable {line : Int} {tokens tokens' : List Token}

lemma Reading.append_derivation {d : Derivation} (hd : ∀ c ∈ d, ∃ line, c.IsScanned line)
    (h : Reading tokens) : Reading (d.tokens ++ tokens) := by
  cases h with
  | whole e eq scanned =>
    refine .whole (d ++ e) (by simp [eq, Derivation.tokens_append]) ?_
    rw [List.forall_mem_append]
    exact ⟨hd, scanned⟩
  | broken e stub t rest eq onLine stops =>
    exact .broken (d ++ e) stub t rest (by simp [eq, Derivation.tokens_append]) onLine stops

/-- A row of tokens that leaves the grammar does so whatever comes behind it. -/
lemma Reading.append (h : Reading tokens) (h' : Reading tokens') :
    Reading (tokens ++ tokens') := by
  cases h with
  | whole d eq scanned => exact eq ▸ h'.append_derivation scanned
  | broken d stub t rest eq onLine stops =>
    exact .broken d stub t (rest ++ tokens') (by simp [eq]) onLine stops

lemma Reading.of_stub {stub : Stub} {t : Token} {rest : List Token}
    (hline : ∀ u ∈ tokens, u.line = line) (heq : tokens = stub.tokens ++ t :: rest)
    (hstops : stub.StopsAt t.kind) : Reading tokens := by
  subst heq
  refine .broken [] stub t rest rfl (fun u hu => ?_) hstops
  rw [hline u (by simp [hu]), hline t (by simp)]

/-- What is left of a line when a clause is read. -/
lemma Reading.of_clause {c : Clause} (line : Int) (hline : ∀ u ∈ c.tokens, u.line = line)
    (hc : c.IsSpelled line) (h : Reading tokens) : Reading (c.tokens ++ tokens) := by
  have hscanned : ∀ c' ∈ [c], ∃ line, c'.IsScanned line := by
    intro c' hc'
    obtain rfl := List.mem_singleton.mp hc'
    exact ⟨line, hline, hc⟩
  simpa using h.append_derivation hscanned

/-! ### Lines -/

/-- A newline behind the tokens of a line is no part of an expression, and neither is a keyword
that the tokens begin with. -/
lemma exists_opensClause (line : Int) (words : List Word) {newline : Token}
    (h : newline.kind = .newline) : ∃ t rest, Token.ofLine line words ++ [newline] = t :: rest ∧
      t.kind.opensClause = true := by
  have hnewline : newline.kind.opensClause = true := by simp [h, Kind.opensClause]
  fun_induction Token.ofLine line words with
  | case1 => exact ⟨_, _, rfl, hnewline⟩
  | case2 first rest hprint => exact ⟨_, _, rfl, rfl⟩
  | case3 => exact ⟨_, _, rfl, hnewline⟩
  | case4 first hprint second more hcreate name value ih => exact ⟨_, _, rfl, rfl⟩
  | case5 first hprint second more hcreate ih => exact ih

/-- Keywords with the row of a value behind them are a whole clause, or an operand is missing. -/
lemma Reading.of_value (start : List Token) (stub : Opening → Stub) (clause : Chain → Clause)
    {scan : Int → Text → List Token} {words : List Word} {t : Token} {rest : List Token}
    (hstub : ∀ o, (stub o).tokens = start ++ o.tokens)
    (hclause : ∀ c, (clause c).tokens = start ++ c.tokens)
    (hstops : ∀ o kind, kind.isOperator = true ∨ kind.opensClause = true → (stub o).StopsAt kind)
    (hscan : ∀ column text, Token.IsValueRow line text (scan column text))
    (hspelled : ∀ c column, words ≠ [] → c.tokens = scan column (Word.joined words) →
      (clause c).IsSpelled line)
    (ht : t.kind.opensClause = true)
    (hline : ∀ u ∈ start ++ (Token.ofWords scan words ++ t :: rest), u.line = line)
    (h : Reading (t :: rest)) : Reading (start ++ (Token.ofWords scan words ++ t :: rest)) := by
  cases words with
  | nil =>
    have heq : start ++ (Token.ofWords scan [] ++ t :: rest) =
        (stub .empty).tokens ++ t :: rest := by
      simp [hstub, Opening.tokens, Token.ofWords]
    exact .of_stub hline heq (hstops _ _ (Or.inr ht))
  | cons word words =>
    have hrow := hscan word.column (Word.joined (word :: words))
    rw [Token.ofWords_cons] at hline ⊢
    rcases chain_or_opening rest (fun u hu => hrow.kind_of_mem hu) hrow.isChain_alternate
      ht with ⟨c, hc⟩ | ⟨o, u, more, ho, hu⟩
    · rw [← hc, ← List.append_assoc, ← hclause] at hline ⊢
      exact .of_clause line (fun u hu => hline u (List.mem_append_left _ hu))
        (hspelled c _ (List.cons_ne_nil _ _) hc) h
    · have heq : start ++ (scan word.column (Word.joined (word :: words)) ++ t :: rest) =
          (stub o).tokens ++ u :: more := by
        rw [ho, hstub, List.append_assoc]
      exact .of_stub hline heq (hstops _ _ hu)

end

end Grammar

open Grammar

lemma Word.isPhrase_joined {words : List Word} (hne : words ≠ [])
    (h : ∀ word ∈ words, word.text.IsWord) : (Word.joined words).IsPhrase :=
  Text.isPhrase_join (by simpa using hne) (by simpa using h)

lemma Word.isValuePhrase_joined {words : List Word} (hne : words ≠ [])
    (h : ∀ word ∈ words, word.text.IsWord) (hvalue : ∀ word ∈ words, word.isValuePart = true) :
    (Word.joined words).IsValuePhrase := by
  refine ⟨Word.isPhrase_joined hne h, ?_⟩
  rw [Word.joined, Text.splitAt_join_words (by simpa using hne) (by simpa using h)]
  simpa [Word.isValuePart, Text.startsWith, Bool.eq_false_iff] using hvalue

lemma Token.IsFrom.line_eq {line : Int} {words : List Word} {t : Token}
    (h : Token.IsFrom line words t) : t.line = line := by
  cases h with
  | keyword word keyword mem eq => rw [eq]; rfl
  | name word mem eq => rw [eq]; rfl
  | value run row subset isRow mem =>
    cases isRow with
    | string => rw [List.mem_singleton.mp mem]
    | number => rw [List.mem_singleton.mp mem]
    | expression => exact (Token.of_mem_ofExpression mem).2.2.2

/-- The value of a declaration is missing, or it is a row of words that may be parts of a
value. -/
lemma Token.takeValue_cases (line : Int) (words : List Word) :
    Token.takeValue line words = ([], words) ∨ ∃ (first second : Word) (run rest : List Word),
      words = first :: second :: (run ++ rest) ∧ (∀ word ∈ run, word.isValuePart = true) ∧
      Token.takeValue line words =
        (first.token line (.keyword .withWord) :: second.token line (.keyword .valueWord) ::
          Token.ofWords (Token.ofValue line) run, rest) := by
  unfold Token.takeValue
  split
  · next first second rest =>
    split
    · refine Or.inr ⟨first, second, rest.takeWhile Word.isValuePart,
        rest.dropWhile Word.isValuePart, ?_, fun word hword => List.mem_takeWhile_imp hword, rfl⟩
      rw [List.takeWhile_append_dropWhile]
    · exact Or.inl rfl
  · exact Or.inl rfl

/-- A declaration with its value, and what is left of the line. -/
lemma Token.reading_declared {line : Int} {first second name third fourth : Word}
    {run : List Word} {t : Token} {rest : List Token} (hname : name.text.IsWord)
    (hrun : ∀ word ∈ run, word.text.IsWord ∧ word.isValuePart = true)
    (ht : t.kind.opensClause = true)
    (hline : ∀ u ∈ [first.token line (.keyword .createWord),
      second.token line (.keyword .variableWord), name.token line .identifier,
      third.token line (.keyword .withWord), fourth.token line (.keyword .valueWord)] ++
        (Token.ofWords (Token.ofValue line) run ++ t :: rest), u.line = line)
    (h : Reading (t :: rest)) :
    Reading ([first.token line (.keyword .createWord),
      second.token line (.keyword .variableWord), name.token line .identifier,
      third.token line (.keyword .withWord), fourth.token line (.keyword .valueWord)] ++
        (Token.ofWords (Token.ofValue line) run ++ t :: rest)) := by
  refine .of_value _
    (.declaring ⟨_, rfl⟩ ⟨_, rfl⟩ ⟨name.token line .identifier, rfl⟩ ⟨_, rfl⟩ ⟨_, rfl⟩)
    (.declaration ⟨_, rfl⟩ ⟨_, rfl⟩ ⟨name.token line .identifier, rfl⟩ ⟨_, rfl⟩ ⟨_, rfl⟩)
    (fun _ => rfl) (fun _ => rfl) (fun _ _ h => h) (Token.isValueRow_ofValue line) ?_ ht hline h
  intro c column hne hc
  exact ⟨hname, column, _, Word.isValuePhrase_joined hne (fun w hw => (hrun w hw).1)
    fun w hw => (hrun w hw).2, hc⟩

/-- The tokens of a line and its newline are whole clauses, or they leave the grammar. -/
lemma Token.reading_ofLine {line : Int} {words : List Word} {newline : Token}
    (hwords : ∀ word ∈ words, word.text.IsWord) (hnewline : newline.kind = .newline)
    (hline : ∀ u ∈ Token.ofLine line words ++ [newline], u.line = line) :
    Reading (Token.ofLine line words ++ [newline]) := by
  have hopens : newline.kind.opensClause = true := by simp [hnewline, Kind.opensClause]
  have hend (h : newline.line = line) : Reading [newline] :=
    .of_clause (c := .newline ⟨newline, hnewline⟩) line (by simpa [Clause.tokens]) trivial
      (.whole [] rfl (by simp))
  fun_induction Token.ofLine line words with
  | case1 => exact hend (hline _ (by simp))
  | case2 first rest hprint =>
    let print : Token.OfKind (.keyword .printWord) :=
      ⟨first.token line (.keyword .printWord), rfl⟩
    have hrest : ∀ word ∈ rest, word.text.IsWord :=
      fun word hword => hwords word (by simp [hword])
    exact .of_value [print.val] (.printing print) (.printing print)
      (fun _ => rfl) (fun _ => rfl) (fun _ _ h => h) (Token.isValueRow_ofContent line)
      (fun _ column hne hc => ⟨column, _, Word.isPhrase_joined hne hrest, hc⟩) hopens hline
      (hend (hline _ (by simp)))
  | case3 => exact hend (hline _ (by simp))
  | case4 first hprint second more hcreate name value ih =>
    let create : Token.OfKind (.keyword .createWord) :=
      ⟨first.token line (.keyword .createWord), rfl⟩
    let variableWord : Token.OfKind (.keyword .variableWord) :=
      ⟨second.token line (.keyword .variableWord), rfl⟩
    cases more with
    | nil =>
      have heq : create.val :: variableWord.val ::
          (name.1 ++ value.1 ++ Token.ofLine line value.2) ++
          [newline] = (Stub.nameless create variableWord).tokens ++ [newline] := by
        simp [name, value, Token.takeName, Token.takeValue, Token.ofLine, Stub.tokens]
      exact .of_stub hline heq hnewline
    | cons word more =>
      obtain ⟨t, rest, hrest, ht⟩ := exists_opensClause line value.2 hnewline
      rcases Token.takeValue_cases line more with hnone |
        ⟨third, fourth, run, left, rfl, hrun, hsome⟩
      · have heq : create.val :: variableWord.val ::
            (name.1 ++ value.1 ++ Token.ofLine line value.2) ++ [newline] =
              (Stub.named create variableWord ⟨word.token line .identifier, rfl⟩).tokens ++
                t :: rest := by
          rw [← hrest]
          simp [name, value, Token.takeName, hnone, Stub.tokens]
        exact .of_stub hline heq ht
      · have heq : create.val :: variableWord.val ::
            (name.1 ++ value.1 ++ Token.ofLine line value.2) ++ [newline] =
              [create.val, variableWord.val, word.token line .identifier,
                third.token line (.keyword .withWord),
                fourth.token line (.keyword .valueWord)] ++
                (Token.ofWords (Token.ofValue line) run ++ t :: rest) := by
          rw [← hrest]
          simp [name, value, Token.takeName, hsome]
        have hvalue : value.2 = left := congrArg Prod.snd hsome
        rw [heq] at hline ⊢
        rw [hvalue] at ih hrest
        rw [hrest] at ih
        refine Token.reading_declared (hwords word (by simp))
          (fun w hw => ⟨?_, hrun w hw⟩) ht hline
          (ih (fun w hw => ?_) fun u hu => ?_)
        · exact hwords w (by simp [hw])
        · exact hwords w (by simp [hw])
        · exact hline u (List.mem_append_right _ (List.mem_append_right _ hu))
  | case5 first hprint second more hcreate ih =>
    exact ih (fun word hword => hwords word (by simp [hword])) hline

/-! ### Source texts -/

lemma Token.reading_ofPhysicalLine (text : Text) (line : Int) :
    Reading (Token.ofPhysicalLine text line) := by
  by_cases hwords : text.words = []
  · have hnone : Token.ofPhysicalLine text line = [] := by simp [Token.ofPhysicalLine, hwords]
    exact .whole [] hnone (by simp)
  · rw [Token.ofPhysicalLine_of_words hwords]
    apply Token.reading_ofLine (fun _ => Text.isWord_of_mem_wordsFrom) rfl
    rw [List.forall_mem_append, List.forall_mem_singleton]
    exact ⟨fun t ht => (Token.of_mem_ofLine ht).line_eq, rfl⟩

/-- The tokens of a source text are whole clauses, each from one line, or they leave the grammar
inside a line. -/
theorem Token.reading_ofLines (source : Text) : Reading (Token.ofLines source) := by
  rw [Token.ofLines]
  generalize source.lines.zipIdx 1 = lines
  induction lines with
  | nil => exact .whole [] rfl (by simp)
  | cons first lines ih =>
    rw [List.flatMap_cons]
    exact (Token.reading_ofPhysicalLine _ _).append ih

end PlainEnglish
