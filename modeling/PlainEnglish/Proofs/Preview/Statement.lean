import PlainEnglish.Proofs.Grammar.Scanned
import PlainEnglish.Proofs.Preview.Line

/-!
# Lines of statements

Every statement of a scanned program is written on a line of its own, whatever its name and its
value are. The line assigns to nothing if the declared name begins with an equals sign. Otherwise
it prints one line if the statement prints or looks like one that does, and no line if not.

Main statement: `Trace.afterLine_statement`.
-/

namespace PlainEnglish

open Grammar

/-! ### Texts on a line -/

/-- A text that can stand on a line: it is not empty, it has no blanks at its ends and no newline
in it. -/
structure Text.FitsLine (t : Text) : Prop where
  ne_nil : t ≠ []
  isTrimmed : t.IsTrimmed
  newline_not_mem : '\n' ∉ t

section

variable {t : Text}

lemma Text.IsPhrase.fitsLine (h : t.IsPhrase) : t.FitsLine where
  ne_nil := h.ne_nil
  isTrimmed := h.isTrimmed
  newline_not_mem hmem := absurd (h.isLineBreak_eq_false hmem) (by decide)

lemma Text.fitsLine_inScript (h : '\n' ∉ t) : t.inScript.FitsLine where
  ne_nil := t.inScript_ne_nil
  isTrimmed := t.isTrimmed_inScript
  newline_not_mem hmem := by
    rcases Text.mem_inScript hmem with hquote | hmem
    · exact absurd hquote (by decide)
    · exact h hmem

lemma Number.fitsLine_plain (x : Number) : x.plain.FitsLine := by
  apply Text.IsPhrase.fitsLine
  apply Text.IsWord.isPhrase
  cases x with
  | nan => exact ⟨List.cons_ne_nil _ _, Text.forall_eq_false_of_any (by decide)⟩
  | infinite negative =>
    cases negative with
    | false => exact ⟨List.cons_ne_nil _ _, Text.forall_eq_false_of_any (by decide)⟩
    | true => exact ⟨List.cons_ne_nil _ _, Text.forall_eq_false_of_any (by decide)⟩
  | finite negative m =>
    rw [Number.plain_finite]
    constructor
    · exact List.append_ne_nil_of_right_ne_nil _ m.names_plain.1.isTerm.ne_nil
    · rw [List.forall_mem_append]
      constructor
      · cases negative && m.val != 0 <;> exact Text.forall_eq_false_of_any (by decide)
      · exact fun c hc => isBlank_eq_false_of_isTermChar (m.names_plain.1.isTerm.chars c hc)

/-! ### Written values -/

lemma Expression.fitsLine_binary {left right : Expression} (op : Operator)
    (hleft : left.render.FitsLine) (hright : right.render.FitsLine) :
    (Expression.binary left op right).render.FitsLine where
  ne_nil := List.cons_ne_nil _ _
  isTrimmed := Text.isTrimmed_cons_append (by decide) (by decide) _
  newline_not_mem := by
    have hop : '\n' ≠ op.symbol := by cases op <;> decide
    simp [Expression.render, hleft.newline_not_mem, hright.newline_not_mem, hop]

section

variable {line : Int} {row : List Token}

lemma Grammar.Primary.fitsLine_render (ht : t.IsPhrase) (hrow : Token.IsValueRow line t row)
    {p : Primary} (hp : p.token ∈ row) : p.expression.render.FitsLine := by
  cases p with
  | number u => exact Number.fitsLine_plain _
  | string u =>
    refine Text.fitsLine_inScript fun hmem => ?_
    exact ht.fitsLine.newline_not_mem (hrow.mem_text hp hmem)
  | name u =>
    -- a name is a fragment, and fragments are parts of the phrase
    have hkind : (Primary.name u).token.kind = .identifier := u.property
    cases hrow with
    | string => simp [List.mem_singleton.mp hp] at hkind
    | number => simp [List.mem_singleton.mp hp] at hkind
    | expression column =>
      obtain ⟨fragment, hfragment, heq⟩ := List.mem_map.mp hp
      obtain ⟨hne, s, hs, rfl⟩ := Text.exists_infix_of_mem_fragments hfragment
      have htext : u.val.text = s.trim := (congrArg Token.text heq).symm
      rw [Primary.expression, Expression.render, htext]
      exact (ht.trim_part hs hne).fitsLine

lemma Grammar.Chain.fitsLine_render (ht : t.IsPhrase) {c : Chain}
    (hrow : Token.IsValueRow line t c.tokens) : c.expression.render.FitsLine := by
  refine c.expression_induction (motive := fun e => e.render.FitsLine) ?_ ?_
  · exact Primary.fitsLine_render ht hrow (by simp [Chain.tokens])
  · intro left l hl hleft
    have hmem : l.primary.token ∈ c.tokens := List.mem_cons_of_mem _
      (List.mem_flatMap.mpr ⟨l, hl, by simp [Link.tokens]⟩)
    exact Expression.fitsLine_binary l.op hleft (Primary.fitsLine_render ht hrow hmem)

end

end

/-! ### Written statements -/

/-- A statement whose declared name is a word and whose value can stand on a line. -/
def Statement.FitsLine : Statement → Prop
  | .declaration name value _ => name.IsWord ∧ value.render.FitsLine
  | .printing value _ => value.render.FitsLine

/-- The statements of a source text fit on lines. -/
lemma Program.fitsLine_of_parse {source : Text} {p : Program} (h : Program.parse source = .ok p)
    {s : Statement} (hs : s ∈ p) : s.FitsLine := by
  obtain ⟨d, -, rfl, hscanned⟩ := Program.scanned_of_parse h
  obtain ⟨c, hc, hstatement⟩ := Derivation.mem_program_iff.mp hs
  obtain ⟨line, -, hspelled⟩ := hscanned c hc
  cases c with
  | newline t => simp [Clause.statement?] at hstatement
  | declaration create variableWord name withWord valueWord chain =>
    obtain rfl := Option.some.inj hstatement
    obtain ⟨hname, column, text, htext, htokens⟩ := hspelled
    exact ⟨hname, Chain.fitsLine_render htext.1
      (htokens ▸ Token.isValueRow_ofValue line column text)⟩
  | printing print chain =>
    obtain rfl := Option.some.inj hstatement
    obtain ⟨column, text, htext, htokens⟩ := hspelled
    exact Chain.fitsLine_render htext (htokens ▸ Token.isValueRow_ofContent line column text)

section

variable {s : Statement}

/-- A statement is written on a single line, which is not blank. -/
lemma Statement.FitsLine.render (h : s.FitsLine) : (s.render 0).FitsLine := by
  cases s with
  | declaration name value line =>
    obtain ⟨hname, hvalue⟩ := h
    have hword := hname.isPhrase.fitsLine
    change Text.FitsLine (name ++ [' ', '=', ' '] ++ value.render)
    constructor
    · exact List.append_ne_nil_of_right_ne_nil _ hvalue.ne_nil
    · exact Text.isTrimmed_append hword.isTrimmed hword.ne_nil hvalue.isTrimmed hvalue.ne_nil _
    · simp [hword.newline_not_mem, hvalue.newline_not_mem]
  | printing value line =>
    change Text.FitsLine (Text.printStart ++ value.render ++ [')'])
    constructor
    · exact List.cons_ne_nil _ _
    · exact Text.isTrimmed_cons_append (by decide) (by decide) _
    · have hnone : '\n' ∉ value.render := Text.FitsLine.newline_not_mem h
      simp [hnone]

end

/-! ### What a line does -/

/-- Whether the line of a statement assigns to nothing: a declared name that begins with an
equals sign has nothing in front of it. -/
def Statement.isNameless : Statement → Bool
  | .declaration name _ _ => Text.startsWith name "="
  | .printing _ _ => false

/-- Whether the line of a statement prints: a declaration does so too if its name and its value
begin and end like a statement that prints. -/
def Statement.prints : Statement → Bool
  | .declaration name value _ => Text.startsWith name "print(" && Text.endsWith value.render ")"
  | .printing _ _ => true

/-- What stands between the parentheses of a line that prints. -/
def Statement.content : Statement → Text
  | .declaration name value _ =>
    Text.trim (name.drop 6 ++ [' ', '=', ' '] ++ value.render.dropLast)
  | .printing value _ => value.render

lemma Text.endsWith_append {t : Text} (h : t ≠ []) (before : Text) (c : Char) :
    Text.endsWith (before ++ t) [c] = Text.endsWith t [c] := by
  have hlength : [c].length ≤ t.length := List.length_pos_iff.mpr h
  have hsuffix : t <:+ before ++ t := List.suffix_append before t
  rw [Bool.eq_iff_iff, Text.endsWith, Text.endsWith, List.isSuffixOf_iff_suffix,
    List.isSuffixOf_iff_suffix]
  constructor
  · exact fun hc => List.suffix_of_suffix_length_le hc hsuffix hlength
  · exact fun hc => hc.trans hsuffix

lemma Text.printContent?_declared {name text : Text} (h : text ≠ []) :
    Text.printContent? (name ++ [' ', '=', ' '] ++ text) =
      if Text.startsWith name "print(" && Text.endsWith text ")" then
        some (Text.trim (name.drop 6 ++ [' ', '=', ' '] ++ text.dropLast))
      else none := by
  have hstart : Text.startsWith (name ++ [' ', '=', ' '] ++ text) "print(" =
      Text.startsWith name "print(" := by
    rw [List.append_assoc]
    exact Text.startsWith_append_cons (by decide) _
  have hend : Text.endsWith (name ++ [' ', '=', ' '] ++ text) ")" = Text.endsWith text ")" :=
    Text.endsWith_append h _ _
  rw [Text.printContent?, hstart, hend]
  split
  · next hprints =>
    have hprefix : Text.printStart <+: name := by
      simpa [Text.startsWith] using (Bool.and_eq_true_iff.mp hprints).1
    have hlength : 6 ≤ name.length := hprefix.length_le
    rw [List.append_assoc, List.drop_append_of_le_length hlength, List.dropLast_append_of_ne_nil
      (List.append_ne_nil_of_right_ne_nil _ h), List.dropLast_append_of_ne_nil h,
      List.append_assoc]
  · rfl

/-- The line of a declaration is an assignment to what stands in front of the first equals sign
in its name, if there is one there. -/
lemma Text.assignment?_declared {name text : Text} (hname : name.IsWord)
    (htext : text.FitsLine) :
    ∃ left right, Text.assignment? (name ++ [' ', '=', ' '] ++ text) = some (left, right) ∧
      right ≠ [] ∧ (left = [] ↔ Text.startsWith name "=" = true) := by
  by_cases heq : '=' ∈ name
  · obtain ⟨left, right, rfl, hleft⟩ := List.eq_append_cons_of_mem heq
    have hline : left ++ '=' :: right ++ [' ', '=', ' '] ++ text =
        left ++ '=' :: (right ++ [' ', '=', ' '] ++ text) := by simp
    have htrim : Text.trim left = left := Text.IsTrimmed.trim_eq <|
      Text.isTrimmed_of_not_blank fun c hc => hname.not_blank c (List.mem_append_left _ hc)
    refine ⟨left, _, by rw [hline, Text.assignment?_append hleft, htrim], ?_, ?_⟩
    · exact List.ne_nil_of_mem (Text.mem_trim (show '=' ∈ _ by simp) (by decide))
    · cases left with
      | nil => simp [Text.startsWith]
      | cons c left =>
        have hc : '=' ≠ c := by
          rintro rfl
          exact hleft List.mem_cons_self
        simp [Text.startsWith, hc]
  · have hnone : '=' ∉ name ++ [' '] := by simpa using heq
    have hassignment := Text.assignment?_append hnone (' ' :: text)
    have hleft := (Text.isTrimmed_of_not_blank hname.not_blank).trim_append isBlank_of_mem_space
    have hright := htext.isTrimmed.trim_append_left isBlank_of_mem_space
    rw [List.singleton_append] at hright
    rw [hleft, hright] at hassignment
    refine ⟨name, text, by simpa using hassignment, htext.ne_nil, ?_⟩
    obtain ⟨c, rest, rfl⟩ := List.exists_cons_of_ne_nil hname.ne_nil
    have hc : '=' ≠ c := by
      rintro rfl
      exact heq List.mem_cons_self
    simp [Text.startsWith, hc]

section

variable {s : Statement}

lemma Statement.FitsLine.printContent? (h : s.FitsLine) :
    Text.printContent? (s.render 0) = if s.prints then some s.content else none := by
  cases s with
  | declaration name value line => exact Text.printContent?_declared h.2.ne_nil
  | printing value line =>
    have hcontent := Text.printContent?_printing value.render
    rw [h.isTrimmed.trim_eq] at hcontent
    exact hcontent

/-- A comment is the line of a declaration that neither prints nor assigns to nothing. -/
lemma Statement.FitsLine.of_isIdle (h : s.FitsLine) (hidle : Text.isIdle (s.render 0) = true) :
    s.isNameless = false ∧ s.prints = false := by
  cases s with
  | declaration name value line =>
    obtain ⟨c, rest, rfl⟩ := List.exists_cons_of_ne_nil h.1.ne_nil
    have hc : c = '#' := by simpa [Text.isIdle, Statement.render] using hidle
    subst hc
    exact ⟨rfl, rfl⟩
  | printing value line => simp [Text.isIdle, Statement.render] at hidle

/-- A line assigns to nothing exactly if its statement declares a name that begins with an equals
sign. -/
lemma Environment.afterLine_statement (env : Environment) (number : Nat) (h : s.FitsLine) :
    if s.isNameless then env.afterLine number (s.render 0) = .error ⟨number, s.render 0⟩
    else ∃ env', env.afterLine number (s.render 0) = .ok env' := by
  cases s with
  | printing value line => exact ⟨_, env.afterLine_printing number value.render⟩
  | declaration name value line =>
    obtain ⟨left, right, hassignment, hright, hleft⟩ := Text.assignment?_declared h.1 h.2
    have hline : env.afterLine number (name ++ [' ', '=', ' '] ++ value.render) =
        if left = [] then .error ⟨number, name ++ [' ', '=', ' '] ++ value.render⟩
        else .ok (env.define left (env.evaluate right)) := by
      simp only [Environment.afterLine, hassignment, if_neg hright]
    change if Text.startsWith name "=" = true then _ else _
    split
    · next hnameless => exact hline.trans (if_pos (hleft.mpr hnameless))
    · next hnamed => exact ⟨_, hline.trans (if_neg (mt hleft.mp hnamed))⟩

/-- The line of a statement fails the preview, or it prints one line or none. -/
theorem Trace.afterLine_statement (trace : Trace) (number : Nat) (h : s.FitsLine) :
    if s.isNameless then trace.afterLine number (s.render 0) = .error ⟨number, s.render 0⟩
    else ∃ env, trace.afterLine number (s.render 0) =
      .ok ⟨(if s.prints then [env.printed s.content] else []) ++ trace.printed, env⟩ := by
  have htrim := h.render.isTrimmed.trim_eq
  by_cases hidle : Text.isIdle (s.render 0) = true
  · obtain ⟨hnamed, hquiet⟩ := h.of_isIdle hidle
    rw [hnamed, hquiet]
    exact ⟨trace.env, trace.afterLine_idle number (htrim.symm ▸ hidle)⟩
  · have hline := Environment.afterLine_statement trace.env number h
    split
    · next hnameless =>
      rw [if_pos hnameless] at hline
      simp only [Trace.afterLine, htrim, if_neg hidle, hline]
      rfl
    · next hnamed =>
      rw [if_neg hnamed] at hline
      obtain ⟨env, henv⟩ := hline
      refine ⟨env, ?_⟩
      simp only [Trace.afterLine, htrim, if_neg hidle, henv, h.printContent?]
      by_cases hprints : s.prints = true
      · simp [hprints, Except.map]
      · simp [hprints, Except.map]

end

end PlainEnglish
