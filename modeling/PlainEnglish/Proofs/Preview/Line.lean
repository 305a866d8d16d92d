import PlainEnglish.Preview.Trace
import PlainEnglish.Proofs.Preview.Evaluate

/-!
# Lines of scripts

How the preview goes through the two sorts of lines that statements are written as. A line that
declares is read as an assignment to its name. A line that prints is read as such, and if there
is an equals sign in what it prints also as an assignment, but to no name that a program could
declare.
-/

namespace PlainEnglish

/-! ### Assignments -/

lemma Text.cut_append {left : Text} (h : '=' ∉ left) (right : Text) :
    (left ++ '=' :: right).takeWhile (· ≠ '=') = left ∧
      (left ++ '=' :: right).dropWhile (· ≠ '=') = '=' :: right := by
  have hleft : ∀ c ∈ left, decide (c ≠ '=') = true := by
    intro c hc
    rw [decide_eq_true_eq]
    rintro rfl
    exact h hc
  rw [List.takeWhile_append_of_pos hleft, List.dropWhile_append_of_pos hleft]
  simp

lemma Text.assignment?_append {left : Text} (h : '=' ∉ left) (right : Text) :
    Text.assignment? (left ++ '=' :: right) = some (left.trim, right.trim) := by
  obtain ⟨htake, hdrop⟩ := Text.cut_append h right
  rw [Text.assignment?, if_pos (by simp), htake, hdrop, List.tail_cons]

/-- The line of a declaration assigns a text to its name. -/
lemma Text.assignment?_declaration {name text : Text} (hname : name.IsName)
    (htext : text.IsTrimmed) :
    Text.assignment? (name ++ [' ', '=', ' '] ++ text) = some (name, text) := by
  have hnone : '=' ∉ name ++ [' '] := by
    simpa using hname.isTerm.not_mem (show isTermChar '=' = false by decide)
  have htrim : Text.trim (' ' :: text) = text := htext.trim_append_left isBlank_of_mem_space
  have hassignment := Text.assignment?_append hnone (' ' :: text)
  rw [hname.isTerm.isTrimmed.trim_append isBlank_of_mem_space, htrim] at hassignment
  simpa using hassignment

/-! ### Printing -/

/-- How a line that prints begins. -/
abbrev Text.printStart : Text := ['p', 'r', 'i', 'n', 't', '(']

lemma Text.printContent?_printing (content : Text) :
    Text.printContent? (Text.printStart ++ content ++ [')']) = some content.trim := by
  have hstart : Text.startsWith (Text.printStart ++ content ++ [')']) "print(" = true := by
    rw [Text.startsWith, List.isPrefixOf_iff_prefix, List.append_assoc]
    exact List.prefix_append _ _
  have hend : Text.endsWith (Text.printStart ++ content ++ [')']) ")" = true := by
    rw [Text.endsWith, List.isSuffixOf_iff_suffix]
    exact List.suffix_append _ _
  rw [Text.printContent?, hstart, hend]
  simp

/-- A character that a beginning does not have ends what can be compared with it. -/
lemma Text.startsWith_append_cons {beginning t : Text} {c : Char} (hc : c ∉ beginning)
    (rest : Text) : Text.startsWith (t ++ c :: rest) beginning =
      Text.startsWith t beginning := by
  rw [Bool.eq_iff_iff, Text.startsWith, Text.startsWith, List.isPrefixOf_iff_prefix,
    List.isPrefixOf_iff_prefix]
  constructor
  · intro h
    have hwhole : t ++ [c] <+: t ++ c :: rest := ⟨rest, by simp⟩
    rcases Nat.lt_or_ge t.length beginning.length with hlt | hle
    · have hlength : (t ++ [c]).length ≤ beginning.length := by simpa using hlt
      have hpart := List.prefix_of_prefix_length_le hwhole h hlength
      exact absurd (hpart.subset (by simp)) hc
    · exact List.prefix_of_prefix_length_le h (List.prefix_append t _) hle
  · exact fun h => h.trans (List.prefix_append t _)

/-- Behind a name comes a space, so the line of a declaration prints nothing. -/
lemma Text.printContent?_declaration {name : Text} (hname : name.IsName) (text : Text) :
    Text.printContent? (name ++ [' ', '=', ' '] ++ text) = none := by
  have hparen : '(' ∉ name := hname.isTerm.not_mem (by decide)
  have hstart : Text.startsWith (name ++ [' ', '=', ' '] ++ text) "print(" = false := by
    rw [List.append_assoc, List.cons_append, Text.startsWith_append_cons (by decide),
      Bool.eq_false_iff, Text.startsWith, Ne, List.isPrefixOf_iff_prefix]
    exact fun hbegins => hparen (hbegins.subset (by decide))
  rw [Text.printContent?, hstart]
  rfl

/-! ### Steps of the trace -/

section

variable (trace : Trace) (number : Nat)

lemma Trace.afterLine_idle {line : Text} (h : Text.isIdle line.trim = true) :
    trace.afterLine number line = .ok trace := by
  simp only [Trace.afterLine, h, if_true]

lemma Trace.afterLine_declaration {name text : Text} (hname : name.IsName)
    (htext : text.IsTrimmed) (hne : text ≠ []) :
    trace.afterLine number (name ++ [' ', '=', ' '] ++ text) =
      .ok ⟨trace.printed, trace.env.define name (trace.env.evaluate text)⟩ := by
  have htrim := (Text.isTrimmed_append hname.isTerm.isTrimmed hname.isTerm.ne_nil htext hne
    [' ', '=', ' ']).trim_eq
  have hbusy : Text.isIdle (name ++ [' ', '=', ' '] ++ text) = false := by
    obtain ⟨c, rest, rfl⟩ := List.exists_cons_of_ne_nil hname.isTerm.ne_nil
    have hhash : c ≠ '#' := by
      rintro rfl
      exact hname.isTerm.not_mem (by decide) List.mem_cons_self
    simp [Text.isIdle, hhash]
  simp only [Trace.afterLine, Environment.afterLine, htrim, hbusy,
    Text.assignment?_declaration hname htext, Text.printContent?_declaration hname,
    if_neg hname.isTerm.ne_nil, if_neg hne]
  rfl

/-- The variables after a line that prints: as they were before, or with one more that no
declaration can name. -/
def Environment.IsEcho (env env' : Environment) : Prop :=
  env' = env ∨ ∃ key value, Text.printStart <+: key ∧ env' = env.define key value

/-- The variables after a line that prints a content. An equals sign in the content makes the
line an assignment, to the text of the line in front of it. -/
def Environment.echo (env : Environment) (content : Text) : Environment :=
  if '=' ∈ content then
    env.define (Text.printStart ++ Text.trimEnd (content.takeWhile (· ≠ '=')))
      (env.evaluate (Text.trim ((content.dropWhile (· ≠ '=')).tail ++ [')'])))
  else env

lemma Environment.isEcho_echo (env : Environment) (content : Text) :
    env.IsEcho (env.echo content) := by
  unfold Environment.echo
  split
  · exact Or.inr ⟨_, _, List.prefix_append _ _, rfl⟩
  · exact Or.inl rfl

lemma Environment.afterLine_printing (env : Environment) (number : Nat) (content : Text) :
    env.afterLine number (Text.printStart ++ content ++ [')']) = .ok (env.echo content) := by
  have hstart : Text.printStart.IsTrimmed := by
    simp [Text.IsTrimmed, isBlank]
  by_cases heq : '=' ∈ content
  · obtain ⟨left, right, rfl, hleft⟩ := List.eq_append_cons_of_mem heq
    have hnone : '=' ∉ Text.printStart ++ left := by simpa using hleft
    have hassignment := Text.assignment?_append hnone (right ++ [')'])
    rw [Text.trim_append hstart (List.cons_ne_nil _ _)] at hassignment
    have hright : Text.trim (right ++ [')']) ≠ [] :=
      List.ne_nil_of_mem (Text.mem_trim
        (List.mem_append_right right (List.mem_singleton_self ')')) (by decide))
    have hline : Text.printStart ++ (left ++ '=' :: right) ++ [')'] =
        Text.printStart ++ left ++ '=' :: (right ++ [')']) := by simp
    have hecho : env.echo (left ++ '=' :: right) = env.define
        (Text.printStart ++ Text.trimEnd left) (env.evaluate (Text.trim (right ++ [')']))) := by
      obtain ⟨htake, hdrop⟩ := Text.cut_append hleft right
      rw [Environment.echo, if_pos heq, htake, hdrop, List.tail_cons]
    rw [hline, hecho]
    simp only [Environment.afterLine, hassignment, if_neg hright]
    rw [if_neg (by simp)]
  · have hnone : '=' ∉ Text.printStart ++ content ++ [')'] := by simpa using heq
    simp only [Environment.afterLine, Text.assignment?, if_neg hnone, Environment.echo,
      if_neg heq]

lemma Trace.afterLine_printing {content : Text} (h : content.IsTrimmed) :
    trace.afterLine number (Text.printStart ++ content ++ [')']) =
      .ok ⟨(trace.env.echo content).printed content :: trace.printed,
        trace.env.echo content⟩ := by
  have htrim : Text.trim (Text.printStart ++ content ++ [')']) =
      Text.printStart ++ content ++ [')'] :=
    (Text.isTrimmed_cons_append (by decide) (by decide) _).trim_eq
  have hbusy : Text.isIdle (Text.printStart ++ content ++ [')']) = false := by
    simp [Text.isIdle]
  simp only [Trace.afterLine, htrim, hbusy, Text.printContent?_printing, h.trim_eq,
    trace.env.afterLine_printing number content]
  rfl

end

end PlainEnglish
