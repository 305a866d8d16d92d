import Mathlib.Tactic
import PlainEnglish.Proofs.Text.Blank

/-!
# Pieces and lines

Where a text is split is told by what stands in front of the first separator, and two texts put
together are split like each of them.

Main statements: `Text.splitAt_append_cons`, `Text.lines_append`.
-/

namespace PlainEnglish

/-! ### Splitting from the right -/

/-- A step from the right that puts characters or pieces in front of the pieces found so far. -/
def Text.IsPieceStep (f : Char → List Text → List Text) : Prop :=
  ∀ c pieces, pieces ≠ [] → f c pieces ≠ [] ∧ ∀ more, f c (pieces ++ more) = f c pieces ++ more

lemma Text.consToFirst_ne_nil (c : Char) (pieces : List Text) :
    Text.consToFirst c pieces ≠ [] := by
  cases pieces <;> simp [Text.consToFirst]

lemma Text.consToFirst_append (c : Char) {pieces : List Text} (h : pieces ≠ [])
    (more : List Text) :
    Text.consToFirst c (pieces ++ more) = Text.consToFirst c pieces ++ more := by
  cases pieces with
  | nil => exact absurd rfl h
  | cons piece pieces => rfl

/-- A step that either opens a new piece in front of some others or goes on with the first
one. -/
lemma Text.isPieceStep_ite (p : Char → Prop) [DecidablePred p] (opened : Char → List Text) :
    Text.IsPieceStep fun c pieces =>
      if p c then [] :: (opened c ++ pieces) else Text.consToFirst c pieces := by
  intro c pieces hne
  by_cases hc : p c
  · simp [hc]
  · simp only [if_neg hc]
    exact ⟨Text.consToFirst_ne_nil c pieces, Text.consToFirst_append c hne⟩

lemma Text.IsPieceStep.foldr_append {f : Char → List Text → List Text} (hf : Text.IsPieceStep f)
    (t : Text) {pieces : List Text} (hne : pieces ≠ []) (more : List Text) :
    t.foldr f (pieces ++ more) = t.foldr f pieces ++ more := by
  suffices h : t.foldr f pieces ≠ [] ∧
      t.foldr f (pieces ++ more) = t.foldr f pieces ++ more from h.2
  induction t with
  | nil => exact ⟨hne, rfl⟩
  | cons c t ih =>
    obtain ⟨hcons, happend⟩ := hf c _ ih.1
    refine ⟨hcons, ?_⟩
    rw [List.foldr_cons, ih.2, happend, List.foldr_cons]

/-! ### Pieces -/

@[simp] lemma Text.splitAt_nil (separator : Char) : Text.splitAt separator [] = [[]] := rfl

lemma Text.splitAt_cons (separator c : Char) (t : Text) : Text.splitAt separator (c :: t) =
    if c = separator then [] :: t.splitAt separator
    else Text.consToFirst c (t.splitAt separator) := rfl

lemma Text.splitAt_of_not_mem {separator : Char} {t : Text} (h : separator ∉ t) :
    t.splitAt separator = [t] := by
  induction t with
  | nil => rfl
  | cons c t ih =>
    rw [List.mem_cons, not_or] at h
    rw [Text.splitAt_cons, if_neg (Ne.symm h.1), ih h.2]
    rfl

lemma Text.splitAt_append_cons (separator : Char) (s t : Text) :
    Text.splitAt separator (s ++ separator :: t) =
      s.splitAt separator ++ t.splitAt separator := by
  have hstep := Text.isPieceStep_ite (· = separator) fun _ => []
  have happend := hstep.foldr_append s (List.cons_ne_nil [] []) (t.splitAt separator)
  rw [Text.splitAt, List.foldr_append]
  simpa [Text.splitAt] using happend

lemma Text.splitAt_append {separator : Char} {t : Text} (h : separator ∉ t) (rest : Text) :
    Text.splitAt separator (t ++ separator :: rest) = t :: rest.splitAt separator := by
  rw [Text.splitAt_append_cons, Text.splitAt_of_not_mem h, List.singleton_append]

lemma Text.join_cons (separator : Text) (a b : Text) (rest : List Text) :
    Text.join separator (a :: b :: rest) = a ++ separator ++ Text.join separator (b :: rest) :=
  List.intercalate_cons_cons

@[simp] lemma Text.join_singleton (separator a : Text) : Text.join separator [a] = a :=
  List.intercalate_singleton

lemma Text.join_append {separator : Text} {before after : List Text} (hbefore : before ≠ [])
    (hafter : after ≠ []) : Text.join separator (before ++ after) =
      Text.join separator before ++ separator ++ Text.join separator after := by
  obtain ⟨b, after, rfl⟩ := List.exists_cons_of_ne_nil hafter
  induction before with
  | nil => exact absurd rfl hbefore
  | cons a before ih =>
    cases before with
    | nil => rw [List.singleton_append, Text.join_cons, Text.join_singleton]
    | cons a' before =>
      rw [List.cons_append, List.cons_append, Text.join_cons, ← List.cons_append,
        ih (List.cons_ne_nil _ _), Text.join_cons]
      simp only [List.append_assoc]

lemma Text.mem_join {separator : Text} {pieces : List Text} {c : Char}
    (h : c ∈ Text.join separator pieces) : c ∈ separator ∨ ∃ piece ∈ pieces, c ∈ piece := by
  induction pieces with
  | nil => simp [Text.join] at h
  | cons a pieces ih =>
    cases pieces with
    | nil => exact Or.inr ⟨a, by simp, by simpa using h⟩
    | cons b rest =>
      rw [Text.join_cons, List.mem_append, List.mem_append] at h
      rcases h with (h | h) | h
      · exact Or.inr ⟨a, by simp, h⟩
      · exact Or.inl h
      · exact (ih h).imp_right fun ⟨piece, hmem, hc⟩ => ⟨piece, List.mem_cons_of_mem _ hmem, hc⟩

/-- Splitting undoes joining, if no piece holds the separator. -/
lemma Text.splitAt_join {separator : Char} {pieces : List Text} (hne : pieces ≠ [])
    (h : ∀ piece ∈ pieces, separator ∉ piece) :
    Text.splitAt separator (Text.join [separator] pieces) = pieces := by
  induction pieces with
  | nil => exact absurd rfl hne
  | cons a pieces ih =>
    cases pieces with
    | nil => rw [Text.join_singleton, Text.splitAt_of_not_mem (h a (by simp))]
    | cons b rest =>
      rw [Text.join_cons, List.append_assoc, List.singleton_append,
        Text.splitAt_append (h a (by simp)), ih (by simp) fun piece hp => h piece (by simp [hp])]

/-- The first piece is what a text begins with, and each of the others stands behind a
separator. -/
lemma Text.splitAt_eq_cons (separator : Char) (t : Text) : ∃ first rest,
    t.splitAt separator = first :: rest ∧ separator ∉ first ∧
      (∃ after, t = first ++ after ∧ ∀ c ∈ after.head?, c = separator) ∧
      ∀ piece ∈ rest, separator ∉ piece ∧ ∃ before after,
        t = before ++ separator :: (piece ++ after) ∧ ∀ c ∈ after.head?, c = separator := by
  induction t with
  | nil => exact ⟨[], [], rfl, List.not_mem_nil, ⟨[], rfl, by simp⟩, by simp⟩
  | cons c t ih =>
    obtain ⟨first, rest, heq, hfirst, ⟨after, hafter, hhead⟩, hrest⟩ := ih
    have hpiece {piece : Text} (h : piece ∈ rest) : separator ∉ piece ∧ ∃ before after,
        c :: t = before ++ separator :: (piece ++ after) ∧ ∀ c ∈ after.head?, c = separator := by
      obtain ⟨hnone, before, after, rfl, hhead⟩ := hrest piece h
      exact ⟨hnone, c :: before, after, rfl, hhead⟩
    rw [Text.splitAt_cons, heq]
    by_cases hc : c = separator
    · rw [if_pos hc]
      refine ⟨[], first :: rest, rfl, List.not_mem_nil, ⟨c :: t, rfl, by simpa using hc⟩, ?_⟩
      rw [List.forall_mem_cons]
      exact ⟨⟨hfirst, [], after, by rw [hc, ← hafter, List.nil_append], hhead⟩, fun _ => hpiece⟩
    · rw [if_neg hc]
      refine ⟨c :: first, rest, rfl, ?_, ⟨after, by rw [hafter, List.cons_append], hhead⟩,
        fun _ => hpiece⟩
      rw [List.mem_cons, not_or]
      exact ⟨Ne.symm hc, hfirst⟩

lemma Text.mem_of_mem_splitAt {separator : Char} {t piece : Text}
    (h : piece ∈ t.splitAt separator) {c : Char} (hc : c ∈ piece) : c ∈ t := by
  obtain ⟨first, rest, heq, -, ⟨after, ht, -⟩, hrest⟩ := Text.splitAt_eq_cons separator t
  rw [heq] at h
  rcases List.mem_cons.mp h with rfl | h
  · rw [ht]
    exact List.mem_append_left _ hc
  · obtain ⟨-, before, after, ht, -⟩ := hrest piece h
    rw [ht]
    simp [hc]

/-- A text with the separator in it has a piece in front of the separator and one behind it. -/
lemma Text.exists_splitAt_of_mem {separator : Char} {t : Text} (h : separator ∈ t) :
    ∃ left right more, t.splitAt separator = left :: right :: more := by
  obtain ⟨left, rest, rfl, hleft⟩ := List.eq_append_cons_of_mem h
  obtain ⟨right, more, hrest, -⟩ := Text.splitAt_eq_cons separator rest
  exact ⟨left, right, more, by rw [Text.splitAt_append hleft, hrest]⟩

/-- Joining undoes splitting. -/
lemma Text.join_splitAt (separator : Char) (t : Text) :
    Text.join [separator] (t.splitAt separator) = t := by
  induction t with
  | nil => rfl
  | cons c t ih =>
    obtain ⟨first, rest, heq, -⟩ := Text.splitAt_eq_cons separator t
    rw [heq] at ih
    rw [Text.splitAt_cons, heq]
    by_cases hc : c = separator
    · rw [if_pos hc, Text.join_cons, ih, hc]
      rfl
    · rw [if_neg hc, Text.consToFirst]
      cases rest with
      | nil => simpa using ih
      | cons second rest =>
        rw [Text.join_cons] at ih ⊢
        simpa using ih

lemma Text.exists_piece_of_prefix {separator : Char} {u : Text} (hu : separator ∉ u)
    (rest : Text) :
    ∃ piece ∈ Text.splitAt separator (u ++ rest), u <+: piece := by
  obtain ⟨first, more, heq, -, ⟨after, hsplit, hafter⟩, -⟩ :=
    Text.splitAt_eq_cons separator (u ++ rest)
  have hpiece : first ∈ Text.splitAt separator (u ++ rest) := by simp [heq]
  have hfirst : first <+: u ++ rest := ⟨after, hsplit.symm⟩
  rcases List.prefix_or_prefix_of_prefix (List.prefix_append u rest) hfirst with h | ⟨v, rfl⟩
  · exact ⟨first, hpiece, h⟩
  · -- the first piece ends where the text ends, since there is no separator in the text
    have hv : v = [] := by
      rw [List.append_assoc] at hsplit
      obtain rfl := List.append_cancel_left hsplit
      cases v with
      | nil => rfl
      | cons c v =>
        obtain rfl := hafter c rfl
        simp at hu
    exact ⟨first, hpiece, by rw [hv, List.append_nil]⟩

/-- No piece begins with a text if neither the whole does nor what stands behind a separator. -/
lemma Text.forall_not_prefix_iff {separator : Char} {u : Text} (hu : separator ∉ u) {t : Text} :
    (∀ piece ∈ t.splitAt separator, ¬u <+: piece) ↔ ¬u <+: t ∧ ¬separator :: u <:+: t := by
  constructor
  · intro h
    constructor
    · rintro ⟨rest, rfl⟩
      obtain ⟨piece, hpiece, hprefix⟩ := Text.exists_piece_of_prefix hu rest
      exact h piece hpiece hprefix
    · rintro ⟨before, rest, rfl⟩
      obtain ⟨piece, hpiece, hprefix⟩ := Text.exists_piece_of_prefix hu rest
      refine h piece ?_ hprefix
      rw [List.append_assoc, List.cons_append, Text.splitAt_append_cons]
      exact List.mem_append_right _ hpiece
  · rintro ⟨hstart, hinside⟩
    obtain ⟨first, more, heq, -, ⟨after, hsplit, -⟩, hmore⟩ := Text.splitAt_eq_cons separator t
    rw [heq, List.forall_mem_cons]
    refine ⟨fun h => hstart (h.trans ⟨after, hsplit.symm⟩), fun piece hpiece h => hinside ?_⟩
    obtain ⟨-, before, rest, rfl, -⟩ := hmore piece hpiece
    obtain ⟨v, rfl⟩ := h
    exact ⟨before, v ++ rest, by simp⟩

/-! ### Two cuts of one text -/

/-- Two beginnings of a text are the same if each goes as far as a test is passed. -/
lemma Text.append_inj_of_forall {p : Char → Bool} {s s' rest rest' : Text}
    (hs : ∀ c ∈ s, p c = true) (hs' : ∀ c ∈ s', p c = true)
    (hrest : ∀ c ∈ rest.head?, p c = false)
    (hrest' : ∀ c ∈ rest'.head?, p c = false) (h : s ++ rest = s' ++ rest') :
    s = s' ∧ rest = rest' := by
  have htake {s rest : Text} (hs : ∀ c ∈ s, p c = true) (hrest : ∀ c ∈ rest.head?, p c = false) :
      (s ++ rest).takeWhile p = s := by
    rw [List.takeWhile_append_of_pos hs]
    cases rest with
    | nil => exact List.append_nil s
    | cons c rest =>
      have hc : p c = false := hrest c rfl
      simp [hc]
  obtain rfl : s = s' := by rw [← htake hs hrest, h, htake hs' hrest']
  exact ⟨rfl, List.append_cancel_left h⟩

/-- Two texts that are the same are so on both sides of the last separator. -/
lemma Text.append_cons_inj_of_not_mem {separator : Char} {s s' t t' : Text} (ht : separator ∉ t)
    (ht' : separator ∉ t') (h : s ++ separator :: t = s' ++ separator :: t') :
    s = s' ∧ t = t' := by
  have hfree {u : Text} (hu : separator ∉ u) : ∀ c ∈ u.reverse, (c != separator) = true := by
    intro c hc
    rw [bne_iff_ne]
    rintro rfl
    exact hu (List.mem_reverse.mp hc)
  have hreverse :
      t.reverse ++ separator :: s.reverse = t'.reverse ++ separator :: s'.reverse := by
    simpa using congrArg List.reverse h
  obtain ⟨hbehind, hfront⟩ :=
    Text.append_inj_of_forall (hfree ht) (hfree ht') (by simp) (by simp) hreverse
  exact ⟨List.reverse_injective (List.cons.inj hfront).2, List.reverse_injective hbehind⟩

/-! ### Lines -/

lemma Text.joinReturns_cons {c : Char} (h : c ≠ '\r') (t : Text) :
    Text.joinReturns (c :: t) = c :: t.joinReturns := if_neg fun hc => h hc.1

lemma Text.joinReturns_of_not_mem {t : Text} (h : '\r' ∉ t) (rest : Text) :
    Text.joinReturns (t ++ rest) = t ++ rest.joinReturns := by
  induction t with
  | nil => rfl
  | cons c t ih =>
    rw [List.mem_cons, not_or] at h
    rw [List.cons_append, Text.joinReturns_cons (Ne.symm h.1), ih h.2, List.cons_append]

lemma Text.lines_append_newline {t : Text} (h : ∀ c ∈ t, isLineBreak c = false) (rest : Text) :
    Text.lines (t ++ '\n' :: rest) = t :: rest.lines := by
  have hreturn : '\r' ∉ t := fun hmem => absurd (h _ hmem) (by decide)
  rw [Text.lines, Text.joinReturns_of_not_mem hreturn, Text.joinReturns_cons (by decide)]
  clear hreturn
  induction t with
  | nil => rfl
  | cons c t ih =>
    rw [List.forall_mem_cons] at h
    rw [List.cons_append, List.foldr_cons, ih h.2, h.1]
    rfl

lemma Text.lines_of_no_break {t : Text} (hne : t ≠ []) (h : ∀ c ∈ t, isLineBreak c = false) :
    t.lines = [t] := by
  have hreturn : '\r' ∉ t := fun hmem => absurd (h _ hmem) (by decide)
  have hjoin := Text.joinReturns_of_not_mem hreturn []
  rw [List.append_nil] at hjoin
  rw [Text.lines, hjoin, show Text.joinReturns [] = [] from rfl, List.append_nil]
  clear hreturn hjoin
  induction t with
  | nil => exact absurd rfl hne
  | cons c t ih =>
    rw [List.forall_mem_cons] at h
    rw [List.foldr_cons, h.1]
    cases t with
    | nil => rfl
    | cons d t =>
      rw [ih (by simp) h.2]
      rfl

/-- Lines joined by newlines are the lines of the whole. -/
lemma Text.lines_join {lines : List Text} (hne : ∀ line ∈ lines, line ≠ [])
    (h : ∀ line ∈ lines, ∀ c ∈ line, isLineBreak c = false) :
    (Text.join ['\n'] lines).lines = lines := by
  induction lines with
  | nil => rfl
  | cons line lines ih =>
    rw [List.forall_mem_cons] at hne h
    cases lines with
    | nil => rw [Text.join_singleton, Text.lines_of_no_break hne.1 h.1]
    | cons next lines =>
      rw [Text.join_cons, List.append_assoc, List.singleton_append,
        Text.lines_append_newline h.1, ih hne.2 h.2]

/-! ### Lines of two texts -/

@[simp] lemma Text.joinReturns_nil : Text.joinReturns [] = [] := rfl

lemma Text.joinReturns_cons_eq (c : Char) (t : Text) : Text.joinReturns (c :: t) =
    if c = '\r' ∧ t.joinReturns.head? = some '\n' then '\r' :: t.joinReturns.tail
    else c :: t.joinReturns := rfl

@[simp] lemma Text.head?_joinReturns (t : Text) : t.joinReturns.head? = t.head? := by
  cases t with
  | nil => rfl
  | cons c t =>
    rw [Text.joinReturns_cons_eq]
    split
    · next h => simp [h.1]
    · rfl

lemma Text.joinReturns_ne_nil {t : Text} (h : t ≠ []) : t.joinReturns ≠ [] := by
  intro hnil
  have hhead := Text.head?_joinReturns t
  rw [hnil] at hhead
  exact h (List.head?_eq_none_iff.mp hhead.symm)

/-- A return and a newline stay apart only if both are there, one at the end and one at the
beginning. -/
lemma Text.joinReturns_append {s : Text} (t : Text)
    (h : ¬(s.getLast? = some '\r' ∧ t.head? = some '\n')) :
    Text.joinReturns (s ++ t) = s.joinReturns ++ t.joinReturns := by
  induction s with
  | nil => rfl
  | cons c s ih =>
    cases s with
    | nil =>
      have hc : ¬(c = '\r' ∧ t.joinReturns.head? = some '\n') := by simpa using h
      rw [List.singleton_append, Text.joinReturns_cons_eq, if_neg hc]
      simp [Text.joinReturns_cons_eq]
    | cons d s =>
      rw [List.getLast?_cons_cons] at h
      have hne := Text.joinReturns_ne_nil (List.cons_ne_nil d s)
      rw [List.cons_append, Text.joinReturns_cons_eq, ih h, Text.joinReturns_cons_eq c,
        List.head?_append_of_ne_nil _ hne, List.tail_append_of_ne_nil hne]
      split <;> rfl

/-- A text that is empty or ends with a line break. -/
def Text.EndsLine (t : Text) : Prop := ∀ c ∈ t.getLast?, isLineBreak c = true

lemma Text.endsLine_of_getLast? {t : Text} {c : Char} (h : t.getLast? = some c)
    (hc : isLineBreak c = true) : t.EndsLine := by
  intro d hd
  obtain rfl := Option.some.inj (h.symm.trans hd)
  exact hc

lemma Text.EndsLine.joinReturns {t : Text} (h : t.EndsLine) : t.joinReturns.EndsLine := by
  induction t with
  | nil => exact h
  | cons c t ih =>
    cases t with
    | nil => simpa [Text.EndsLine, Text.joinReturns_cons_eq] using h
    | cons d t =>
      have hrest : Text.EndsLine (Text.joinReturns (d :: t)) := by
        apply ih
        rwa [Text.EndsLine, List.getLast?_cons_cons] at h
      have hne := Text.joinReturns_ne_nil (List.cons_ne_nil d t)
      obtain ⟨e, u, heq⟩ := List.exists_cons_of_ne_nil hne
      rw [heq] at hrest
      rw [Text.joinReturns_cons_eq, heq]
      split
      · -- the newline is dropped, and what it stands behind is a break itself
        cases u with
        | nil => simp [Text.EndsLine, isLineBreak]
        | cons d u => simpa [Text.EndsLine, List.getLast?_cons_cons] using hrest
      · rwa [Text.EndsLine, List.getLast?_cons_cons]

/-- Lines are those of the one text and then those of the other. -/
lemma Text.lines_append {s : Text} (hs : s.EndsLine) (t : Text)
    (h : ¬(s.getLast? = some '\r' ∧ t.head? = some '\n')) :
    Text.lines (s ++ t) = s.lines ++ t.lines := by
  have hends := hs.joinReturns
  simp only [Text.lines, Text.joinReturns_append t h, List.foldr_append]
  generalize t.joinReturns.foldr _ [] = lines
  rcases List.eq_nil_or_concat' s.joinReturns with hnil | ⟨u, c, heq⟩
  · rw [hnil]
    rfl
  · have hc : isLineBreak c = true := hends c (by simp [heq])
    have hstep := Text.isPieceStep_ite (fun c => isLineBreak c = true) fun _ => []
    have happend := hstep.foldr_append u (List.cons_ne_nil [] []) lines
    simpa [heq, List.foldr_append, hc] using happend

end PlainEnglish
