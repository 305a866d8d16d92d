import PlainEnglish.Proofs.Text.Split

/-!
# Returns and newlines

A text that is read from a file has a newline for every line break with a return. Its lines are
the same, and so are the rows of characters within a line.

Main statements: `Text.lines_withNewlines`, `Text.isInfix_of_withNewlines`.
-/

namespace PlainEnglish

lemma Text.not_mem_withNewlines (t : Text) : '\r' ∉ t.withNewlines := by
  intro hmem
  obtain ⟨c, -, hc⟩ := List.mem_map.mp hmem
  split at hc
  · exact absurd hc (by decide)
  · next hne => exact hne hc

/-- Lines end at newlines as they end at returns. -/
theorem Text.lines_withNewlines (t : Text) : t.withNewlines.lines = t.lines := by
  have hjoin := Text.joinReturns_of_not_mem t.not_mem_withNewlines []
  rw [List.append_nil, Text.joinReturns_nil, List.append_nil] at hjoin
  rw [Text.lines, hjoin, Text.withNewlines, List.foldr_map, Text.lines]
  congr 1
  funext c lines
  by_cases hc : c = '\r'
  · subst hc
    rfl
  · rw [if_neg hc]

/-! ### Rows of characters -/

section

variable {c : Char} {t row : Text}

/-- A return in front of a newline leaves no trace. -/
lemma Text.withNewlines_cons_of_newline (hc : c = '\r') (h : t.head? = some '\n') :
    Text.withNewlines (c :: t) = t.withNewlines := by
  have hhead := (Text.head?_joinReturns t).trans h
  obtain ⟨rest, hrest⟩ := List.head?_eq_some_iff.mp hhead
  rw [Text.withNewlines, Text.joinReturns_cons_eq, if_pos ⟨hc, hhead⟩, Text.withNewlines, hrest]
  rfl

lemma Text.withNewlines_cons (h : ¬(c = '\r' ∧ t.head? = some '\n')) :
    Text.withNewlines (c :: t) = (if c = '\r' then '\n' else c) :: t.withNewlines := by
  rw [← Text.head?_joinReturns] at h
  rw [Text.withNewlines, Text.joinReturns_cons_eq, if_neg h, List.map_cons, Text.withNewlines]

lemma Text.isPrefix_of_withNewlines (hrow : '\n' ∉ row) (h : row <+: t.withNewlines) :
    row <+: t := by
  induction row generalizing t with
  | nil => exact List.nil_prefix
  | cons d row ih =>
    rw [List.mem_cons, not_or] at hrow
    cases t with
    | nil => exact absurd (List.prefix_nil.mp h) (List.cons_ne_nil d row)
    | cons c t =>
      by_cases hreturn : c = '\r' ∧ t.head? = some '\n'
      · obtain ⟨t, rfl⟩ := List.head?_eq_some_iff.mp hreturn.2
        rw [Text.withNewlines_cons_of_newline hreturn.1 hreturn.2,
          Text.withNewlines_cons (by simp), List.cons_prefix_cons] at h
        exact absurd h.1.symm hrow.1
      · rw [Text.withNewlines_cons hreturn, List.cons_prefix_cons] at h
        have hc : c ≠ '\r' := by
          rintro rfl
          exact hrow.1 h.1.symm
        rw [if_neg hc] at h
        exact List.cons_prefix_cons.mpr ⟨h.1, ih hrow.2 h.2⟩

/-- A row without newlines stood in the file as it stands in the text that is read. -/
theorem Text.isInfix_of_withNewlines (hrow : '\n' ∉ row) (h : row <:+: t.withNewlines) :
    row <:+: t := by
  induction t with
  | nil => exact h
  | cons c t ih =>
    by_cases hreturn : c = '\r' ∧ t.head? = some '\n'
    · rw [Text.withNewlines_cons_of_newline hreturn.1 hreturn.2] at h
      exact List.infix_cons (ih h)
    · rw [Text.withNewlines_cons hreturn] at h
      rcases List.infix_cons_iff.mp h with hprefix | hinfix
      · rw [← Text.withNewlines_cons hreturn] at hprefix
        exact (Text.isPrefix_of_withNewlines hrow hprefix).isInfix
      · exact List.infix_cons (ih hinfix)

/-- No character is counted more often, if newlines and returns are not counted. -/
lemma Text.countP_withNewlines_le {p : Char → Bool} (hnewline : p '\n' = false) (t : Text) :
    t.withNewlines.countP p ≤ t.countP p := by
  induction t with
  | nil => exact le_rfl
  | cons c t ih =>
    by_cases hreturn : c = '\r' ∧ t.head? = some '\n'
    · rw [Text.withNewlines_cons_of_newline hreturn.1 hreturn.2]
      exact ih.trans (List.sublist_cons_self c t).countP_le
    · rw [Text.withNewlines_cons hreturn, List.countP_cons, List.countP_cons]
      refine Nat.add_le_add ih ?_
      split
      · rw [hnewline]
        exact Nat.zero_le _
      · exact le_rfl

end

end PlainEnglish
