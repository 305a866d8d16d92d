import Mathlib.Tactic
import PlainEnglish.Usage.Given

/-!
# Values of switches

A switch without a value leaves a mark and nothing else. So every value that a command line gives
belongs to a switch of its usage, and has passed the rule of that switch.

Main statement: `Usage.obeys_of_read`.
-/

namespace PlainEnglish

/-- Every value that is given belongs to a switch of a usage and keeps its rule. -/
def Given.Obeys (g : Given) (u : Usage) : Prop :=
  ∀ name value, (name, some value) ∈ g.values →
    ∃ s ∈ u.switches, ∃ rule, s.name = name ∧ s.effect = .value rule ∧
      rule.mistake? s value = none

/-- Every switch in a row of arguments is one of the usage. -/
def Usage.Knows (u : Usage) (arguments : List Argument) : Prop :=
  ∀ word s attached, .switch word s attached ∈ arguments → s ∈ u.switches

section

variable {u : Usage} {word value : Text} {a : Argument} {arguments : List Argument}
  {words : List Text} {g g' : Given} {s : Switch} {rule : ValueRule} {attached : Option Attached}
  {operand : Operand}

/-! ### Switches in words -/

lemma Usage.mem_of_candidates (h : (s, attached) ∈ u.candidates word) : s ∈ u.switches := by
  unfold Usage.candidates at h
  split at h
  · obtain ⟨s', hs', heq⟩ := List.mem_map.mp h
    obtain ⟨rfl, -⟩ := Prod.mk.inj heq
    exact List.mem_of_mem_filter hs'
  · obtain ⟨s', hs', heq⟩ := List.mem_map.mp h
    obtain ⟨rfl, -⟩ := Prod.mk.inj heq
    exact List.mem_of_mem_filter hs'
  · exact absurd h List.not_mem_nil

/-- A switch that a word names is one of the usage. -/
lemma Usage.mem_of_argument (h : u.argument word = .ok (.switch value s attached)) :
    s ∈ u.switches := by
  unfold Usage.argument at h
  split at h
  · exact nomatch h
  · split at h
    · next hfind =>
      obtain ⟨-, rfl, -⟩ := Argument.switch.inj (Except.ok.inj h)
      exact List.mem_of_find?_eq_some hfind
    · simp only at h
      split at h
      · next hfind =>
        obtain ⟨-, rfl, -⟩ := Argument.switch.inj (Except.ok.inj h)
        exact List.mem_of_find?_eq_some hfind
      · split at h
        · split at h <;> exact nomatch h
        · next hcandidates =>
          obtain ⟨-, rfl, rfl⟩ := Argument.switch.inj (Except.ok.inj h)
          exact Usage.mem_of_candidates (hcandidates ▸ List.mem_singleton_self _)
        · exact nomatch h

lemma Usage.Knows.tail (h : u.Knows (a :: arguments)) : u.Knows arguments :=
  fun word s attached hmem => h word s attached (List.mem_cons_of_mem a hmem)

lemma Usage.knows_of_arguments (h : u.arguments words = .ok arguments) : u.Knows arguments := by
  intro word s attached hmem
  induction words generalizing arguments with
  | nil =>
    obtain rfl := Except.ok.inj h
    exact absurd hmem List.not_mem_nil
  | cons first words ih =>
    unfold Usage.arguments at h
    split at h
    · obtain rfl := Except.ok.inj h
      simp at hmem
    · split at h
      · exact nomatch h
      · next argument hargument =>
        cases hwords : u.arguments words with
        | error mistake => exact nomatch (hwords ▸ h)
        | ok more =>
          rw [hwords] at h
          obtain rfl := Except.ok.inj h
          rcases List.mem_cons.mp hmem with rfl | hmem
          · exact Usage.mem_of_argument hargument
          · exact ih hwords hmem

/-! ### Marks -/

lemma Given.exists_marks_of_apply (h : g.apply s = .ok g') : ∃ marks, g' = { g with marks } := by
  unfold Given.apply at h
  split at h
  · exact nomatch h
  · exact nomatch h
  · exact ⟨_, (Except.ok.inj h).symm⟩

lemma Given.exists_marks_of_foldlM {switches : List Switch}
    (h : switches.foldlM Given.apply g = .ok g') : ∃ marks, g' = { g with marks } := by
  induction switches generalizing g with
  | nil => exact ⟨_, (Except.ok.inj h).symm⟩
  | cons s switches ih =>
    rw [List.foldlM_cons] at h
    cases hs : g.apply s with
    | error stop => exact nomatch (hs ▸ h)
    | ok next =>
      obtain ⟨marks, rfl⟩ := Given.exists_marks_of_apply hs
      rw [hs] at h
      exact ih (g := { g with marks }) h

/-- Switches without values leave marks and nothing else. -/
lemma Usage.exists_marks_of_applyWord (h : u.applyWord g s attached = .ok g') :
    ∃ marks, g' = { g with marks } := by
  unfold Usage.applyWord at h
  split at h
  · exact Given.exists_marks_of_apply h
  · exact nomatch h
  · exact nomatch h
  · split at h
    · exact nomatch h
    · exact Given.exists_marks_of_foldlM h

/-! ### Values -/

lemma Given.mem_of_value? {name : Text} (h : g.value? name = some value) :
    (name, some value) ∈ g.values := by
  rw [Given.value?, Option.join_eq_some_iff] at h
  obtain ⟨before, after, hvalues, -⟩ := List.lookup_eq_some_iff.mp h
  rw [hvalues]
  exact List.mem_append_right before List.mem_cons_self

lemma Given.Obeys.setValue (hg : g.Obeys u) (hs : s ∈ u.switches)
    (hrule : s.effect = .value rule) (h : g.setValue s rule value = .ok g') :
    g'.Obeys u := by
  unfold Given.setValue at h
  split at h
  · exact nomatch h
  · next hmistake =>
    obtain rfl := Except.ok.inj h
    intro name value' hmem
    rcases List.mem_cons.mp hmem with heq | hmem
    · obtain ⟨rfl, hvalue⟩ := Prod.mk.inj heq
      obtain rfl := Option.some.inj hvalue
      exact ⟨s, hs, rule, rfl, hrule, hmistake⟩
    · exact hg name value' hmem

/-- Two hyphens that are attached to a switch give it no value. -/
lemma Given.Obeys.setAttached (hg : g.Obeys u) (hs : s ∈ u.switches)
    (hrule : s.effect = .value rule) (h : g.setAttached s rule value = .ok g') : g'.Obeys u := by
  unfold Given.setAttached at h
  split at h
  · obtain rfl := Except.ok.inj h
    intro name value' hmem
    rcases List.mem_cons.mp hmem with heq | hmem
    · exact nomatch (Prod.mk.inj heq).2
    · exact hg name value' hmem
  · exact hg.setValue hs hrule h

lemma Operand.values_take {rest : List Text} (h : operand.take g word rest = .ok g') :
    g'.values = g.values := by
  unfold Operand.take at h
  split at h
  · split at h
    · obtain rfl := Except.ok.inj h
      rfl
    · exact nomatch h
  · obtain rfl := Except.ok.inj h
    rfl

lemma Usage.values_takeSeparated (h : u.takeSeparated g words = .ok g') :
    g'.values = g.values := by
  unfold Usage.takeSeparated at h
  split at h
  · exact Operand.values_take h
  · obtain rfl := Except.ok.inj h
    rfl
  · exact Operand.values_take h
  · obtain rfl := Except.ok.inj h
    rfl

lemma Given.Obeys.of_values (hg : g.Obeys u) (h : g'.values = g.values) : g'.Obeys u :=
  fun name value hmem => hg name value (h ▸ hmem)

/-- Where the values already given keep their rules, the ones that are read keep theirs too. -/
lemma Given.Obeys.readFrom (hg : g.Obeys u) (hknows : u.Knows arguments)
    (h : u.readFrom g arguments = .ok g') : g'.Obeys u := by
  fun_induction Usage.readFrom u g arguments with
  | case1 g =>
    obtain rfl := Except.ok.inj h
    exact hg
  | case2 g rest => exact hg.of_values (Usage.values_takeSeparated h)
  | case3 g word rest ih => exact ih hg hknows.tail h
  | case4 | case6 | case8 => exact nomatch h
  | case5 g word s rest rule attached hrule next hset ih =>
    exact ih (hg.setAttached (hknows _ _ _ List.mem_cons_self) hrule hset) hknows.tail h
  | case7 g word s rule hrule value rest next hset ih =>
    exact ih (hg.setValue (hknows _ _ _ List.mem_cons_self) hrule hset) hknows.tail.tail h
  | case9 g word s attached rest stop hword =>
    rw [hword] at h
    exact nomatch h
  | case10 g word s attached rest next hword _ _ ih =>
    obtain ⟨marks, rfl⟩ := Usage.exists_marks_of_applyWord hword
    rw [hword] at h
    exact ih hg hknows.tail h
  | case11 g word rest => exact hg.of_values (Operand.values_take h)
  | case12 g word operand _ _ _ rest =>
    obtain rfl := Except.ok.inj h
    exact hg
  | case13 g word operand _ _ _ rest _ ih => exact ih hg hknows.tail h
  | case14 g word rest _ _ ih => exact ih hg hknows.tail h

/-- The values that a command line gives keep the rules of their switches. -/
theorem Usage.obeys_of_read (h : u.read words = .ok g) : g.Obeys u := by
  unfold Usage.read at h
  split at h
  · exact nomatch h
  · next arguments harguments =>
    split at h
    · exact nomatch h
    · next g₁ hread =>
      have hempty : Given.Obeys {} u := fun name value hmem => absurd hmem List.not_mem_nil
      have hobeys := hempty.readFrom (Usage.knows_of_arguments harguments) hread
      split at h
      · exact nomatch h
      · obtain rfl := Except.ok.inj h
        exact hobeys

end

end PlainEnglish
