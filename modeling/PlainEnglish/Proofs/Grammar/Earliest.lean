import PlainEnglish.Proofs.Grammar.Failure
import PlainEnglish.Proofs.Grammar.Point

/-!
# Errors come as early as they can

Parsing fails in front of the first token that no program can have there, or behind tokens that a
program can begin with but that are no program yet. What is named as expected is what a program
can go on with.

Main statement: `Program.ofTokens_error_earliest`.
-/

namespace PlainEnglish

open Grammar

/-! ### Kinds by their names -/

lemma SyntaxError.mem_expected {g : SyntaxError} {kind : Kind} :
    kind.name ∈ g.expected ↔ kind ∈ g.wanted.kinds :=
  List.mem_map_of_injective Kind.name_injective

/-! ### Accepted rows of tokens -/

/-- Where parsing fails on a whole row of tokens. -/
lemma Program.stopsAt_of_ofTokens {tokens : List Token} {g : SyntaxError}
    (h : Program.ofTokens tokens = .error (.grammar g)) :
    (Cursor.start tokens).StopsAt .clause g :=
  Parser.programAfter_stopsAt (Or.inl rfl) (Prod.ext h rfl)

lemma Program.run_of_ofTokens {tokens : List Token} {p : Program}
    (h : Program.ofTokens tokens = .ok p) : Point.clause.run tokens = some .finished :=
  Parser.run_of_programAfter (c := Cursor.start tokens) (Or.inl rfl) (Prod.ext h rfl)

/-- Readable tokens that lead to the end of a program make one. -/
lemma Program.ofTokens_of_run {tokens : List Token} (hreadable : ∀ t ∈ tokens, t.IsReadable)
    (hrun : Point.clause.run tokens = some .finished) :
    ∃ p, Program.ofTokens tokens = .ok p := by
  cases hparse : Program.ofTokens tokens with
  | ok p => exact ⟨p, rfl⟩
  | error e =>
    obtain ⟨g, rfl⟩ := Program.ofTokens_error_grammar hreadable hparse
    cases Program.stopsAt_of_ofTokens hparse with
    | inFront hahead hv hnext =>
      obtain rfl : tokens = _ := hahead
      simp [Point.run_append, Point.run_cons, hv, hnext] at hrun
    | behind hv hfinished => exact absurd (Option.some.inj (hv.symm.trans hrun)) hfinished

/-- Readable tokens that lead somewhere are the beginning of a program. -/
lemma Program.exists_ofTokens_append {v : List Token} {q : Point}
    (hreadable : ∀ t ∈ v, t.IsReadable) (hrun : Point.clause.run v = some q) :
    ∃ p, Program.ofTokens (v ++ q.completion.map Kind.token) = .ok p := by
  apply Program.ofTokens_of_run
  · rw [List.forall_mem_append, List.forall_mem_map]
    exact ⟨hreadable, fun kind _ => kind.isReadable_token⟩
  · rw [Point.run_append, hrun, Option.bind_some, q.run_completion]

/-- So they are with one more token of a kind that leads on. -/
lemma Program.exists_ofTokens_append_cons {v : List Token} {u : Token} {q : Point}
    (hreadable : ∀ t ∈ v, t.IsReadable) (hrun : Point.clause.run v = some q) (hu : u.IsReadable)
    (hnext : (q.next? u.kind).isSome) : ∃ more p, Program.ofTokens (v ++ u :: more) = .ok p := by
  obtain ⟨q', hq'⟩ := Option.isSome_iff_exists.mp hnext
  have hrun' : Point.clause.run (v ++ [u]) = some q' := by
    rw [Point.run_append, hrun, Option.bind_some, Point.run_cons, hq', Option.bind_some,
      Point.run_nil]
  have hreadable' : ∀ t ∈ v ++ [u], t.IsReadable := by
    rw [List.forall_mem_append, List.forall_mem_singleton]
    exact ⟨hreadable, hu⟩
  obtain ⟨p, hp⟩ := Program.exists_ofTokens_append hreadable' hrun'
  rw [List.append_assoc, List.singleton_append] at hp
  exact ⟨_, p, hp⟩

/-- What stands behind an end token does not matter. -/
lemma Program.ofTokens_of_append {v more : List Token} {p : Program} {t : Token} (ht : t ∈ v)
    (hfinish : t.kind = .finish) (h : Program.ofTokens (v ++ more) = .ok p) :
    Program.ofTokens v = .ok p := by
  obtain ⟨d, finish, rest, htokens, hkind, hreadable, hp⟩ := Program.ofTokens_eq_ok_iff.mp h
  have houtside : ∀ w, d.tokens ≠ v ++ w := by
    intro w hw
    exact Derivation.kind_ne_finish (hw ▸ List.mem_append_left w ht) hfinish
  rcases List.append_eq_append_iff.mp htokens with ⟨w, hw, -⟩ | ⟨w, hw, hrest⟩
  · exact absurd hw (houtside w)
  · cases w with
    | nil => exact absurd (by simpa using hw.symm) (houtside [])
    | cons u w =>
      obtain rfl := (List.cons.inj hrest).1
      exact Program.ofTokens_eq_ok_iff.mpr ⟨d, finish, w, hw, hkind, hreadable, hp⟩

/-! ### The earliest token -/

/-- Parsing of readable tokens fails in front of a token if the tokens so far begin some program
but none begins with that token as well, and at the end if the tokens only begin one; in place of
the token, or behind the last one, a program can have a token of every kind that is expected. -/
theorem Program.ofTokens_error_earliest {tokens : List Token} {e : ParseError}
    (hreadable : ∀ t ∈ tokens, t.kind = .number → (Number.ofText? t.text).isSome)
    (h : Program.ofTokens tokens = .error e) :
    ∃ g, e = .grammar g ∧
      ((∃ before t after, tokens = before ++ t :: after ∧ g.found = some t.kind.name ∧
          g.line = some t.line ∧ g.column = some t.column ∧
          (∃ more p, Program.ofTokens (before ++ more) = .ok p) ∧
          (∀ us p, Program.ofTokens us = .ok p →
            ¬(before ++ [t]).map Token.kind <+: us.map Token.kind) ∧
          ∀ u : Token, (u.kind = .number → (Number.ofText? u.text).isSome) →
            u.kind.name ∈ g.expected →
            ∃ more p, Program.ofTokens (before ++ u :: more) = .ok p) ∨
        (g.found = none ∧ g.message = "Unexpected end of input" ∧
          g.line = tokens.getLast?.map Token.line ∧ g.column = none ∧
          (∀ t ∈ tokens, t.kind ≠ .finish) ∧
          (∃ more p, more ≠ [] ∧ Program.ofTokens (tokens ++ more) = .ok p) ∧
          ∀ u : Token, (u.kind = .number → (Number.ofText? u.text).isSome) →
            u.kind.name ∈ g.expected →
            ∃ more p, Program.ofTokens (tokens ++ u :: more) = .ok p)) := by
  obtain ⟨g, rfl⟩ := Program.ofTokens_error_grammar hreadable h
  refine ⟨g, rfl, ?_⟩
  cases Program.stopsAt_of_ofTokens h with
  | @inFront before after t q hahead hrun hnext =>
    obtain rfl : tokens = before ++ t :: after := hahead
    have hbefore : ∀ u ∈ before, u.IsReadable := fun u hu => hreadable u (by simp [hu])
    refine Or.inl ⟨before, t, after, rfl, rfl, rfl, rfl, ?_, ?_, ?_⟩
    · exact ⟨_, Program.exists_ofTokens_append hbefore hrun⟩
    · rintro us p hp ⟨rest, hrest⟩
      -- the point behind the tokens in front of the error does not move
      obtain ⟨v, w, rfl, hv, -⟩ := List.map_eq_append_iff.mp hrest.symm
      have hfinished := Program.run_of_ofTokens hp
      rw [Point.run_append, Point.run_congr hv, Point.run_append, hrun, Option.bind_some,
        Point.run_cons, hnext] at hfinished
      simp at hfinished
    · intro u hu hexpected
      have hwanted := SyntaxError.mem_expected.mp hexpected
      exact Program.exists_ofTokens_append_cons hbefore hrun hu (Point.next?_of_wanted hwanted)
  | @behind q hrun hfinished =>
    obtain ⟨p, hp⟩ := Program.exists_ofTokens_append hreadable hrun
    refine Or.inr ⟨rfl, rfl, ?_, rfl, ?_, ?_, ?_⟩
    · rw [SyntaxError.line, Cursor.last_eq]
      rfl
    · intro t ht hkind
      exact nomatch h.symm.trans (Program.ofTokens_of_append ht hkind hp)
    · exact ⟨_, p, by simpa using Point.completion_ne_nil hfinished, hp⟩
    · intro u hu hexpected
      have hwanted := SyntaxError.mem_expected.mp hexpected
      exact Program.exists_ofTokens_append_cons hreadable hrun hu
        (Point.next?_of_wantedAtEnd hwanted)

/-- The tokens of `create variable 1 with`, in which the name is missing. -/
def namelessTokens : List Token := [
  ⟨.keyword .createWord, "create", 1, 1⟩, ⟨.keyword .variableWord, "variable", 1, 8⟩,
  ⟨.number, "1", 1, 17⟩, ⟨.keyword .withWord, "with", 1, 17⟩, ⟨.newline, "\n", 1, 23⟩,
  ⟨.finish, "", 2, 1⟩]

theorem Program.ofTokens_namelessTokens :
    ((∀ t ∈ namelessTokens, t.kind = .number → (Number.ofText? t.text).isSome) ∧
      Program.ofTokens namelessTokens =
        .error (.grammar (.unexpected (.kind .identifier) namelessTokens[2]))) ∧
      ∃ before t after, namelessTokens = before ++ t :: after ∧ t.kind = .number ∧
        (∃ more p, Program.ofTokens (before ++ more) = .ok p) ∧
        (∀ us p, Program.ofTokens us = .ok p →
          ¬(before ++ [t]).map Token.kind <+: us.map Token.kind) ∧
        ∃ more p, Program.ofTokens (before ++ Kind.identifier.token :: more) = .ok p := by
  have hread : (Number.ofText? ['1']).isSome := by decide +kernel
  have hreadable : ∀ t ∈ namelessTokens, t.kind = .number → (Number.ofText? t.text).isSome := by
    simp [namelessTokens, hread]
  have herror : Program.ofTokens namelessTokens =
      .error (.grammar (.unexpected (.kind .identifier) namelessTokens[2])) := by
    let stub : Stub := .nameless ⟨namelessTokens[0], rfl⟩ ⟨namelessTokens[1], rfl⟩
    have hstub : ∀ u ∈ Derivation.tokens [] ++ stub.tokens, u.IsReadable :=
      fun u hu => hreadable u (List.mem_of_mem_take (i := 2) hu)
    exact Program.ofTokens_of_stub hstub (by decide)
  refine ⟨⟨hreadable, herror⟩, ?_⟩
  obtain ⟨g, hg, hplace⟩ := Program.ofTokens_error_earliest hreadable herror
  obtain rfl : .unexpected (.kind .identifier) namelessTokens[2] = g := by simpa using hg
  rcases hplace with
    ⟨before, t, after, heq, hfound, -, -, hbegin, hnone, hexpected⟩ | ⟨hfound, -⟩
  · refine ⟨before, t, after, heq, ?_, hbegin, hnone, ?_⟩
    · exact Kind.name_injective (Option.some.inj hfound).symm
    · exact hexpected _ (Kind.isReadable_token _) (by decide)
  · exact nomatch hfound

end PlainEnglish
