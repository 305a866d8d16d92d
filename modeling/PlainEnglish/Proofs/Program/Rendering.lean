import PlainEnglish.Proofs.Number.Canonical
import PlainEnglish.Proofs.Preview.Evaluate
import PlainEnglish.Proofs.Program.Written
import PlainEnglish.Script

/-!
# Parentheses determine the tree

In a script the first character of an expression tells whether it is an operation or an operand,
and an operand ends where a space, a parenthesis or nothing follows it. So an expression can be
read off the beginning of a text, and no two different trees are rendered alike.

Main statement: `Expression.render_eq_iff`.
-/

namespace PlainEnglish

/-! ### Legible expressions -/

/-- An expression of any shape whose numbers are finite, whose names are names and whose strings
hold no double quote. -/
inductive Expression.IsLegible : Expression → Prop where
  | number (negative : Bool) (m : Magnitude) : IsLegible (.number (.finite negative m))
  | string {t : Text} (h : '"' ∉ t) : IsLegible (.string t)
  | name {t : Text} (h : t.IsName) : IsLegible (.name t)
  | binary {left right : Expression} (hleft : left.IsLegible) (op : Operator)
      (hright : right.IsLegible) : IsLegible (.binary left op right)

/-- The kind of an operand; an operation has none. -/
def Expression.kind? : Expression → Option Kind
  | .number _ => some .number
  | .string _ => some .string
  | .name _ => some .identifier
  | .binary _ _ _ => none

/-- The kind of operand that begins with a character in a script; an operation begins with a
parenthesis. -/
def Kind.ofOpening? (c : Char) : Option Kind :=
  if c = '(' then none
  else if c = '"' then some .string
  else if isNameStart c then some .identifier
  else some .number

/-! ### The first character -/

lemma Kind.ofOpening?_digit {c : Char} (h : c.isDigit = true) :
    Kind.ofOpening? c = some .number := by
  have hparenthesis : c ≠ '(' := by
    rintro rfl
    exact absurd h (by decide)
  have hquote : c ≠ '"' := by
    rintro rfl
    exact absurd h (by decide)
  have hname : ¬isNameStart c = true := by
    intro hname
    have hnone := isDigit_eq_false_of_isNameStart hname
    rw [isDigit_of_isDigit h] at hnone
    exact Bool.noConfusion hnone
  rw [Kind.ofOpening?, if_neg hparenthesis, if_neg hquote, if_neg hname]

lemma Kind.ofOpening?_nameStart {c : Char} (h : isNameStart c = true) :
    Kind.ofOpening? c = some .identifier := by
  have hparenthesis : c ≠ '(' := by
    rintro rfl
    exact absurd h (by decide)
  have hquote : c ≠ '"' := by
    rintro rfl
    exact absurd h (by decide)
  rw [Kind.ofOpening?, if_neg hparenthesis, if_neg hquote, if_pos h]

/-- The first character of an expression tells its sort. -/
lemma Expression.IsLegible.render_eq_cons {e : Expression} (h : e.IsLegible) :
    ∃ c t, e.render = c :: t ∧ Kind.ofOpening? c = e.kind? := by
  cases h with
  | number negative m =>
    rw [Expression.render, Number.plain_finite]
    cases negative && m.val != 0 with
    | false =>
      obtain ⟨c, t, hplain, hc⟩ := m.names_plain.1.exists_cons
      exact ⟨c, t, hplain, Kind.ofOpening?_digit hc⟩
    | true => exact ⟨'-', _, rfl, rfl⟩
  | string h => exact ⟨'"', _, rfl, rfl⟩
  | @name t h =>
    cases t with
    | nil => exact h.elim
    | cons c t => exact ⟨c, t, rfl, Kind.ofOpening?_nameStart h.1⟩
  | binary hleft op hright => exact ⟨'(', _, rfl, rfl⟩

/-! ### Where operands end -/

/-- A text behind an expression: nothing, or one that begins with a space or a closing
parenthesis. -/
def Text.EndsOperand (rest : Text) : Prop := ∀ c ∈ rest.head?, c = ' ' ∨ c = ')'

/-- A character of a number or a name in a script. -/
def isBareChar (c : Char) : Bool := isTermChar c || c == '-'

lemma Text.EndsOperand.isBareChar {rest : Text} (h : rest.EndsOperand) :
    ∀ c ∈ rest.head?, isBareChar c = false := by
  intro c hc
  rcases h c hc with rfl | rfl <;> decide

lemma Text.endsOperand_space (t : Text) : Text.EndsOperand (' ' :: t) := by
  rintro c ⟨⟩
  exact Or.inl rfl

lemma Text.endsOperand_parenthesis (t : Text) : Text.EndsOperand (')' :: t) := by
  rintro c ⟨⟩
  exact Or.inr rfl

lemma Text.IsTerm.isBareChar {t : Text} (h : t.IsTerm) : ∀ c ∈ t, isBareChar c = true := by
  intro c hc
  simp [PlainEnglish.isBareChar, h.chars c hc]

lemma Number.isBareChar_of_mem_plain {negative : Bool} {m : Magnitude} {c : Char}
    (h : c ∈ Number.plain (.finite negative m)) : isBareChar c = true := by
  have hterm := m.names_plain.1.isTerm
  rw [Number.plain_finite, List.mem_append] at h
  rcases h with h | h
  · cases hsign : negative && m.val != 0 with
    | false => simp [hsign] at h
    | true =>
      obtain rfl : c = '-' := by simpa [hsign] using h
      decide
  · exact hterm.isBareChar c h

section

variable {s t rest rest' : Text}

lemma Text.inScript_append_inj (hs : '"' ∉ s) (ht : '"' ∉ t)
    (h : s.inScript ++ rest = t.inScript ++ rest') : s = t ∧ rest = rest' := by
  have hquote {u : Text} (hu : '"' ∉ u) : ∀ c ∈ u, (c != '"') = true := by
    intro c hc
    rw [bne_iff_ne]
    rintro rfl
    exact hu hc
  have hinner : s ++ '"' :: rest = t ++ '"' :: rest' := by
    simpa [Text.inScript] using h
  obtain ⟨hst, hrest⟩ :=
    Text.append_inj_of_forall (hquote hs) (hquote ht) (by simp) (by simp) hinner
  exact ⟨hst, (List.cons.inj hrest).2⟩

end

/-! ### Trees -/

/-- An operation with a text behind it, grouped by its parts. -/
lemma Expression.render_binary_append (left : Expression) (op : Operator) (right : Expression)
    (rest : Text) : (Expression.binary left op right).render ++ rest =
      '(' :: (left.render ++ (' ' :: op.symbol :: ' ' :: (right.render ++ (')' :: rest)))) := by
  simp [Expression.render]

lemma Operator.symbol_injective : Function.Injective Operator.symbol := by
  intro op op' h
  have hsymbol := congrArg Operator.ofSymbol? h
  rwa [Operator.ofSymbol?_symbol, Operator.ofSymbol?_symbol, Option.some_inj] at hsymbol

section

variable {e e' : Expression} {rest rest' : Text}

/-- Expressions that one text begins with are of one sort. -/
lemma Expression.IsLegible.kind?_eq (he : e.IsLegible) (he' : e'.IsLegible)
    (h : e.render ++ rest = e'.render ++ rest') : e.kind? = e'.kind? := by
  obtain ⟨c, t, hc, hkind⟩ := he.render_eq_cons
  obtain ⟨c', t', hc', hkind'⟩ := he'.render_eq_cons
  rw [hc, hc', List.cons_append, List.cons_append] at h
  rw [← hkind, ← hkind', (List.cons.inj h).1]

/-- Expressions that one text begins with are the same, if what ends an operand follows each. -/
lemma Expression.IsLegible.render_append_inj (he : e.IsLegible) (he' : e'.IsLegible)
    (hrest : rest.EndsOperand) (hrest' : rest'.EndsOperand)
    (h : e.render ++ rest = e'.render ++ rest') : Expression.Alike e e' ∧ rest = rest' := by
  have hkind := he.kind?_eq he' h
  induction he generalizing e' rest rest' with
  | number negative m =>
    cases he' with
    | number negative' m' =>
      obtain ⟨hplain, heq⟩ := Text.append_inj_of_forall (fun c => Number.isBareChar_of_mem_plain)
        (fun c => Number.isBareChar_of_mem_plain) hrest.isBareChar hrest'.isBareChar h
      exact ⟨.number (Number.alike_of_plain_eq hplain), heq⟩
    | _ => exact nomatch hkind
  | @string s hs =>
    cases he' with
    | string ht =>
      obtain ⟨rfl, heq⟩ := Text.inScript_append_inj hs ht h
      exact ⟨.string s, heq⟩
    | _ => exact nomatch hkind
  | @name s hs =>
    cases he' with
    | name ht =>
      obtain ⟨rfl, heq⟩ := Text.append_inj_of_forall hs.isTerm.isBareChar ht.isTerm.isBareChar
        hrest.isBareChar hrest'.isBareChar h
      exact ⟨.name s, heq⟩
    | _ => exact nomatch hkind
  | binary hleft op hright ihleft ihright =>
    cases he' with
    | binary hleft' op' hright' =>
      rw [Expression.render_binary_append, Expression.render_binary_append] at h
      -- the left operands end in front of a space, and the right ones in front of a parenthesis
      have hinner := (List.cons.inj h).2
      obtain ⟨hleftAlike, hmiddle⟩ := ihleft hleft' (Text.endsOperand_space _)
        (Text.endsOperand_space _) hinner (hleft.kind?_eq hleft' hinner)
      simp only [List.cons.injEq, true_and] at hmiddle
      obtain ⟨hsymbol, hlast⟩ := hmiddle
      obtain ⟨hrightAlike, hend⟩ := ihright hright' (Text.endsOperand_parenthesis _)
        (Text.endsOperand_parenthesis _) hlast (hright.kind?_eq hright' hlast)
      obtain rfl := Operator.symbol_injective hsymbol
      exact ⟨.binary hleftAlike op hrightAlike, (List.cons.inj hend).2⟩
    | _ => exact nomatch hkind

lemma Expression.Alike.render_eq (h : Expression.Alike e e') : e.render = e'.render := by
  induction h with
  | number h => exact h.plain_eq
  | string t => rfl
  | name t => rfl
  | binary hleft op hright ihleft ihright =>
    rw [Expression.render, Expression.render, ihleft, ihright]

/-- Two expressions are rendered alike exactly if they are the same tree, in which numbers may
differ by the sign of zero. -/
theorem Expression.render_eq_iff (he : e.IsLegible) (he' : e'.IsLegible) :
    e.render = e'.render ↔ Expression.Alike e e' := by
  constructor
  · intro h
    have hnil : Text.EndsOperand [] := by simp [Text.EndsOperand]
    exact (he.render_append_inj he' hnil hnil (by rw [h])).1
  · exact Expression.Alike.render_eq

end

/-- The tree of `((a - -1) + (") + (b" * 0))`, up to the sign of its zero. -/
def entangledTree (negative : Bool) : Expression :=
  .binary (.binary (.name "a") .minus (.number Number.one.negate)) .plus
    (.binary (.string ") + (b") .times (.number (.signedZero negative)))

lemma isLegible_entangledTree (negative : Bool) : (entangledTree negative).IsLegible := by
  have hname : Text.IsName "a" := ⟨by decide, List.forall_mem_nil _⟩
  have hquote : '"' ∉ (") + (b" : Text) := by decide
  exact .binary (.binary (.name hname) .minus (.number true _)) .plus
    (.binary (.string hquote) .times (.number negative _))

theorem Expression.render_entangledTree :
    (entangledTree true).IsLegible ∧ (entangledTree false).IsLegible ∧
      entangledTree true ≠ entangledTree false ∧
      (entangledTree true).render = (entangledTree false).render := by
  have htrue := isLegible_entangledTree true
  have hfalse := isLegible_entangledTree false
  have halike : Expression.Alike (entangledTree true) (entangledTree false) :=
    .binary (.binary (.name _) .minus (.number (.refl _))) .plus
      (.binary (.string _) .times (.number (.zero _ _)))
  exact ⟨htrue, hfalse, by decide, (Expression.render_eq_iff htrue hfalse).mpr halike⟩

end PlainEnglish
