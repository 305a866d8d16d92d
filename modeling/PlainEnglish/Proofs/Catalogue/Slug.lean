import PlainEnglish.Catalogue
import PlainEnglish.Proofs.Text.Lowercase
import PlainEnglish.Proofs.Text.Parts

/-!
# Slugs

What a slug has for a character of a name does not depend on the characters around it, although
small letters do: a sigma leaves a hyphen in either form. A slug is made of the parts between
those hyphens, so it is in a form of its own, which has a slug of its own, and it does not matter
what parts a name.

Main statements: `Text.slug_eq_join`, `Text.slug_eq_self_iff`, `Example.slug_canonical`.
-/

namespace PlainEnglish

/-! ### Characters -/

/-- A character as slugs have it: a hyphen, unless it may stand beside the hyphens. -/
def slugChar (c : Char) : Char := if isSlugChar c then c else '-'

/-- What a slug has for a single character of a name. -/
def slugLetters (c : Char) : Text := (smallLettersAlone c).map slugChar

section

variable {c : Char}

lemma isSlugChar_iff : isSlugChar c = true ↔ c.isLower = true ∨ c.isDigit = true :=
  Bool.or_eq_true_iff

lemma isSlugChar_iff_toNat : isSlugChar c = true ↔
    (0x61 ≤ c.toNat ∧ c.toNat ≤ 0x7a) ∨ (0x30 ≤ c.toNat ∧ c.toNat ≤ 0x39) := by
  simp only [isSlugChar, Bool.or_eq_true, Bool.and_eq_true, decide_eq_true_eq,
    Char.le_iff_toNat_le, Char.reduceToNat]

lemma ne_hyphen_of_isSlugChar (h : isSlugChar c = true) : c ≠ '-' := by
  rintro rfl
  exact Bool.noConfusion h

lemma isSlugChar_slugChar (h : slugChar c ≠ '-') : isSlugChar (slugChar c) = true := by
  by_cases hc : isSlugChar c = true
  · rwa [slugChar, if_pos hc]
  · rw [slugChar, if_neg hc] at h
    exact absurd rfl h

lemma slugLetters_of_lt (hlt : c.toNat < 0xc0) (hcapital : c.isUpper = false) :
    slugLetters c = [slugChar c] := by
  have hdotted : c ≠ '\u0130' := by
    rintro rfl
    exact absurd hlt (by decide)
  rw [slugLetters, smallLettersAlone, if_neg hdotted, smallLetter_of_lt hlt hcapital]
  rfl

lemma slugLetters_of_isSlugChar (h : isSlugChar c = true) : slugLetters c = [c] := by
  have hrange := isSlugChar_iff_toNat.mp h
  have hcapital : c.isUpper = false := by
    rw [← Bool.not_eq_true, Char.isUpper_iff]
    omega
  rw [slugLetters_of_lt (by omega) hcapital, slugChar, if_pos h]

/-- A character that is neither a letter nor a digit leaves a hyphen. -/
lemma slugLetters_of_ascii (hascii : c.toNat < 128) (h : c.isAlphanum = false) :
    slugLetters c = ['-'] := by
  obtain ⟨halpha, hdigit⟩ := Bool.or_eq_false_iff.mp h
  obtain ⟨hupper, hlower⟩ := Bool.or_eq_false_iff.mp halpha
  have hslug : ¬isSlugChar c = true := by
    rw [isSlugChar_iff, hlower, hdigit]
    simp
  rw [slugLetters_of_lt (by omega) hupper, slugChar, if_neg hslug]

end

/-! ### Single hyphens -/

lemma Text.hyphenated_cons (c : Char) (t : Text) : Text.hyphenated (c :: t) =
    if isSlugChar c then c :: t.hyphenated
    else if t.hyphenated.head? = some '-' then t.hyphenated else '-' :: t.hyphenated := rfl

/-- No two hyphens stand side by side. -/
lemma Text.isChain_hyphenated (t : Text) :
    t.hyphenated.IsChain fun a b => ¬(a = '-' ∧ b = '-') := by
  induction t with
  | nil => exact List.isChain_nil
  | cons c t ih =>
    rw [Text.hyphenated_cons]
    by_cases hc : isSlugChar c = true
    · rw [if_pos hc, List.isChain_cons]
      exact ⟨fun b _ h => ne_hyphen_of_isSlugChar hc h.1, ih⟩
    · rw [if_neg hc]
      by_cases hhead : (Text.hyphenated t).head? = some '-'
      · rwa [if_pos hhead]
      · rw [if_neg hhead, List.isChain_cons]
        refine ⟨fun b hb h => hhead ?_, ih⟩
        rw [Option.mem_def.mp hb, h.2]

/-- A hyphen for a run of characters parts a text where a hyphen for each of them would part
it. -/
lemma Text.parts_append_hyphenated (s t : Text) :
    Text.parts '-' (s ++ t.hyphenated) = Text.parts '-' (s ++ t.map slugChar) := by
  induction t generalizing s with
  | nil => rfl
  | cons c t ih =>
    rw [Text.hyphenated_cons, List.map_cons, slugChar]
    by_cases hc : isSlugChar c = true
    · rw [if_pos hc, if_pos hc, List.append_cons, ih, ← List.append_cons]
    · have hrest := ih []
      rw [List.nil_append, List.nil_append] at hrest
      rw [if_neg hc, if_neg hc, Text.parts_append_cons, ← hrest]
      by_cases hhead : (Text.hyphenated t).head? = some '-'
      · obtain ⟨rest, heq⟩ := List.head?_eq_some_iff.mp hhead
        rw [if_pos hhead, heq, Text.parts_append_cons, Text.parts_cons]
      · rw [if_neg hhead, Text.parts_append_cons]

/-! ### Hyphens at the ends -/

lemma Text.slug_eq_rdropWhile (name : Text) : name.slug =
    (name.lowercase.hyphenated.dropWhile (· = '-')).rdropWhile (· = '-') := rfl

/-- Hyphens are taken away from both ends, and nothing else is. -/
lemma Text.exists_append_slug (name : Text) : ∃ before after,
    name.lowercase.hyphenated = before ++ name.slug ++ after ∧
      (∀ c ∈ before, c = '-') ∧ ∀ c ∈ after, c = '-' := by
  obtain ⟨before, after, heq, hbefore, hafter⟩ :=
    exists_append_rdropWhile_dropWhile (· = '-') name.lowercase.hyphenated
  rw [← Text.slug_eq_rdropWhile] at heq
  refine ⟨before, after, heq, ?_, ?_⟩
  · exact fun c hc => of_decide_eq_true (hbefore c hc)
  · exact fun c hc => of_decide_eq_true (hafter c hc)

lemma Text.isTight_slug (name : Text) : name.slug.IsTight '-' := by
  obtain ⟨hhead, hlast⟩ := ends_rdropWhile_dropWhile (· = '-') name.lowercase.hyphenated
  rw [← Text.slug_eq_rdropWhile] at hhead hlast
  obtain ⟨before, after, heq, -, -⟩ := name.exists_append_slug
  have hchain := name.lowercase.isChain_hyphenated
  rw [heq] at hchain
  exact {
    head := fun h => of_decide_eq_false (hhead '-' h) rfl
    last := fun h => of_decide_eq_false (hlast '-' h) rfl
    chain := hchain.left_of_append.right_of_append }

/-! ### Slugs -/

/-- A slug is made of the parts of a name, each character of which is looked at by itself. -/
lemma Text.slug_eq_join (name : Text) :
    name.slug = Text.join ['-'] (Text.parts '-' (name.flatMap slugLetters)) := by
  obtain ⟨before, after, heq, hbefore, hafter⟩ := name.exists_append_slug
  have hview : name.lowercase.map slugChar = name.flatMap slugLetters :=
    Text.map_lowercase slugChar rfl name
  calc name.slug
      = Text.join ['-'] (name.slug.parts '-') := name.isTight_slug.join_parts.symm
    _ = Text.join ['-'] (name.lowercase.hyphenated.parts '-') := by
      rw [heq, Text.parts_between hbefore hafter]
    _ = Text.join ['-'] (Text.parts '-' (name.lowercase.map slugChar)) :=
      congrArg _ (Text.parts_append_hyphenated [] name.lowercase)
    _ = Text.join ['-'] (Text.parts '-' (name.flatMap slugLetters)) := by rw [hview]

/-- A text of small letters and digits with single hyphens between runs of them, or an empty
one. -/
def Text.IsSlug (t : Text) : Prop := ∃ runs : List Text,
  (∀ run ∈ runs, run ≠ [] ∧ ∀ c ∈ run, c.isLower = true ∨ c.isDigit = true) ∧
    t = Text.join ['-'] runs

lemma Text.isSlug_slug (name : Text) : name.slug.IsSlug := by
  refine ⟨_, ?_, name.slug_eq_join⟩
  intro run hrun
  obtain ⟨hne, hhyphen, hmem⟩ := Text.of_mem_parts hrun
  refine ⟨hne, fun c hc => isSlugChar_iff.mp ?_⟩
  obtain ⟨a, -, hletters⟩ := List.mem_flatMap.mp (hmem c hc)
  obtain ⟨b, -, rfl⟩ := List.mem_map.mp hletters
  apply isSlugChar_slugChar
  intro heq
  exact hhyphen (heq ▸ hc)

/-- Slugs are the texts that are their own slugs. -/
theorem Text.slug_eq_self_iff {t : Text} : t.slug = t ↔ t.IsSlug := by
  constructor
  · intro h
    rw [← h]
    exact t.isSlug_slug
  · rintro ⟨runs, hruns, rfl⟩
    have hchars : ∀ c ∈ Text.join ['-'] runs, slugLetters c = [c] := by
      intro c hc
      rcases Text.mem_join hc with hc | ⟨run, hrun, hc⟩
      · rw [List.mem_singleton.mp hc]
        exact slugLetters_of_ascii (by decide) (by decide)
      · exact slugLetters_of_isSlugChar (isSlugChar_iff.mpr ((hruns run hrun).2 c hc))
    have hself : (Text.join ['-'] runs).flatMap slugLetters = Text.join ['-'] runs := by
      rw [List.flatMap_congr hchars, List.flatMap_singleton']
    have hparts : ∀ run ∈ runs, run ≠ [] ∧ '-' ∉ run := by
      intro run hrun
      obtain ⟨hne, hchars⟩ := hruns run hrun
      exact ⟨hne, fun hmem => ne_hyphen_of_isSlugChar (isSlugChar_iff.mpr (hchars '-' hmem)) rfl⟩
    rw [Text.slug_eq_join, hself, Text.parts_join hparts]

/-- One or more of the first 128 characters, letters and digits apart. -/
def Text.IsGap (t : Text) : Prop := t ≠ [] ∧ ∀ c ∈ t, c.toNat < 128 ∧ c.isAlphanum = false

/-- A gap parts a name, whatever it is made of. -/
lemma Text.IsGap.slug_append {gap : Text} (h : gap.IsGap) (before after : Text) :
    Text.slug (before ++ gap ++ after) = Text.join ['-']
      (Text.parts '-' (before.flatMap slugLetters) ++
        Text.parts '-' (after.flatMap slugLetters)) := by
  obtain ⟨hgap, hchars⟩ := h
  have hletters : ∀ c ∈ gap, slugLetters c = ['-'] :=
    fun c hc => slugLetters_of_ascii (hchars c hc).1 (hchars c hc).2
  have hhyphens : ∀ c ∈ gap.flatMap slugLetters, c = '-' := by
    intro c hc
    obtain ⟨a, ha, hc⟩ := List.mem_flatMap.mp hc
    rw [hletters a ha] at hc
    exact List.mem_singleton.mp hc
  have hne : gap.flatMap slugLetters ≠ [] := by
    obtain ⟨c, hc⟩ := List.exists_mem_of_ne_nil _ hgap
    have hmem : '-' ∈ gap.flatMap slugLetters := by
      rw [List.mem_flatMap]
      refine ⟨c, hc, ?_⟩
      rw [hletters c hc]
      exact List.mem_singleton_self '-'
    exact List.ne_nil_of_mem hmem
  rw [Text.slug_eq_join, List.append_assoc, List.flatMap_append, List.flatMap_append,
    Text.parts_append_separators hhyphens hne]

/-- Slugs are canonical: the slug of an example has runs of small letters and digits with single
hyphens between them and none at the ends, or nothing at all. An example that is named by a slug
has that slug, and a gap in a name may be replaced by any other gap. -/
theorem Example.slug_canonical (e : Example) :
    (e.slug.IsSlug ∧ e.slug.head? ≠ some '-' ∧ e.slug.getLast? ≠ some '-') ∧
    (∀ e' : Example, e'.name = e.slug → e'.slug = e.slug) ∧
    ∀ before gap gap' after : Text, gap.IsGap → gap'.IsGap → e.name = before ++ gap ++ after →
      ∀ e' : Example, e'.name = before ++ gap' ++ after → e'.slug = e.slug := by
  have htight := e.name.isTight_slug
  refine ⟨⟨e.name.isSlug_slug, htight.head, htight.last⟩, ?_, ?_⟩
  · intro e' hname
    rw [Example.slug, hname]
    exact Text.slug_eq_self_iff.mpr e.name.isSlug_slug
  · intro before gap gap' after hgap hgap' hname e' hname'
    rw [Example.slug, Example.slug, hname, hname', hgap.slug_append, hgap'.slug_append]

/-- An example with a capital sigma in front of a full stop, which is passed over when it is told
whether the sigma ends a word, with a dotted capital I and with the sign of the kelvin. -/
def dottedExample : Example where
  name := "\u039f\u03a3.\u0130st \u212a2!"
  category := "basics"
  description := []
  source := []

/-- The same with a hyphen between blanks, behind which a word begins, in place of the full
stop. -/
def spacedExample : Example := { dottedExample with name := "\u039f\u03a3 - \u0130st \u212a2!" }

theorem Example.slug_dottedExample :
    Text.IsGap ['.'] ∧ Text.IsGap [' ', '-', ' '] ∧
    dottedExample.name = "\u039f\u03a3" ++ ['.'] ++ "\u0130st \u212a2!" ∧
    spacedExample.name = "\u039f\u03a3" ++ [' ', '-', ' '] ++ "\u0130st \u212a2!" ∧
    dottedExample.slug = "i-st-k2" ∧ spacedExample.slug = "i-st-k2" ∧
    { dottedExample with name := "i-st-k2" : Example }.slug = "i-st-k2" := by
  have hslug : dottedExample.slug = "i-st-k2" := by decide +kernel
  have hname : dottedExample.name = "\u039f\u03a3" ++ ['.'] ++ "\u0130st \u212a2!" := by
    decide +kernel
  have hname' : spacedExample.name = "\u039f\u03a3" ++ [' ', '-', ' '] ++
      "\u0130st \u212a2!" := by
    decide +kernel
  have hgap : Text.IsGap ['.'] := ⟨by simp, by simp⟩
  have hgap' : Text.IsGap [' ', '-', ' '] := ⟨by simp, by simp⟩
  obtain ⟨-, hself, hreplaced⟩ := Example.slug_canonical dottedExample
  have hspaced := hreplaced _ _ _ _ hgap hgap' hname spacedExample hname'
  have hagain := hself { dottedExample with name := "i-st-k2" } hslug.symm
  exact ⟨hgap, hgap', hname, hname', hslug, hspaced.trans hslug, hagain.trans hslug⟩

end PlainEnglish
