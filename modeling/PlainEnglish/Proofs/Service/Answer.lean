import Mathlib.Tactic
import PlainEnglish.Proofs.Json.Keys
import PlainEnglish.Proofs.Json.Limits
import PlainEnglish.Proofs.Json.RoundTrip
import PlainEnglish.Proofs.Text.Bytes
import PlainEnglish.Service.Respond

/-!
# Answers to bodies

A body with a short source text and nothing else is all that the schema of bodies admits. A
framework that does what is documented of it answers such a body with the outcome, which the
schema of answers neither adds to nor takes from, and hands on no other. The framework that the
service is tried with is of this kind, and requests in bytes are answered by it.

Main statements: `Framework.Enforces.answer_source`, `Framework.Enforces.answer_other`,
`Framework.plain_enforces`, `respond_toCompile`.
-/

namespace PlainEnglish

/-- The value of a body with a source text and nothing else. -/
def Json.ofSource (source : Text) : Json := .object [(sourceKey, .text source)]

section

variable {value : Json} {source : Text} {entries : List (Text × Json)} {levels : Nat}

/-! ### The schema of answers -/

lemma Schema.admits_toJson (o : Outcome) : Schema.compilation.admits o.toJson = true := by
  cases o with
  | failed message => rfl
  | compiled listing script output report =>
    have htexts : (listing.map Json.text).all Json.isText = true := by
      simp [Json.isText]
    simp [Schema.admits, Schema.compilation, Field.optional, Field.value?, Outcome.toJson,
      Json.find?, List.lookup_cons, Field.Kind.admits, Json.isText, Json.isNull, Json.ofTexts,
      htexts]

/-- The document of an outcome has the fields of the schema that are told, and no others. -/
theorem Schema.told_toJson (o : Outcome) : Schema.compilation.told o.toJson = o.toJson := by
  cases o <;> rfl

/-! ### The schema of bodies -/

lemma BodySchema.admits_ofSource (h : source.length ≤ longestSource) :
    BodySchema.compilation.admits (.ofSource source) = true := by
  simp [BodySchema.admits, BodySchema.compilation, BodySchema.hasField, TextField.admits,
    Json.ofSource, Json.find?, h]

lemma BodySchema.hasField_compilation (key : Text) :
    BodySchema.compilation.hasField key = decide (sourceKey = key) :=
  Bool.or_false _

lemma Json.mem_of_find? {key : Text} (h : Json.find? key entries = some value) :
    (key, value) ∈ entries := by
  obtain ⟨before, after, rfl, -⟩ := List.lookup_eq_some_iff.mp h
  exact List.mem_append_right before List.mem_cons_self

/-- Nothing is admitted but a short source text alone. -/
lemma BodySchema.exists_source_of_admits (hkeys : value.HasDistinctKeys)
    (h : BodySchema.compilation.admits value = true) :
    ∃ source, source.length ≤ longestSource ∧ value = .ofSource source := by
  cases value with
  | object entries =>
    obtain ⟨hfields, hneedless⟩ := Bool.and_eq_true_iff.mp h
    have hkey : ∀ entry ∈ entries, entry.1 = sourceKey := by
      intro entry hentry
      have hfield := List.all_eq_true.mp hneedless entry hentry
      rw [BodySchema.hasField_compilation] at hfield
      exact (of_decide_eq_true hfield).symm
    obtain ⟨source, hfind, hlength⟩ : ∃ source,
        Json.find? sourceKey entries = some (.text source) ∧ source.length ≤ longestSource := by
      have hfield : TextField.admits ⟨sourceKey, longestSource⟩ entries = true :=
        List.all_eq_true.mp hfields _ (List.mem_singleton_self _)
      unfold TextField.admits at hfield
      split at hfield
      · next source hfind => exact ⟨source, hfind, of_decide_eq_true hfield⟩
      · exact nomatch hfield
    have hsingle : entries.length ≤ 1 := by
      have hreplicate : entries.map Prod.fst = List.replicate entries.length sourceKey := by
        rw [← List.length_map Prod.fst]
        exact List.eq_replicate_of_mem (by simpa using hkey)
      have hnodup := hkeys entries rfl
      rwa [hreplicate, List.nodup_replicate] at hnodup
    have hmem := Json.mem_of_find? hfind
    obtain ⟨entry, rfl⟩ := List.length_eq_one_iff.mp
      (Nat.le_antisymm hsingle (List.length_pos_of_mem hmem))
    exact ⟨source, hlength, by rw [← List.mem_singleton.mp hmem, Json.ofSource]⟩
  | _ => exact nomatch h

lemma BodySchema.admits_eq_false (hkeys : value.HasDistinctKeys)
    (h : ∀ source, source.length ≤ longestSource → value ≠ .ofSource source) :
    BodySchema.compilation.admits value = false := by
  rw [Bool.eq_false_iff]
  intro hadmits
  obtain ⟨source, hlength, hvalue⟩ := BodySchema.exists_source_of_admits hkeys hadmits
  exact h source hlength hvalue

/-! ### Frameworks -/

variable {f : Framework}

/-- A short source text is compiled, and the answer is the outcome. -/
theorem Framework.Enforces.answer_source (hf : f.Enforces) {limits : Limits}
    {settings : Settings} {c : Compilation} (hlength : source.length ≤ longestSource)
    (h : compileWithin limits settings source = some c) :
    f.answer (.compilation limits settings) (.ofSource source) =
      .document 200 c.outcome.toJson := by
  have hsource : (Json.ofSource source).source? = some source := rfl
  have hrun : (Operation.compilation limits settings).run (.ofSource source) =
      some c.outcome.toJson := by
    simp only [Operation.compilation, hsource, Option.bind_some, h, Option.map_some]
  have hanswer := hf.answers (.compilation limits settings) _ _
    (BodySchema.admits_ofSource hlength) hrun (Schema.admits_toJson c.outcome)
  rwa [Operation.compilation, Schema.told_toJson] at hanswer

/-- Any other body is answered whatever would be made of it, and refused if an answer can repeat
it. -/
theorem Framework.Enforces.answer_other (hf : f.Enforces) (hkeys : value.HasDistinctKeys)
    (h : ∀ source, source.length ≤ longestSource → value ≠ .ofSource source) :
    ∃ answer, (∀ o : Operation, o.takes = .compilation → f.answer o value = answer) ∧
      (value.isRepeatable f.levels = true → answer.status = 422) := by
  have hadmits := BodySchema.admits_eq_false hkeys h
  have hother (o : Operation) (ho : o.takes = .compilation) : o.takes.admits value = false := by
    rw [ho, hadmits]
  let o : Operation := .compilation .standard .standard
  refine ⟨f.answer o value, fun o' ho => ?_, hf.tells o value hadmits⟩
  exact hf.refuses o' o value ho (hother o' ho)

/-! ### The framework of the trials -/

lemma Json.isFinite_of_mem {entry : Text × Json} (h : Json.entriesFinite entries = true)
    (hmem : entry ∈ entries) : entry.2.isFinite = true := by
  induction entries with
  | nil => exact absurd hmem List.not_mem_nil
  | cons first entries ih =>
    rw [Json.entriesFinite, Bool.and_eq_true] at h
    rcases List.mem_cons.mp hmem with rfl | hmem
    · exact h.1
    · exact ih h.2 hmem

/-- With an object its values can be repeated. -/
lemma Json.isRepeatable_of_mem {entry : Text × Json}
    (h : (Json.object entries).isRepeatable levels = true) (hmem : entry ∈ entries) :
    entry.2.isRepeatable levels = true := by
  obtain ⟨hfinite, hshown⟩ := Bool.and_eq_true_iff.mp h
  rw [Option.isNone_iff_eq_none, Datum.ofJson, Datum.ofEntries_eq_map] at hshown
  have hentry := (Datum.obstacle?_table.mp hshown).2 _ (List.mem_map_of_mem hmem)
  rw [Json.isRepeatable, Json.isFinite_of_mem hfinite hmem, Bool.true_and,
    Option.isNone_iff_eq_none]
  exact Datum.obstacle?_mono (Nat.sub_le _ 1) hentry

/-- What is told with the flaws of a value is the value or a part of it. -/
lemma BodySchema.isRepeatable_of_mem_flaws {schema : BodySchema} {flaw : BodyFlaw}
    (h : value.isRepeatable levels = true) (hflaw : flaw ∈ schema.flaws value) :
    flaw.value?.all (·.isRepeatable levels) = true := by
  have hsome {v : Json} (hv : v.isRepeatable levels = true) :
      (some v).all (·.isRepeatable levels) = true := hv
  cases value with
  | object entries =>
    rcases List.mem_append.mp hflaw with hfield | hneedless
    · obtain ⟨field, -, hfield⟩ := List.mem_filterMap.mp hfield
      unfold TextField.flaw? at hfield
      split at hfield
      · obtain rfl := Option.some.inj hfield
        exact hsome h
      · split at hfield
        · exact nomatch hfield
        · obtain rfl := Option.some.inj hfield
          rfl
      · next value hother hfind =>
        obtain rfl := Option.some.inj hfield
        exact hsome (Json.isRepeatable_of_mem h (Json.mem_of_find? hfind))
    · obtain ⟨entry, hentry, rfl⟩ := List.mem_map.mp hneedless
      exact hsome (Json.isRepeatable_of_mem h (List.mem_filter.mp hentry).1)
  | _ =>
    obtain rfl := List.mem_singleton.mp hflaw
    exact hsome h

theorem Framework.plain_enforces (levels : Nat) : (Framework.plain levels).Enforces where
  answers o body content hadmits hrun hgives := by
    simp only [Framework.plain, if_pos hadmits, hrun, Response.ofContent, if_pos hgives]
  refuses o o' body htakes hadmits := by
    have hneither : ¬o'.takes.admits body = true := by
      rw [← htakes, hadmits]
      exact Bool.false_ne_true
    simp only [Framework.plain, if_neg hneither, htakes]
  tells o body hadmits hbody := by
    have htold : ((o.takes.flaws body).all fun flaw => flaw.value?.all (·.isRepeatable levels)) =
        true :=
      List.all_eq_true.mpr fun _ => BodySchema.isRepeatable_of_mem_flaws hbody
    simp only [Framework.plain, if_neg (ne_true_of_eq_false hadmits), Response.ofFlaws,
      if_pos htold, Response.status]

/-! ### Bodies in bytes -/

/-- A request to compile. -/
def Request.toCompile (body : List UInt8) : Request := ⟨"POST", "/api/compile", body⟩

/-- A request whose body has a value is answered by the framework. -/
theorem respond_toCompile {settings : Settings} {limits : Limits} {body : List UInt8}
    (h : bodyValue limits.json body = .ok value) :
    respond settings (.toCompile body) limits =
      (Framework.plain limits.shown).answer (.compilation limits settings) value := by
  have hroute : Route.ofPath? (Text.percentDecoded "/api/compile") = some .compile := by
    decide +kernel
  have hanswer : Route.answer limits settings body .compile =
      (Framework.plain limits.shown).answer (.compilation limits settings) value := by
    simp only [Route.answer, Response.ofBody, h]
  rw [respond, Request.toCompile, hroute]
  exact hanswer

lemma bodyValue_bytes {room : Nat} {c d : Char} {t : Text} (hc : IsPlainChar c)
    (hd : IsPlainChar d) (h : Json.readWithin room (c :: d :: t) = .ok value) :
    bodyValue room (Text.bytes (c :: d :: t)) = .ok value := by
  have hne : Text.bytes (c :: d :: t) ≠ [] := by
    obtain ⟨b, -, -, hb⟩ := hc.exists_byte
    rw [hb]
    exact List.cons_ne_nil _ _
  simp only [bodyValue, if_neg hne, Text.decode_bytes hc hd, Text.bodyValue, h]

/-- The document that is written for a source text, in any layout, has its value. -/
lemma bodyValue_write {room : Nat} (hroom : 0 < room) (layout : Json.Layout) (source : Text) :
    bodyValue room (Text.bytes (Json.write layout (.ofSource source))) =
      .ok (.ofSource source) := by
  have hfits : (Json.ofSource source).Fits room := by
    simp [Json.ofSource, Json.Fits, Json.EntriesFit, hroom]
  have hread := Json.readWithin_write layout hfits (List.forall_mem_nil _)
  rw [List.append_nil] at hread
  obtain ⟨d, rest, hwrite, hd⟩ : ∃ d rest, Json.write layout (.ofSource source) =
      '\x7b' :: d :: rest ∧ IsPlainChar d := by
    rw [Json.write, Json.ofSource, Json.writeAt_object (List.cons_ne_nil _ _),
      Json.entriesText_singleton]
    cases layout with
    | indented width => exact ⟨'\n', _, rfl, by decide, by decide⟩
    | _ => exact ⟨'"', _, rfl, by decide, by decide⟩
  rw [hwrite] at hread ⊢
  exact bodyValue_bytes ⟨by decide, by decide⟩ hd hread

end

end PlainEnglish
