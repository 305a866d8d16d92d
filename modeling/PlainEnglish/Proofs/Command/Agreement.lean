import PlainEnglish.Proofs.Command.Compile
import PlainEnglish.Proofs.Service.Answer

/-!
# The service and the command line agree

A program is compiled by the service and from the command line, and both show the same outcome.
What is no body with a short source text is refused by the service, unless no answer can repeat
what is wrong with it, as is so with a number that is not finite.

Main statement: `compile_agrees`.
-/

namespace PlainEnglish

/-- The words that ask for the whole outcome of what stands on the input. -/
lemma Invocation.read_whole : Invocation.read ["compile", "-", "--json"] =
    .ok ⟨none, false, none, .compile ['-'] ⟨true, false, false, false⟩⟩ := by
  have hread : (Invocation.read ["compile", "-", "--json"]).toOption =
      some ⟨none, false, none, .compile ['-'] ⟨true, false, false, false⟩⟩ := by
    decide +kernel
  generalize Invocation.read ["compile", "-", "--json"] = result at hread ⊢
  cases result with
  | ok i => exact congrArg Except.ok (Option.some.inj hread)
  | error refusal => exact nomatch hread

/-- Whatever framework does what is documented of it, the service answers a short source text
with the outcome of its compilation, and the program prints the same outcome and tells by its
status whether it is a success, however the lines of the text end. There is an outcome if there
is room for the width of the listing. Every other body is answered alike whatever would be made
of it, and refused if an answer can repeat it. -/
theorem compile_agrees {f : Framework} (hf : f.Enforces) {settings : Settings} {source : Text}
    (hlength : source.length ≤ longestSource) :
    (∀ limits c, compileWithin limits settings source = some c →
      f.answer (.compilation limits settings) (.ofSource source) =
        .document 200 c.outcome.toJson) ∧
    (∀ (around : Surroundings) (words : List Text) (i : Invocation) (file : Text) (view : View)
        (c : Compilation),
      Invocation.read words = .ok i → i.task = .compile file view → view.whole = true →
      around.settings i = .ok settings → around.Holds file source →
      compileWithin around.limits settings source = some c →
        (∀ levels, 2 ≤ levels →
          Json.readWithin levels (around.run words).output = .ok c.outcome.toJson) ∧
        (around.run words).ending = .status (if c.outcome.isSuccess then 0 else 1)) ∧
    (∀ limits : Limits, 0 ≤ settings.tokenPadWidth → settings.tokenPadWidth ≤ limits.width →
      compileWithin limits settings source = some (compile settings source)) ∧
    Invocation.read ["compile", "-", "--json"] =
      .ok ⟨none, false, none, .compile ['-'] ⟨true, false, false, false⟩⟩ ∧
    (∀ o : Outcome, ∃ entries, o.toJson = .object (("success", .bool o.isSuccess) :: entries)) ∧
    (∀ value : Json, value.HasDistinctKeys →
      (∀ s : Text, s.length ≤ longestSource → value ≠ .ofSource s) →
      ∃ answer, (∀ o : Operation, o.takes = .compilation → f.answer o value = answer) ∧
        (value.isRepeatable f.levels = true → answer.status = 422)) ∧
    ∀ levels t value, Json.readWithin levels t = .ok value → value.HasDistinctKeys := by
  refine ⟨fun limits c => hf.answer_source hlength, ?_, ?_, Invocation.read_whole, ?_,
    fun value => hf.answer_other, fun levels t value => Json.hasDistinctKeys_of_readWithin⟩
  · intro around words i file view c hread htask hwhole hsettings hholds hcompile
    rw [Surroundings.run_of_read hread hsettings, htask]
    exact Surroundings.perform_compile hholds hwhole hcompile
  · intro limits hnonneg hwidth
    have hlow : (-0x8000000000000000 : Int) ≤ 0 := by decide
    exact if_pos (compiles_of_le (hlow.trans hnonneg) hwidth source)
  · intro o
    cases o <;> exact ⟨_, rfl⟩

/-- A program with two sorts of line breaks, found on the input of an empty directory. -/
def mixedSource : Text := "print 1\r\nprint 2\r"

def mixedSurroundings : Surroundings where
  directory := ⟨true, []⟩
  files := fun _ => .ok none
  input := mixedSource
  environment := []
  clock := []
  trace := []
  hasServer := false

theorem compile_agrees_mixedSource :
    mixedSource.length ≤ longestSource ∧
      (Framework.plain Limits.standard.shown).Enforces ∧
      compileWithin .standard .standard mixedSource = some (compile .standard mixedSource) ∧
      respond .standard
          (.toCompile (Text.bytes (Json.write .spaced (.ofSource mixedSource)))) =
        .document 200 (compile .standard mixedSource).outcome.toJson ∧
      Json.readWithin Limits.standard.json
          (mixedSurroundings.run ["compile", "-", "--json"]).output =
        .ok (compile .standard mixedSource).outcome.toJson := by
  have hlength : mixedSource.length ≤ longestSource := by decide
  have hf := Framework.plain_enforces Limits.standard.shown
  obtain ⟨hanswer, hrun, hroom, hread, -⟩ := @compile_agrees _ hf .standard mixedSource hlength
  have hcompile := hroom .standard (by decide) (by decide)
  have hsettings : mixedSurroundings.settings ⟨none, false, none,
      .compile ['-'] ⟨true, false, false, false⟩⟩ = .ok .standard := by
    rfl
  refine ⟨hlength, hf, hcompile, ?_, ?_⟩
  · rw [respond_toCompile (bodyValue_write (by decide) .spaced mixedSource)]
    exact hanswer .standard _ hcompile
  · exact (hrun mixedSurroundings _ _ ['-'] _ _ hread rfl rfl hsettings rfl hcompile).1 _
      (by decide)

/-! ### A number that no answer can repeat -/

/-- The document `{"source": 1e999}`, in which a number is too great. -/
def overflowText : Text := "\x7b\"source\": 1e999\x7d"

def overflowValue : Json := .object [(sourceKey, .number (.infinite false))]

lemma Json.readValue_overflow (fuel room : Nat) :
    Json.readValue (fuel + 1) room "1e999\x7d" = .ok (.number (.infinite false), ['\x7d']) := by
  have hnumeral : Numeral.read? ['1', 'e', '9', '9', '9'] = some ⟨false, ['1'], [], 999⟩ := by
    decide +kernel
  have hnumber : (Numeral.mk false ['1'] [] 999).toNumber = .infinite false := by
    decide +kernel
  have hread : Json.readNumber ['1', 'e', '9', '9', '9', '\x7d'] =
      .ok (.number (.infinite false), ['\x7d']) := by
    simp [Json.readNumber, Json.readWhole?, Json.readFraction, Json.readExponent,
      Json.isPlainDigit, hnumeral, hnumber]
  exact hread

lemma Json.readWithin_overflowText :
    Json.readWithin Limits.standard.json overflowText = .ok overflowValue := by
  have hkey : overflowText = '\x7b' :: (Json.writeText sourceKey ++ ": 1e999\x7d".toList) := by
    decide
  have hentries : Json.readEntries 35 959 [] (Json.writeText sourceKey ++ ": 1e999\x7d".toList) =
      .ok (overflowValue, []) :=
    Json.readEntries_close rfl (Json.readValue_overflow 33 959) rfl
  have hwhole : Json.readValue 36 Limits.standard.json overflowText =
      .ok (overflowValue, []) := by
    have hopens := (Json.opens_writeText sourceKey).append ": 1e999\x7d".toList
    rw [hkey, Json.readValue_entries (by decide) hopens hopens.skipSpace_eq]
    exact hentries
  have hall : Json.readAll Limits.standard.json overflowText = .ok overflowValue := by
    have hskip : Json.skipSpace overflowText = overflowText := by decide
    have hfuel : 2 * overflowText.length + 2 = 36 := by decide
    rw [Json.readAll, if_neg (by decide), hskip, hfuel, hwhole]
    rfl
  simp only [Json.readWithin, hall]

theorem respond_overflowBody :
    bodyValue Limits.standard.json overflowText.bytes = .ok overflowValue ∧
      (∀ s : Text, overflowValue ≠ .ofSource s) ∧
      ∀ settings, respond settings (.toCompile overflowText.bytes) = .unwritable ∧
        (respond settings (.toCompile overflowText.bytes)).status ≠ 422 := by
  have hvalue : bodyValue Limits.standard.json overflowText.bytes = .ok overflowValue :=
    bodyValue_bytes ⟨by decide, by decide⟩ ⟨by decide, by decide⟩ Json.readWithin_overflowText
  have hother : ∀ s : Text, overflowValue ≠ .ofSource s := by
    intro s
    simp [overflowValue, Json.ofSource]
  have hanswer (settings : Settings) :
      respond settings (.toCompile overflowText.bytes) = .unwritable := by
    rw [respond_toCompile hvalue]
    rfl
  refine ⟨hvalue, hother, fun settings => ⟨hanswer settings, ?_⟩⟩
  rw [hanswer settings]
  decide

end PlainEnglish
