import PlainEnglish.Proofs.Compile.Story
import PlainEnglish.Proofs.Grammar.Layout

/-!
# Layout does not matter

Source texts whose lines have the same words are compiled alike, whatever blanks there are
between the words: nothing that a compilation shows or tells depends on the columns of tokens.

Main statement: `compile_congr_of_wordTexts`.
-/

namespace PlainEnglish

/-! ### What is told about tokens -/

/-- A listing shows no columns. -/
lemma Token.listing_map_atMargin (width : Int) (tokens : List Token) :
    Token.listing width (tokens.map Token.atMargin) = Token.listing width tokens := by
  rw [Token.listing, List.filter_map, List.map_map]
  rfl

/-- A syntax error shows its column nowhere but in its diagnostic. -/
lemma SyntaxError.message_atMargin (e : SyntaxError) : e.atMargin.message = e.message := by
  cases e <;> rfl

lemma CompileEvent.record_syntaxError_atMargin (e : SyntaxError) :
    (CompileEvent.syntaxError e.atMargin).record = (CompileEvent.syntaxError e).record := by
  cases e <;> rfl

/-! ### Compilations -/

section

variable {s t : Text} (h : s.lines.map Text.wordTexts = t.lines.map Text.wordTexts)

include h

lemma Token.length_scan_congr : (Token.scan s).length = (Token.scan t).length := by
  simpa using congrArg List.length (Token.map_atMargin_scan_congr h)

lemma Token.listing_scan_congr (width : Int) :
    Token.listing width (Token.scan s) = Token.listing width (Token.scan t) := by
  rw [← Token.listing_map_atMargin, Token.map_atMargin_scan_congr h, Token.listing_map_atMargin]

lemma Record.ofScan_congr : Record.ofScan s (Token.scan s) = Record.ofScan t (Token.scan t) := by
  have hlines : s.lines.length = t.lines.length := by
    simpa using congrArg List.length h
  unfold Record.ofScan
  rw [hlines, Token.length_scan_congr h]

end

/-- Source texts with the same words on every line, with whatever blanks around them, have the
same tokens but for the columns, and they are compiled alike: with the same outcome and the same
records, events among them. -/
theorem compile_congr_of_wordTexts (settings : Settings) {s t : Text}
    (h : s.lines.map Text.wordTexts = t.lines.map Text.wordTexts) :
    (Token.scan s).map Token.atMargin = (Token.scan t).map Token.atMargin ∧
      compile settings s = compile settings t := by
  refine ⟨Token.map_atMargin_scan_congr h, ?_⟩
  rcases Program.parse_congr h with ⟨p, hs, ht⟩ | ⟨e, e', hs, ht, he⟩
  · rw [compile_eq_of_ok hs, compile_eq_of_ok ht, Record.ofScan_congr h,
      Token.listing_scan_congr h, Token.length_scan_congr h]
  · rw [compile_eq_of_error hs, compile_eq_of_error ht, Record.ofScan_congr h,
      ← e.message_atMargin, ← CompileEvent.record_syntaxError_atMargin e, he,
      e'.message_atMargin, CompileEvent.record_syntaxError_atMargin e']

/-- A program with its words where one would put them, and a line that is empty. -/
def tidySource : Text := "create variable x with value \"a b\"\n\nprint x\n"

/-- The same program with tabs and other blanks, in a quoted text as well. -/
def untidySource : Text :=
  "\tcreate  variable\u00a0x with value \"a \u3000 b\"  \r\n \u2003 \rprint\t\tx\u0085"

theorem compile_congr_untidySource :
    tidySource.lines.map Text.wordTexts = untidySource.lines.map Text.wordTexts ∧
      Token.scan tidySource ≠ Token.scan untidySource ∧
      compile Settings.standard tidySource = compile Settings.standard untidySource := by
  have h : tidySource.lines.map Text.wordTexts = untidySource.lines.map Text.wordTexts := by
    decide +kernel
  exact ⟨h, by decide +kernel, (compile_congr_of_wordTexts Settings.standard h).2⟩

end PlainEnglish
