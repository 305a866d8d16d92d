import PlainEnglish.Proofs.Token.Column

/-!
# Tokens and the lines of a source

The tokens of a source follow its lines: none for a blank line, and for any other line those of
its segments and a newline behind all of them. The tokens of a segment share a column, which is
that of a word, and words stand apart, so the columns of a line never go down and the newline has
the greatest one.

Main statement: `Token.scan_positions`.
-/

namespace PlainEnglish

/-! ### Written lines -/

/-- A line in which something other than blanks is written. -/
def Text.IsWritten (text : Text) : Prop := ∃ c ∈ text, isBlank c = false

/-- A column, counted from one, is right behind the last character of a line that is not
blank. -/
def Text.EndsBefore (text : Text) (column : Int) : Prop :=
  ∃ before c after, text = before ++ c :: after ∧ isBlank c = false ∧
    (∀ d ∈ after, isBlank d = true) ∧ column = before.length + 2

lemma Text.isWritten_iff_words_ne_nil {text : Text} : text.IsWritten ↔ text.words ≠ [] := by
  rw [Ne, Text.words_eq_nil_iff, Bool.not_eq_false, List.any_eq_true]
  simp [Text.IsWritten]

/-- What trimming leaves of a written line goes as far as its last character that is not
blank. -/
lemma Text.IsWritten.endsBefore {text : Text} (h : text.IsWritten) :
    text.EndsBefore (text.trimEnd.length + 1) := by
  induction text using List.reverseRecOn with
  | nil =>
    obtain ⟨c, hc, -⟩ := h
    exact absurd hc List.not_mem_nil
  | append_singleton text c ih =>
    cases hblank : isBlank c with
    | false =>
      have hlast : ∀ d ∈ (text ++ [c]).getLast?, isBlank d = false := by
        simpa using hblank
      refine ⟨text, c, [], rfl, hblank, List.forall_mem_nil _, ?_⟩
      rw [Text.trimEnd_eq_self hlast, List.length_append, List.length_singleton]
      push_cast
      ring
    | true =>
      have htext : Text.IsWritten text := by
        obtain ⟨d, hd, hnot⟩ := h
        rcases List.mem_append.mp hd with hd | hd
        · exact ⟨d, hd, hnot⟩
        · rw [List.mem_singleton.mp hd, hblank] at hnot
          exact Bool.noConfusion hnot
      obtain ⟨before, d, after, rfl, hd, hafter, hcolumn⟩ := ih htext
      have hc : ∀ e ∈ [c], isBlank e = true := List.forall_mem_singleton.mpr hblank
      refine ⟨before, d, after ++ [c], by simp, hd, List.forall_mem_append.mpr ⟨hafter, hc⟩, ?_⟩
      rw [Text.trimEnd_append_of_blank hc, hcolumn]

/-- The words of a line stand within what trimming leaves of it. -/
lemma Word.StandsIn.column_le {word : Word} {text : Text} (h : word.StandsIn text) :
    word.column ≤ text.trimEnd.length := by
  obtain ⟨hword, before, after, rfl, hcolumn, -, -⟩ := h
  have hlast : ∀ c ∈ (before ++ word.text).getLast?, isBlank c = false := by
    rw [List.getLast?_append_of_ne_nil _ hword.ne_nil]
    exact fun c hc => hword.not_blank c (List.mem_of_getLast? hc)
  have hpos := List.length_pos_of_ne_nil hword.ne_nil
  rw [← List.append_assoc, Text.trimEnd_append hlast, List.length_append, List.length_append]
  omega

/-! ### Single lines -/

section

variable {line : Int} {text : Text} {t : Token}

/-- A token of a line has the column of one of its words. -/
lemma Token.exists_word_of_mem_ofLine {words : List Word} (h : t ∈ Token.ofLine line words) :
    t.line = line ∧ ∃ word ∈ words, t.column = word.column := by
  rw [Token.ofLine_eq_flatMap] at h
  obtain ⟨s, hs, ht⟩ := List.mem_flatMap.mp h
  obtain ⟨hline, first, hfirst, hcolumn⟩ := Segment.place_of_mem_tokens ht
  exact ⟨hline, first, (Segment.words_sublist_of_mem hs).subset (List.mem_of_mem_head? hfirst),
    hcolumn⟩

/-- The columns of a line go up from one segment to the next, and they stay within a segment. -/
lemma Token.pairwise_ofLine (line : Int) {words : List Word}
    (h : words.Pairwise fun a b => a.column < b.column) :
    (Token.ofLine line words).Pairwise fun a b => a.column ≤ b.column := by
  rw [Token.ofLine_eq_flatMap, List.pairwise_flatMap]
  constructor
  · intro s _
    apply List.pairwise_of_forall_mem_list
    intro a ha b hb
    obtain ⟨-, first, hfirst, ha⟩ := Segment.place_of_mem_tokens ha
    obtain ⟨-, first', hfirst', hb⟩ := Segment.place_of_mem_tokens hb
    obtain rfl := Option.some.inj (hfirst.symm.trans hfirst')
    rw [ha, hb]
  · have hsegments :=
      (List.pairwise_flatMap.mp (h.sublist (Segment.words_sublist_ofLine words))).2
    apply hsegments.imp
    intro s s' hlt a ha b hb
    obtain ⟨-, first, hfirst, ha⟩ := Segment.place_of_mem_tokens ha
    obtain ⟨-, first', hfirst', hb⟩ := Segment.place_of_mem_tokens hb
    have hcolumn := hlt first (List.mem_of_mem_head? hfirst) first'
      (List.mem_of_mem_head? hfirst')
    rw [ha, hb]
    exact_mod_cast hcolumn.le

lemma Token.ofPhysicalLine_of_not_isWritten (h : ¬text.IsWritten) (line : Int) :
    Token.ofPhysicalLine text line = [] := by
  have hwords : text.words = [] := by
    by_contra hne
    exact h (Text.isWritten_iff_words_ne_nil.mpr hne)
  simp [Token.ofPhysicalLine, hwords]

/-- A written line has a newline behind its other tokens. -/
lemma Token.ofPhysicalLine_of_isWritten (h : text.IsWritten) (line : Int) :
    ∃ (row : List Token) (newline : Token), Token.ofPhysicalLine text line = row ++ [newline] ∧
      newline.kind = .newline ∧ newline.line = line ∧ text.EndsBefore newline.column ∧
      row.Pairwise (fun a b => a.column ≤ b.column) ∧
      ∀ t ∈ row, t.kind ≠ .newline ∧ t.kind ≠ .finish ∧ t.line = line ∧
        t.column < newline.column := by
  refine ⟨Token.ofLine line text.words, _,
    Token.ofPhysicalLine_of_words (Text.isWritten_iff_words_ne_nil.mp h) line, rfl, rfl,
    h.endsBefore, ?_, ?_⟩
  · apply Token.pairwise_ofLine
    apply (Text.pairwise_words text).imp
    intro a b hlt
    omega
  · intro t ht
    obtain ⟨hnewline, hfinish⟩ := (Token.of_mem_ofLine ht).kind_ne
    obtain ⟨hline, word, hword, hcolumn⟩ := Token.exists_word_of_mem_ofLine ht
    have hle := (Text.standsIn_of_mem_words hword).column_le
    refine ⟨hnewline, hfinish, hline, ?_⟩
    rw [hcolumn]
    dsimp only
    omega

lemma Token.place_of_mem_ofPhysicalLine (h : t ∈ Token.ofPhysicalLine text line) :
    text.IsWritten ∧ t.kind ≠ .finish ∧ t.line = line := by
  by_cases hwritten : text.IsWritten
  · obtain ⟨row, newline, heq, hkind, hline, -, -, hrow⟩ :=
      Token.ofPhysicalLine_of_isWritten hwritten line
    rw [heq, List.mem_append, List.mem_singleton] at h
    rcases h with h | rfl
    · obtain ⟨-, hfinish, htline, -⟩ := hrow t h
      exact ⟨hwritten, hfinish, htline⟩
    · exact ⟨hwritten, by simp [hkind], hline⟩
  · rw [Token.ofPhysicalLine_of_not_isWritten hwritten] at h
    exact absurd h List.not_mem_nil

end

/-! ### All lines -/

/-- Whether a token lies on a line, the lines counted from one. -/
def Token.isOn (line : Nat) (t : Token) : Bool := t.line = line

/-- A token lies on a later line than another one, or on the same line and not in front of it. -/
def Token.NotBehind (a b : Token) : Prop :=
  a.line < b.line ∨ a.line = b.line ∧ a.column ≤ b.column

lemma Token.pairwise_ofPhysicalLine (text : Text) (line : Int) :
    (Token.ofPhysicalLine text line).Pairwise Token.NotBehind := by
  by_cases hwritten : text.IsWritten
  · obtain ⟨row, newline, heq, -, hline, -, hcolumns, hrow⟩ :=
      Token.ofPhysicalLine_of_isWritten hwritten line
    rw [heq, List.pairwise_append]
    refine ⟨?_, List.pairwise_singleton _ _, ?_⟩
    · apply hcolumns.imp_of_mem
      intro a b ha hb hle
      obtain ⟨-, -, haline, -⟩ := hrow a ha
      obtain ⟨-, -, hbline, -⟩ := hrow b hb
      exact Or.inr ⟨haline.trans hbline.symm, hle⟩
    · intro a ha b hb
      obtain ⟨-, -, haline, hlt⟩ := hrow a ha
      rw [List.mem_singleton.mp hb]
      exact Or.inr ⟨haline.trans hline.symm, hlt.le⟩
  · rw [Token.ofPhysicalLine_of_not_isWritten hwritten]
    exact List.Pairwise.nil

section

variable {source : Text} {t : Token}

/-- A token of a source lies on a written line. -/
lemma Token.exists_line_of_mem_ofLines (h : t ∈ Token.ofLines source) :
    t.kind ≠ .finish ∧ ∃ (i : Nat) (text : Text), source.lines[i]? = some text ∧ text.IsWritten ∧
      t.line = i + 1 := by
  obtain ⟨⟨text, line⟩, hmem, ht⟩ := List.mem_flatMap.mp h
  obtain ⟨hwritten, hkind, htline⟩ := Token.place_of_mem_ofPhysicalLine ht
  obtain ⟨hle, htext⟩ := List.mk_mem_zipIdx_iff_le_and_getElem?_sub.mp hmem
  exact ⟨hkind, line - 1, text, htext, hwritten, by omega⟩

lemma Token.pairwise_ofLines (source : Text) :
    (Token.ofLines source).Pairwise Token.NotBehind := by
  have hlines : (source.lines.zipIdx 1).Pairwise fun a b => a.2 < b.2 := by
    rw [← List.pairwise_map, List.zipIdx_map_snd]
    exact List.pairwise_lt_range'
  rw [Token.ofLines, List.pairwise_flatMap]
  refine ⟨fun entry _ => Token.pairwise_ofPhysicalLine _ _, hlines.imp ?_⟩
  intro entry entry' hlt a ha b hb
  left
  rw [(Token.place_of_mem_ofPhysicalLine ha).2.2, (Token.place_of_mem_ofPhysicalLine hb).2.2]
  exact_mod_cast hlt

lemma Token.filter_isOn_eq_nil {i : Nat} {lines : List (Text × Nat)}
    (h : ∀ entry ∈ lines, entry.2 ≠ i) :
    (lines.flatMap fun (text, line) => Token.ofPhysicalLine text line).filter
      (Token.isOn i) = [] := by
  rw [List.filter_eq_nil_iff]
  intro t ht
  obtain ⟨entry, hentry, ht⟩ := List.mem_flatMap.mp ht
  rw [Token.isOn, (Token.place_of_mem_ofPhysicalLine ht).2.2, decide_eq_true_eq, Nat.cast_inj]
  exact h entry hentry

/-- The tokens on one line are those of that line. -/
lemma Token.filter_isOn_ofLines {i : Nat} {text : Text} (h : source.lines[i]? = some text) :
    (Token.ofLines source).filter (Token.isOn (i + 1)) =
      Token.ofPhysicalLine text (i + 1 : Nat) := by
  obtain ⟨hi, rfl⟩ := List.getElem?_eq_some_iff.mp h
  have hall : (Token.ofPhysicalLine source.lines[i] (i + 1 : Nat)).filter (Token.isOn (i + 1)) =
      Token.ofPhysicalLine source.lines[i] (i + 1 : Nat) := by
    rw [List.filter_eq_self]
    intro t ht
    rw [Token.isOn, (Token.place_of_mem_ofPhysicalLine ht).2.2, decide_eq_true_eq]
  have hsplit : source.lines.zipIdx 1 = (source.lines.take i).zipIdx 1 ++
      (source.lines[i], i + 1) :: (source.lines.drop (i + 1)).zipIdx (i + 2) := by
    conv_lhs => rw [← List.take_append_drop i source.lines, List.drop_eq_getElem_cons hi]
    rw [List.zipIdx_append, List.zipIdx_cons, List.length_take, min_eq_left hi.le,
      Nat.add_comm 1 i]
  have hbefore : ∀ entry ∈ (source.lines.take i).zipIdx 1, entry.2 ≠ i + 1 := by
    intro entry hentry
    have hlt := List.snd_lt_add_of_mem_zipIdx hentry
    rw [List.length_take] at hlt
    omega
  have hafter : ∀ entry ∈ (source.lines.drop (i + 1)).zipIdx (i + 2), entry.2 ≠ i + 1 := by
    intro entry hentry
    have hle := List.le_snd_of_mem_zipIdx hentry
    omega
  rw [Token.ofLines, hsplit, List.flatMap_append, List.flatMap_cons, List.filter_append,
    List.filter_append, Token.filter_isOn_eq_nil hbefore, hall, Token.filter_isOn_eq_nil hafter,
    List.nil_append, List.append_nil]

end

/-- The tokens of a source lie on its written lines, in order of their places, with an end token
behind the last line. Those of a written line end with its only newline, which is right behind
the last character of the line that is not blank and behind all other tokens of the line. -/
theorem Token.scan_positions (source : Text) :
    (∃ row : List Token, Token.scan source = row ++ [⟨.finish, [], source.lines.length + 1, 1⟩] ∧
      ∀ t ∈ row, t.kind ≠ .finish ∧ ∃ (i : Nat) (text : Text), source.lines[i]? = some text ∧
        text.IsWritten ∧ t.line = i + 1) ∧
    (∀ (i : Nat) (text : Text), source.lines[i]? = some text → text.IsWritten →
      ∃ (row : List Token) (newline : Token),
        (Token.scan source).filter (Token.isOn (i + 1)) = row ++ [newline] ∧
        newline.kind = .newline ∧ text.EndsBefore newline.column ∧
        ∀ t ∈ row, t.kind ≠ .newline ∧ t.column < newline.column) ∧
    (Token.scan source).Pairwise Token.NotBehind := by
  have hline {t : Token} (ht : t ∈ Token.ofLines source) : t.line < source.lines.length + 1 := by
    obtain ⟨-, i, text, htext, -, hline⟩ := Token.exists_line_of_mem_ofLines ht
    have hlt := (List.getElem?_eq_some_iff.mp htext).1
    omega
  refine ⟨⟨Token.ofLines source, Token.scan_eq source, ?_⟩, ?_, ?_⟩
  · exact fun t ht => Token.exists_line_of_mem_ofLines ht
  · intro i text htext hwritten
    obtain ⟨row, newline, heq, hkind, -, hcolumn, -, hrow⟩ :=
      Token.ofPhysicalLine_of_isWritten hwritten (i + 1 : Nat)
    refine ⟨row, newline, ?_, hkind, hcolumn, fun t ht => ⟨(hrow t ht).1, (hrow t ht).2.2.2⟩⟩
    have hlt := (List.getElem?_eq_some_iff.mp htext).1
    have hfinish : [(⟨.finish, [], source.lines.length + 1, 1⟩ : Token)].filter
        (Token.isOn (i + 1)) = [] := by
      rw [List.filter_eq_nil_iff, List.forall_mem_singleton, Token.isOn, decide_eq_true_eq]
      dsimp only
      omega
    rw [Token.scan_eq, List.filter_append, Token.filter_isOn_ofLines htext, heq, hfinish,
      List.append_nil]
  · rw [Token.scan_eq, List.pairwise_append]
    refine ⟨Token.pairwise_ofLines source, List.pairwise_singleton _ _, ?_⟩
    intro a ha b hb
    rw [List.mem_singleton.mp hb]
    exact Or.inl (hline ha)

end PlainEnglish
