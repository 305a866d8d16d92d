import PlainEnglish.Proofs.Number.Numeral
import PlainEnglish.Proofs.Text.Parts
import PlainEnglish.Proofs.Token.Layout

/-!
# Listings tell tokens apart

The texts of tokens are listed as they are, so they may look like any other part of an entry. But
the name of a kind has capital letters only and ends at the first space, however many spaces fill
it up, and the number of a line has no space in it and begins behind the last one. What stands
between them is the text. So nothing but the column is lost.

Main statement: `Token.listing_faithful`.
-/

namespace PlainEnglish

/-- The tokens that a listing shows. -/
def Token.shown (tokens : List Token) : List Token := tokens.filter fun t => !t.kind.isHidden

lemma Token.listing_eq_map (width : Int) (tokens : List Token) :
    Token.listing width tokens = (Token.shown tokens).map (Token.listed width) := rfl

section

variable {width width' : Int} {t u : Token}

lemma Token.atMargin_eq_iff :
    t.atMargin = u.atMargin ↔ t.kind = u.kind ∧ t.text = u.text ∧ t.line = u.line := by
  simp [Token.atMargin]

/-! ### Single entries -/

/-- An entry cut at the last space in front of its arrow and at the last space of all. -/
lemma Token.listed_eq (width : Int) (t : Token) : ∃ spaces, t.listed width = t.kind.name ++
    ' ' :: (List.replicate spaces ' ' ++
      '-' :: ("> '" ++ t.text ++ "' (line" ++ ' ' :: (Text.ofInt t.line ++ [')']))) := by
  refine ⟨width.toNat - t.kind.name.length, ?_⟩
  have hspaces (k : Nat) (rest : Text) :
      List.replicate k ' ' ++ ' ' :: rest = ' ' :: (List.replicate k ' ' ++ rest) := by
    rw [List.append_cons, ← List.replicate_succ', List.replicate_succ, List.cons_append]
  rw [← hspaces]
  simp [Token.listed, Text.padEnd]

/-- What an entry shows can be read off it, without knowing its width. -/
lemma Token.atMargin_of_listed_eq (h : t.listed width = u.listed width') :
    t.atMargin = u.atMargin := by
  obtain ⟨k, hk⟩ := Token.listed_eq width t
  obtain ⟨k', hk'⟩ := Token.listed_eq width' u
  rw [hk, hk'] at h
  -- the kind, up to the first space
  obtain ⟨hname, hrest⟩ := Text.append_inj_of_forall (fun c => Kind.isUpper_of_mem_name)
    (fun c => Kind.isUpper_of_mem_name) (by simp) (by simp) h
  -- the spaces, up to the arrow
  obtain ⟨-, harrow⟩ := Text.append_inj_of_forall (p := (· == ' ')) (by simp) (by simp) (by simp)
    (by simp) (List.cons.inj hrest).2
  -- the text and the line, around the last space
  have hline (n : Int) : ' ' ∉ Text.ofInt n ++ [')'] := by
    have hnone := Text.not_mem_ofInt (n := n) (c := ' ') (by decide) (by decide)
    simp [hnone]
  obtain ⟨htext, hnumber⟩ := Text.append_cons_inj_of_not_mem (hline _) (hline _)
    (List.cons.inj harrow).2
  rw [Token.atMargin_eq_iff]
  refine ⟨Kind.name_injective hname, ?_, Text.ofInt_injective (List.append_cancel_right hnumber)⟩
  exact List.append_cancel_left (List.append_cancel_right htext)

/-! ### Entries on lines -/

lemma Token.newline_not_mem_listed (width : Int) (h : '\n' ∉ t.text) :
    '\n' ∉ t.listed width := by
  have hname : '\n' ∉ t.kind.name :=
    fun hmem => absurd (Kind.isUpper_of_mem_name hmem) (by decide)
  have hline : '\n' ∉ Text.ofInt t.line := Text.not_mem_ofInt (by decide) (by decide)
  simp [Token.listed, Text.padEnd, hname, h, hline]

lemma Token.listed_ne_nil (width : Int) (t : Token) : t.listed width ≠ [] := by
  simp [Token.listed]

lemma Token.entry_of_mem_listing {tokens : List Token}
    (h : ∀ t ∈ Token.shown tokens, '\n' ∉ t.text) :
    ∀ entry ∈ Token.listing width tokens, entry ≠ [] ∧ '\n' ∉ entry := by
  intro entry hentry
  rw [Token.listing_eq_map] at hentry
  obtain ⟨t, ht, rfl⟩ := List.mem_map.mp hentry
  exact ⟨t.listed_ne_nil width, t.newline_not_mem_listed width (h t ht)⟩

end

/-- Entries that are the same one by one show the same tokens. -/
lemma Token.map_atMargin_of_map_listed {width width' : Int} {tokens tokens' : List Token}
    (h : tokens.map (Token.listed width) = tokens'.map (Token.listed width')) :
    tokens.map Token.atMargin = tokens'.map Token.atMargin := by
  induction tokens generalizing tokens' with
  | nil =>
    rw [List.map_nil, eq_comm, List.map_eq_nil_iff] at h
    rw [h]
  | cons t tokens ih =>
    cases tokens' with
    | nil => exact absurd h (List.cons_ne_nil _ _)
    | cons u tokens' =>
      obtain ⟨hentry, hrest⟩ := List.cons.inj h
      rw [List.map_cons, List.map_cons, Token.atMargin_of_listed_eq hentry, ih hrest]

/-- Joined entries show the same tokens if no newline stands in the text of one that is shown. -/
lemma Token.map_atMargin_of_join_listing {width width' : Int} {tokens tokens' : List Token}
    (htokens : ∀ t ∈ Token.shown tokens, '\n' ∉ t.text)
    (htokens' : ∀ t ∈ Token.shown tokens', '\n' ∉ t.text)
    (h : Text.join ['\n'] (Token.listing width tokens) =
      Text.join ['\n'] (Token.listing width' tokens')) :
    (Token.shown tokens).map Token.atMargin = (Token.shown tokens').map Token.atMargin := by
  have hlisting : Token.listing width tokens = Token.listing width' tokens' :=
    Text.eq_of_join_eq (Token.entry_of_mem_listing htokens)
      (Token.entry_of_mem_listing htokens') h
  rw [Token.listing_eq_map, Token.listing_eq_map] at hlisting
  exact Token.map_atMargin_of_map_listed hlisting

/-! ### Sources -/

lemma Token.newline_not_mem_of_mem_shown_scan {source : Text} {t : Token}
    (h : t ∈ Token.shown (Token.scan source)) : '\n' ∉ t.text := by
  obtain ⟨hscan, hshown⟩ := List.mem_filter.mp h
  rw [Token.scan_eq, List.mem_append, List.mem_singleton] at hscan
  rcases hscan with hline | rfl
  · have hkind : t.kind ≠ .newline := by
      intro hkind
      rw [hkind] at hshown
      exact Bool.noConfusion hshown
    exact fun hmem => absurd (Token.isLineBreak_eq_false hline hkind hmem) (by decide)
  · exact List.not_mem_nil

/-- No newline stands in a token of a source but in those that end its lines, so sources with the
same listing have the same tokens but for the columns. -/
theorem Token.map_atMargin_shown_scan {width width' : Int} {s s' : Text}
    (h : Text.join ['\n'] (Token.listing width (Token.scan s)) =
      Text.join ['\n'] (Token.listing width' (Token.scan s'))) :
    (Token.shown (Token.scan s)).map Token.atMargin =
      (Token.shown (Token.scan s')).map Token.atMargin :=
  Token.map_atMargin_of_join_listing (fun _ => Token.newline_not_mem_of_mem_shown_scan)
    (fun _ => Token.newline_not_mem_of_mem_shown_scan) h

/-! ### All that is listed -/

/-- A listing loses nothing but columns, whatever its width and whatever characters the texts of
the tokens have: an entry tells the kind, the text and the line of its token, and entries joined
by newlines tell those of all tokens that are shown, if no newline stands in the text of one of
them. -/
theorem Token.listing_faithful (width width' : Int) :
    (∀ t u : Token, t.listed width = u.listed width' →
      t.kind = u.kind ∧ t.text = u.text ∧ t.line = u.line) ∧
    ∀ tokens tokens' : List Token,
      (∀ t ∈ Token.shown tokens, '\n' ∉ t.text) → (∀ t ∈ Token.shown tokens', '\n' ∉ t.text) →
      Text.join ['\n'] (Token.listing width tokens) =
        Text.join ['\n'] (Token.listing width' tokens') →
      (Token.shown tokens).map Token.atMargin = (Token.shown tokens').map Token.atMargin := by
  constructor
  · intro t u h
    exact Token.atMargin_eq_iff.mp (Token.atMargin_of_listed_eq h)
  · intro tokens tokens' htokens htokens' h
    exact Token.map_atMargin_of_join_listing htokens htokens' h

/-- Printing a string that looks like the end of an entry. -/
def imitatingSource : Text := "print \"a' (line 1)\""

/-- The same with other blanks in front and behind. -/
def indentedSource : Text := "\t print   \"a' (line 1)\" "

/-- The string as it is scanned in the one source and in the other. -/
def imitatingToken (column : Int) : Token := ⟨.string, "a' (line 1)", 1, column⟩

theorem Token.listing_imitatingSource :
    imitatingToken 7 ∈ Token.scan imitatingSource ∧
    imitatingToken 11 ∈ Token.scan indentedSource ∧
    (imitatingToken 7).listed 5 = (imitatingToken 11).listed (-1) ∧
    (imitatingToken 7).text = (imitatingToken 11).text ∧
    (∀ t ∈ Token.shown (Token.scan imitatingSource), '\n' ∉ t.text) ∧
    (∀ t ∈ Token.shown (Token.scan indentedSource), '\n' ∉ t.text) ∧
    Text.join ['\n'] (Token.listing 5 (Token.scan imitatingSource)) =
      "PRINT -> 'print' (line 1)\nSTRING -> 'a' (line 1)' (line 1)" ∧
    Text.join ['\n'] (Token.listing (-1) (Token.scan indentedSource)) =
      "PRINT -> 'print' (line 1)\nSTRING -> 'a' (line 1)' (line 1)" ∧
    (Token.shown (Token.scan imitatingSource)).map Token.atMargin =
      (Token.shown (Token.scan indentedSource)).map Token.atMargin := by
  have hlisting : Text.join ['\n'] (Token.listing 5 (Token.scan imitatingSource)) =
      "PRINT -> 'print' (line 1)\nSTRING -> 'a' (line 1)' (line 1)" := by decide +kernel
  have hlisting' : Text.join ['\n'] (Token.listing (-1) (Token.scan indentedSource)) =
      "PRINT -> 'print' (line 1)\nSTRING -> 'a' (line 1)' (line 1)" := by decide +kernel
  have hlisted : (imitatingToken 7).listed 5 = (imitatingToken 11).listed (-1) := by
    decide +kernel
  have hfree (source : Text) : ∀ t ∈ Token.shown (Token.scan source), '\n' ∉ t.text :=
    fun _ => Token.newline_not_mem_of_mem_shown_scan
  obtain ⟨hentry, hjoined⟩ := Token.listing_faithful 5 (-1)
  refine ⟨by decide +kernel, by decide +kernel, hlisted, (hentry _ _ hlisted).2.1, hfree _,
    hfree _, hlisting, hlisting', ?_⟩
  exact hjoined _ _ (hfree _) (hfree _) (hlisting.trans hlisting'.symm)

/-- A text with a newline in it can look like two entries. -/
example : Text.join ['\n'] (Token.listing 0 [⟨.string, "a' (line 1)\nNUMBER -> '2", 1, 1⟩]) =
    Text.join ['\n'] (Token.listing 0 [⟨.string, "a", 1, 1⟩, ⟨.number, "2", 1, 5⟩]) := by
  decide

end PlainEnglish
