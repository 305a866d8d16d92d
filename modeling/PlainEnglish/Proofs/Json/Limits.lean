import Mathlib.Data.List.TakeWhile
import PlainEnglish.Proofs.Json.Keys
import PlainEnglish.Proofs.Json.Text
import PlainEnglish.Proofs.Settings.Shown

/-!
# The limits of reading documents

A reader gives up where brackets are nested too deep, which takes more opening brackets than
there are levels, where a whole number has too many digits, which takes a row of that many, and
where half of a pair of code units stands alone, which takes an escape of it. What it does not
give up can be shown. Every reading leaves an end segment of its document, and that carries the
account from the parts of a document to the whole.

Main statements: `Json.isSeen_of_readWithin`, `Json.obstacle?_of_readWithin`.
-/

namespace PlainEnglish

/-! ### Values of digits -/

lemma digitValue?_getD_lt (c : Char) : (digitValue? c).getD 0 < 10 := by
  rw [digitValue?]
  cases hzero : digitZeros.find? fun first => first ≤ c.toNat && c.toNat < first + 10 with
  | none => exact Nat.zero_lt_succ 9
  | some first =>
    have hrange := List.find?_some hzero
    simp only [Bool.and_eq_true, decide_eq_true_eq] at hrange
    rw [Option.map_some, Option.getD_some]
    omega

lemma Text.digitsValue_lt (digits : Text) : Text.digitsValue digits < 10 ^ digits.length := by
  induction digits using List.reverseRecOn with
  | nil => decide
  | append_singleton digits c ih =>
    have hlast := digitValue?_getD_lt c
    rw [Text.digitsValue, List.foldl_concat, ← Text.digitsValue, List.length_append,
      List.length_singleton, Nat.pow_succ]
    omega

/-- A whole number in not too many digits can be written, whatever its sign. -/
lemma isWritable_of_natAbs {n : Int} {digits : Text} (h : n.natAbs = Text.digitsValue digits)
    (hlength : digits.length ≤ mostDigits) : isWritable n = true := by
  have hlimit : 10 ^ digits.length ≤ leastTooLong := by
    unfold leastTooLong
    generalize mostDigits = most at hlength ⊢
    exact Nat.pow_le_pow_right (by decide) hlength
  rw [isWritable, h]
  exact decide_eq_true ((Text.digitsValue_lt digits).trans_le hlimit)

/-! ### What a reading accounts for -/

/-- Whether a character opens another level of a document. -/
def Json.opensLevel (c : Char) : Bool := c == '[' || c == '\x7b'

/-- A text holds a row of so many digits, more than a whole number may have. -/
def Text.HasLongRow (digits : Nat) (t : Text) : Prop :=
  mostDigits < digits ∧ ∃ row, row <:+: t ∧ row.length = digits ∧
    ∀ c ∈ row, Json.isPlainDigit c = true

/-- A text holds an escape of half of a pair of code units. -/
def Text.EscapesHalf (t : Text) : Prop :=
  ∃ a b c d unit, ['\\', 'u', a, b, c, d] <:+: t ∧ Json.hexValue4? a b c d = some unit ∧
    isHalf unit = true

/-- What a text has in it if a reader with so much room gives it up for a fault. -/
def Json.Fault.IsSeen (room : Nat) (t : Text) : Json.Fault → Prop
  | .tooDeep => room < t.countP Json.opensLevel
  | .hugeInteger digits => t.HasLongRow digits
  | .halfPair => t.EscapesHalf
  | _ => True

/-- A reading of a text leaves an end segment of it and a value that can be shown in so many
levels, or the fault that it stops at is seen in the text. -/
def Json.Bounds (room levels : Nat) (t : Text) : Json.Reading Json → Prop
  | .ok (value, rest) => rest <:+ t ∧ (Datum.ofJson value).obstacle? levels = none
  | .error stop => stop.fault.IsSeen room t

section

variable {room levels : Nat} {t u : Text} {fault : Json.Fault} {result : Json.Reading Json}

lemma Text.HasLongRow.of_suffix {digits : Nat} (h : t.HasLongRow digits) (hsuffix : t <:+ u) :
    u.HasLongRow digits := by
  obtain ⟨hlong, row, hrow, hdigits⟩ := h
  exact ⟨hlong, row, hrow.trans hsuffix.isInfix, hdigits⟩

lemma Text.EscapesHalf.of_suffix (h : t.EscapesHalf) (hsuffix : t <:+ u) : u.EscapesHalf := by
  obtain ⟨a, b, c, d, unit, hescape, hunit⟩ := h
  exact ⟨a, b, c, d, unit, hescape.trans hsuffix.isInfix, hunit⟩

lemma Json.Fault.IsSeen.of_suffix (h : fault.IsSeen room t) (hsuffix : t <:+ u) :
    fault.IsSeen room u := by
  cases fault with
  | tooDeep => exact Nat.lt_of_lt_of_le h hsuffix.sublist.countP_le
  | hugeInteger digits => exact Text.HasLongRow.of_suffix h hsuffix
  | halfPair => exact Text.EscapesHalf.of_suffix h hsuffix
  | _ => trivial

/-- Behind an opening bracket there is one level less. -/
lemma Json.Fault.IsSeen.of_level {c : Char} (hc : Json.opensLevel c = true)
    (h : fault.IsSeen room t) : fault.IsSeen (room + 1) (c :: t) := by
  have hsuffix := List.suffix_cons c t
  cases fault with
  | tooDeep =>
    rw [Json.Fault.IsSeen, List.countP_cons_of_pos hc]
    exact Nat.succ_lt_succ h
  | hugeInteger digits => exact Text.HasLongRow.of_suffix h hsuffix
  | halfPair => exact Text.EscapesHalf.of_suffix h hsuffix
  | _ => trivial

lemma Json.Bounds.of_suffix (h : Json.Bounds room levels t result) (hsuffix : t <:+ u) :
    Json.Bounds room levels u result := by
  cases result with
  | error stop => exact Json.Fault.IsSeen.of_suffix h hsuffix
  | ok read => exact ⟨h.1.trans hsuffix, h.2⟩

lemma Json.Bounds.of_level {c : Char} (hc : Json.opensLevel c = true)
    (h : Json.Bounds room levels t result) : Json.Bounds (room + 1) levels (c :: t) result := by
  cases result with
  | error stop => exact Json.Fault.IsSeen.of_level hc h
  | ok read => exact ⟨h.1.trans (List.suffix_cons c t), h.2⟩

end

/-! ### Texts -/

section

variable {room : Nat} {t u rest opening content : Text} {stop : Json.Stop}
  {units read : List Nat}

lemma Json.skipSpace_suffix (t : Text) : Json.skipSpace t <:+ t := List.dropWhile_suffix _

lemma Json.readUnits_suffix (h : Json.readUnits opening units t = .ok (read, rest)) :
    rest <:+ t := by
  fun_induction Json.readUnits opening units t with
  | case2 units rest =>
    obtain ⟨-, rfl⟩ := Prod.mk.inj (Except.ok.inj h)
    exact List.suffix_cons _ _
  | case3 units a b c d e rest unit hunit ih =>
    exact (ih h).trans ⟨['\\', 'u', a, b, c, d], rfl⟩
  | case7 units c rest _ _ _ ih =>
    exact (ih h).trans ⟨['\\', c], rfl⟩
  | case10 units c rest _ _ _ _ _ ih => exact (ih h).trans (List.suffix_cons c rest)
  | _ => exact nomatch h

lemma Json.isSeen_of_readUnits (h : Json.readUnits opening units t = .error stop) :
    stop.fault.IsSeen room u := by
  fun_induction Json.readUnits opening units t with
  | case2 => exact nomatch h
  | case3 _ _ _ _ _ _ _ _ _ ih => exact ih h
  | case7 _ _ _ _ _ _ ih => exact ih h
  | case10 _ _ _ _ _ _ _ _ ih => exact ih h
  | _ =>
    obtain rfl := Except.error.inj h
    trivial

/-- Half of a pair is among the units only through an escape, since it is no character. -/
lemma Json.escapesHalf_of_readUnits {unit : Nat}
    (h : Json.readUnits opening units t = .ok (read, rest)) (hunit : unit ∈ read)
    (hhalf : isHalf unit = true) : unit ∈ units ∨ t.EscapesHalf := by
  have hchar (c : Char) {units : List Nat} (hmem : unit ∈ c.toNat :: units) : unit ∈ units := by
    refine (List.mem_cons.mp hmem).resolve_left ?_
    rintro rfl
    exact absurd (isHalf_toNat c) (ne_false_of_eq_true hhalf)
  fun_induction Json.readUnits opening units t with
  | case2 units rest =>
    obtain ⟨rfl, -⟩ := Prod.mk.inj (Except.ok.inj h)
    exact Or.inl (List.mem_reverse.mp hunit)
  | case3 units a b c d e rest escaped hvalue ih =>
    rcases ih h with hmem | hescape
    · rcases List.mem_cons.mp hmem with rfl | hmem
      · exact Or.inr ⟨a, b, c, d, unit, ⟨[], e :: rest, rfl⟩, hvalue, hhalf⟩
      · exact Or.inl hmem
    · exact Or.inr (hescape.of_suffix ⟨['\\', 'u', a, b, c, d], rfl⟩)
  | case7 units c rest _ short _ ih =>
    exact (ih h).imp (hchar short) fun hescape => hescape.of_suffix ⟨['\\', c], rfl⟩
  | case10 units c rest _ _ _ _ _ ih =>
    exact (ih h).imp (hchar c) fun hescape => hescape.of_suffix (List.suffix_cons c rest)
  | _ => exact nomatch h

/-- Joining two code units makes no half of a pair that was not there. -/
lemma Text.mem_of_mem_joinPair {unit point : Nat} (h : point ∈ Text.joinPair unit units)
    (hhalf : isHalf point = true) : point ∈ unit :: units := by
  unfold Text.joinPair at h
  split at h
  · next low more =>
    split at h
    · rcases List.mem_cons.mp h with hpoint | h
      · -- the joined character lies beyond the first plane
        rw [isHalf, Bool.and_eq_true, decide_eq_true_eq, decide_eq_true_eq] at hhalf
        omega
      · exact List.mem_cons_of_mem _ (List.mem_cons_of_mem _ h)
    · exact h
  · exact h

lemma Text.mem_of_mem_joinPairs {point : Nat} (h : point ∈ units.foldr Text.joinPair [])
    (hhalf : isHalf point = true) : point ∈ units := by
  induction units with
  | nil => exact h
  | cons unit units ih =>
    rcases List.mem_cons.mp (Text.mem_of_mem_joinPair h hhalf) with rfl | h
    · exact List.mem_cons_self
    · exact List.mem_cons_of_mem _ (ih h)

lemma Text.exists_isHalf_of_ofUnits? (h : Text.ofUnits? units = none) :
    ∃ unit ∈ units, isHalf unit = true := by
  unfold Text.ofUnits? Text.ofCodePoints? at h
  split at h
  · next hany =>
    obtain ⟨point, hmem, hhalf⟩ := List.any_eq_true.mp hany
    exact ⟨point, Text.mem_of_mem_joinPairs hmem hhalf, hhalf⟩
  · exact nomatch h

lemma Json.isSeen_of_readText (h : Json.readText t = .error stop) :
    stop.fault.IsSeen room t := by
  unfold Json.readText at h
  split at h
  · next stop' hunits =>
    obtain rfl := Except.error.inj h
    exact Json.isSeen_of_readUnits hunits
  · next units rest hunits =>
    split at h
    · exact nomatch h
    · next hnone =>
      obtain rfl := Except.error.inj h
      obtain ⟨unit, hmem, hhalf⟩ := Text.exists_isHalf_of_ofUnits? hnone
      have hescape := (Json.escapesHalf_of_readUnits hunits hmem hhalf).resolve_left
        List.not_mem_nil
      exact hescape.of_suffix (List.tail_suffix t)

lemma Json.readText_suffix (h : Json.readText t = .ok (content, rest)) : rest <:+ t := by
  unfold Json.readText at h
  split at h
  · exact nomatch h
  · next units more hunits =>
    split at h
    · obtain ⟨-, rfl⟩ := Prod.mk.inj (Except.ok.inj h)
      exact (Json.readUnits_suffix hunits).trans (List.tail_suffix t)
    · exact nomatch h

end

/-! ### Numbers -/

section

variable {room : Nat} {t whole rest part : Text} {value : Json}

lemma Json.readWhole?_eq (h : Json.readWhole? t = some (whole, rest)) :
    whole ++ rest = t ∧ ∀ c ∈ whole, Json.isPlainDigit c = true := by
  unfold Json.readWhole? at h
  split at h
  · obtain ⟨rfl, rfl⟩ := Prod.mk.inj (Option.some.inj h)
    exact ⟨rfl, List.forall_mem_singleton.mpr rfl⟩
  · simp only at h
    split at h
    · exact nomatch h
    · obtain ⟨rfl, rfl⟩ := Prod.mk.inj (Option.some.inj h)
      exact ⟨List.takeWhile_append_dropWhile, fun c => List.mem_takeWhile_imp⟩

lemma Json.readFraction_suffix (t : Text) : (Json.readFraction t).2 <:+ t := by
  unfold Json.readFraction
  split
  · simp only
    split
    · exact List.suffix_rfl
    · exact (List.dropWhile_suffix _).trans (List.suffix_cons _ _)
  · exact List.suffix_rfl

lemma Json.readExponent_suffix (t : Text) : (Json.readExponent t).2 <:+ t := by
  unfold Json.readExponent
  cases t with
  | nil => exact List.suffix_rfl
  | cons e rest =>
    have hsign (signed : Text × Text) (h : signed.2 <:+ rest) :
        (if signed.2.takeWhile Json.isPlainDigit = [] then ([], e :: rest)
          else (e :: signed.1 ++ signed.2.takeWhile Json.isPlainDigit,
            signed.2.dropWhile Json.isPlainDigit)).2 <:+ e :: rest := by
      split
      · exact List.suffix_rfl
      · exact (List.dropWhile_suffix _).trans (h.trans (List.suffix_cons e rest))
    simp only
    split
    · split
      · exact hsign (['+'], _) (List.suffix_cons _ _)
      · exact hsign (['-'], _) (List.suffix_cons _ _)
      · exact hsign ([], _) List.suffix_rfl
    · exact List.suffix_rfl

lemma Json.bounds_readNumber (room : Nat) (t : Text) :
    Json.Bounds room room t (Json.readNumber t) := by
  have hexpected : Json.Bounds room room t (.error ⟨.expectedValue, t⟩) := trivial
  unfold Json.readNumber
  split
  next sign unsigned hsigned =>
  have hunsigned : unsigned <:+ t := by
    split at hsigned
    · obtain ⟨-, rfl⟩ := Prod.mk.inj hsigned
      exact List.suffix_cons _ _
    · obtain ⟨-, rfl⟩ := Prod.mk.inj hsigned
      exact List.suffix_rfl
  split
  · exact hexpected
  · next whole afterWhole hwhole =>
    obtain ⟨heq, hdigits⟩ := Json.readWhole?_eq hwhole
    have hrest : (Json.readExponent (Json.readFraction afterWhole).2).2 <:+ t :=
      ((Json.readExponent_suffix _).trans (Json.readFraction_suffix _)).trans
        (List.IsSuffix.trans ⟨whole, heq⟩ hunsigned)
    simp only
    split
    · split
      · next hlong =>
        have hrow : whole <:+: t := List.IsInfix.trans ⟨[], afterWhole, heq⟩ hunsigned.isInfix
        exact ⟨hlong, whole, hrow, rfl, hdigits⟩
      · next hshort =>
        refine ⟨hrest, ?_⟩
        have habs : (if sign = [] then (whole.digitsValue : Int)
            else -whole.digitsValue).natAbs =
            whole.digitsValue := by
          split <;> simp
        rw [Datum.ofJson, Datum.obstacle?,
          if_pos (isWritable_of_natAbs habs (Nat.le_of_not_lt hshort))]
    · split
      · exact ⟨hrest, rfl⟩
      · exact hexpected

end

/-! ### Values -/

lemma Datum.ofItems_eq_map (items : List Json) :
    Datum.ofItems items = items.map Datum.ofJson := by
  induction items with
  | nil => rfl
  | cons item items ih => rw [Datum.ofItems, ih, List.map_cons]

lemma Datum.ofEntries_eq_map (entries : List (Text × Json)) :
    Datum.ofEntries entries = entries.map fun entry => (entry.1, Datum.ofJson entry.2) := by
  induction entries with
  | nil => rfl
  | cons entry entries ih =>
    obtain ⟨key, value⟩ := entry
    rw [Datum.ofEntries, ih, List.map_cons]

section

variable {fuel room : Nat} {t : Text} {key : Text} {value : Json} {items : List Json}
  {entries : List (Text × Json)}

lemma Datum.obstacle?_array : (Datum.ofJson (.array items)).obstacle? (room + 1) = none ↔
    ∀ item ∈ items, (Datum.ofJson item).obstacle? room = none := by
  rw [Datum.ofJson, Datum.ofItems_eq_map, Datum.obstacle?_list, Nat.add_sub_cancel,
    and_iff_right (Nat.succ_pos room), List.forall_mem_map]

lemma Datum.obstacle?_object : (Datum.ofJson (.object entries)).obstacle? (room + 1) = none ↔
    ∀ entry ∈ entries, (Datum.ofJson entry.2).obstacle? room = none := by
  rw [Datum.ofJson, Datum.ofEntries_eq_map, Datum.obstacle?_table, Nat.add_sub_cancel,
    and_iff_right (Nat.succ_pos room), List.forall_mem_map]

lemma Json.mem_insert {entry : Text × Json} (h : entry ∈ Json.insert key value entries) :
    entry = (key, value) ∨ entry ∈ entries := by
  induction entries with
  | nil => exact Or.inl (List.mem_singleton.mp h)
  | cons first entries ih =>
    obtain ⟨k, v⟩ := first
    rw [Json.insert] at h
    split at h
    · rcases List.mem_cons.mp h with h | h
      · exact Or.inl h
      · exact Or.inr (List.mem_cons_of_mem _ h)
    · rcases List.mem_cons.mp h with rfl | h
      · exact Or.inr List.mem_cons_self
      · exact (ih h).imp_right (List.mem_cons_of_mem _)

lemma Json.bounds_readWord? {result : Json × Text} (h : Json.readWord? t = some result) :
    Json.Bounds room room t (.ok result) := by
  have hwords : ∀ entry ∈ Json.wordValues, (Datum.ofJson entry.2).obstacle? room = none := by
    simp [Json.wordValues, Datum.ofJson, Datum.obstacle?]
  obtain ⟨entry, hfind, rfl⟩ := Option.map_eq_some_iff.mp h
  exact ⟨List.drop_suffix _ _, hwords entry (List.mem_of_find?_eq_some hfind)⟩

/-- Without room for another level the bracket that opens it is one too many. -/
lemma Json.bounds_tooDeep {c : Char} (hc : Json.opensLevel c = true) :
    Json.Bounds 0 0 (c :: t) (.error ⟨.tooDeep, c :: t⟩) := by
  rw [Json.Bounds, Json.Fault.IsSeen, List.countP_cons_of_pos hc]
  exact Nat.succ_pos _

/-- A reading behind a bracket is one of the text from the bracket on. -/
lemma Json.Bounds.of_bracket {c : Char} {u : Text} {result : Json.Reading Json}
    (hc : Json.opensLevel c = true) (hu : u <:+ t) (h : Json.Bounds room (room + 1) u result) :
    Json.Bounds (room + 1) (room + 1) (c :: t) result :=
  (h.of_suffix hu).of_level hc

mutual

/-- The reading of a value keeps within its bounds. -/
theorem Json.bounds_readValue (fuel room : Nat) (t : Text) :
    Json.Bounds room room t (Json.readValue fuel room t) := by
  cases fuel with
  | zero => trivial
  | succ fuel =>
    unfold Json.readValue
    split
    · next rest =>
      cases hread : Json.readText ('"' :: rest) with
      | error stop => exact Json.isSeen_of_readText hread
      | ok read => exact ⟨Json.readText_suffix hread, rfl⟩
    · next rest =>
      cases room with
      | zero => exact Json.bounds_tooDeep rfl
      | succ room =>
        rw [if_neg (Nat.succ_ne_zero room)]
        have hskip := Json.skipSpace_suffix rest
        split
        · next more heq =>
          refine ⟨?_, Datum.obstacle?_array.mpr (List.forall_mem_nil _)⟩
          exact (List.suffix_cons _ _).trans ((heq ▸ hskip).trans (List.suffix_cons _ _))
        · exact (Json.bounds_readItems fuel room [] _ (List.forall_mem_nil _)).of_bracket rfl
            hskip
    · next rest =>
      cases room with
      | zero => exact Json.bounds_tooDeep rfl
      | succ room =>
        rw [if_neg (Nat.succ_ne_zero room)]
        have hskip := Json.skipSpace_suffix rest
        split
        · next more heq =>
          refine ⟨?_, Datum.obstacle?_object.mpr (List.forall_mem_nil _)⟩
          exact (List.suffix_cons _ _).trans ((heq ▸ hskip).trans (List.suffix_cons _ _))
        · exact (Json.bounds_readEntries fuel room [] _ (List.forall_mem_nil _)).of_bracket rfl
            hskip
    · split
      · next result hword => exact Json.bounds_readWord? hword
      · exact Json.bounds_readNumber room _

/-- So does the reading of items, behind items that can be shown. -/
theorem Json.bounds_readItems (fuel room : Nat) (items : List Json) (t : Text)
    (h : ∀ item ∈ items, (Datum.ofJson item).obstacle? room = none) :
    Json.Bounds room (room + 1) t (Json.readItems fuel room items t) := by
  cases fuel with
  | zero => trivial
  | succ fuel =>
    have hvalue := Json.bounds_readValue fuel room t
    unfold Json.readItems
    split
    · next stop hread =>
      rw [hread] at hvalue
      exact hvalue
    · next item rest hread =>
      rw [hread] at hvalue
      obtain ⟨hrest, hitem⟩ := hvalue
      have hitems : ∀ i ∈ item :: items, (Datum.ofJson i).obstacle? room = none :=
        List.forall_mem_cons.mpr ⟨hitem, h⟩
      have hskip := (Json.skipSpace_suffix rest).trans hrest
      split
      · next more heq =>
        refine ⟨(List.suffix_cons _ _).trans (heq ▸ hskip), Datum.obstacle?_array.mpr ?_⟩
        exact fun item hmem => hitems item (List.mem_reverse.mp hmem)
      · next more heq =>
        have hmore := (List.suffix_cons _ _).trans (heq ▸ hskip)
        exact (Json.bounds_readItems fuel room (item :: items) _ hitems).of_suffix
          ((Json.skipSpace_suffix more).trans hmore)
      · trivial

/-- So does the reading of entries, after entries that can be shown. -/
theorem Json.bounds_readEntries (fuel room : Nat) (entries : List (Text × Json)) (t : Text)
    (h : ∀ entry ∈ entries, (Datum.ofJson entry.2).obstacle? room = none) :
    Json.Bounds room (room + 1) t (Json.readEntries fuel room entries t) := by
  cases fuel with
  | zero => trivial
  | succ fuel =>
    unfold Json.readEntries
    split
    · next rest =>
      split
      · next stop hread => exact Json.isSeen_of_readText hread
      · next key afterKey hread =>
        have hkey := (Json.skipSpace_suffix afterKey).trans (Json.readText_suffix hread)
        split
        · next afterColon heq =>
          have hcolon := (Json.skipSpace_suffix afterColon).trans
            ((List.suffix_cons _ _).trans (heq ▸ hkey))
          have hvalue := (Json.bounds_readValue fuel room (Json.skipSpace afterColon)).of_suffix
            hcolon
          split
          · next stop hread =>
            rw [hread] at hvalue
            exact hvalue
          · next value rest hread =>
            rw [hread] at hvalue
            obtain ⟨hrest, hvalue⟩ := hvalue
            have hskip := (Json.skipSpace_suffix rest).trans hrest
            have hentries : ∀ entry ∈ Json.insert key value entries,
                (Datum.ofJson entry.2).obstacle? room = none := by
              intro entry hmem
              rcases Json.mem_insert hmem with rfl | hmem
              · exact hvalue
              · exact h entry hmem
            split
            · next more heq =>
              exact ⟨(List.suffix_cons _ _).trans (heq ▸ hskip),
                Datum.obstacle?_object.mpr hentries⟩
            · next more heq =>
              have hmore := (List.suffix_cons _ _).trans (heq ▸ hskip)
              exact (Json.bounds_readEntries fuel room _ _ hentries).of_suffix
                ((Json.skipSpace_suffix more).trans hmore)
            · trivial
        · trivial
    · trivial

end

end

/-! ### Documents -/

section

variable {room : Nat} {t : Text} {value : Json}

/-- Blanks around its value change nothing about a document. -/
lemma Json.isSeen_of_readAll {stop : Json.Stop} (h : Json.readAll room t = .error stop) :
    stop.fault.IsSeen room t := by
  have hvalue := (Json.bounds_readValue (2 * t.length + 2) room (Json.skipSpace t)).of_suffix
    (Json.skipSpace_suffix t)
  unfold Json.readAll at h
  split at h
  · obtain rfl := Except.error.inj h
    trivial
  · split at h
    · next stop' hread =>
      rw [hread] at hvalue
      obtain rfl := Except.error.inj h
      exact hvalue
    · split at h
      · exact nomatch h
      · obtain rfl := Except.error.inj h
        trivial

/-- A document that is given up holds more opening brackets than there are levels, a row of too
many digits or an escape of half of a pair. -/
theorem Json.isSeen_of_readWithin {e : Json.ReadError} (h : Json.readWithin room t = .error e) :
    e.fault.IsSeen room t := by
  unfold Json.readWithin at h
  split at h
  · exact nomatch h
  · next stop hall =>
    obtain rfl := Except.error.inj h
    exact Json.isSeen_of_readAll hall

/-- The value of a document can be shown. -/
theorem Json.obstacle?_of_readWithin (h : Json.readWithin room t = .ok value) :
    (Datum.ofJson value).obstacle? room = none := by
  obtain ⟨rest, hread⟩ := Json.exists_readValue_of_readWithin h
  have hvalue := Json.bounds_readValue (2 * t.length + 2) room (Json.skipSpace t)
  rw [hread] at hvalue
  exact hvalue.2

end

end PlainEnglish
