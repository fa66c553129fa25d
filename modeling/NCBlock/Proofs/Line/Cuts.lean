import NCBlock.Line.Sections
import NCBlock.Proofs.Line.NormalForm
import NCBlock.Proofs.Token.Literal

/-!
The cuts that take the outer sections off a line, each as a relation between
the text, the section and what is left. A normal line can be cut in one way
only, and the sections of the line are what these cuts take off in turn.
-/

section

variable {ε α β : Type} {x : Except ε α} {f : α → β}

theorem Except.map_eq_error_iff {e : ε} : x.map f = .error e ↔ x = .error e := by
  cases x <;> simp [Except.map]

theorem Except.map_eq_ok_iff {b : β} : x.map f = .ok b ↔ ∃ a, x = .ok a ∧ f a = b := by
  cases x <;> simp [Except.map]

end

namespace NCBlock.Line

/-- A comment is everything from the first semicolon on. -/
inductive CommentCut : Text → Option Text → Text → Prop
  | absent {t : Text} : ';' ∉ t → CommentCut t none t
  | present {before rest : Text} : ';' ∉ before →
      CommentCut (before ++ ';' :: rest) (some (';' :: rest)) before

/-- What follows does not continue a word. -/
def AtWordBoundary (t : Text) : Prop := ∀ c ∈ t.head?, isWordCharacter c = false

/-- A text that opens like a line number, with digits of any script. -/
def OpensWithNumber (t digits rest : Text) : Prop :=
  t = 'N' :: (digits ++ rest) ∧ digits ≠ [] ∧ AllDigits digits ∧ AtWordBoundary rest

/-- A text that ends like a checksum, with digits of any script. -/
def EndsWithChecksum (t before digits : Text) : Prop :=
  t = before ++ '*' :: digits ∧ digits ≠ [] ∧ AllDigits digits

/-- The digits are ASCII digits, and the number that they stand for is `n`. -/
def Counts (digits : Text) (n : UInt32) : Prop :=
  Text.isNumeral digits = true ∧ Text.numeralValue digits = n.toNat

/-- A line number at the start goes with the blanks behind it. Digits of another
script than ASCII, or too many of them, leave no cut at all. -/
inductive NumberCut : Text → Option UInt32 → Text → Prop
  | absent {t : Text} : (∀ digits rest, ¬OpensWithNumber t digits rest) → NumberCut t none t
  | present {t digits rest : Text} {n : UInt32} : OpensWithNumber t digits rest →
      Counts digits n → NumberCut t (some n) (Text.trimStart rest)

/-- A checksum at the end goes with the blanks before it, under the same conditions. -/
inductive ChecksumCut : Text → Option UInt32 → Text → Prop
  | absent {t : Text} : (∀ before digits, ¬EndsWithChecksum t before digits) →
      ChecksumCut t none t
  | present {t before digits : Text} {n : UInt32} : EndsWithChecksum t before digits →
      Counts digits n → ChecksumCut t (some n) (Text.trim before)

theorem Counts.ne_nil {digits : Text} {n : UInt32} (h : Counts digits n) : digits ≠ [] :=
  (Text.isNumeral_iff.1 h.1).1

theorem Counts.allDigits {digits : Text} {n : UInt32} (h : Counts digits n) : AllDigits digits :=
  allDigits_of_isNumeral h.1

/-! ### The comment -/

theorem cutComment_of_not_mem {t : Text} (h : ';' ∉ t) : cutComment t = (t, none) := by
  induction t with
  | nil => rfl
  | cons c t ih =>
      rw [List.mem_cons, not_or] at h
      rw [cutComment, if_neg (fun hc => h.1 hc.1.symm), ih h.2]

theorem cutComment_append {before rest : Text} (hbefore : ';' ∉ before) (hrest : '\n' ∉ rest) :
    cutComment (before ++ ';' :: rest) = (before, some (';' :: rest)) := by
  induction before with
  | nil => simp [cutComment, hrest]
  | cons c before ih =>
      rw [List.mem_cons, not_or] at hbefore
      rw [List.cons_append, cutComment, if_neg (fun hc => hbefore.1 hc.1.symm), ih hbefore.2]

theorem CommentCut.cutComment_eq {t before : Text} {comment : Option Text}
    (h : CommentCut t comment before) (ht : '\n' ∉ t) : cutComment t = (before, comment) := by
  cases h with
  | absent hmem => exact cutComment_of_not_mem hmem
  | present hbefore => exact cutComment_append hbefore fun hmem => ht (by simp [hmem])

theorem commentCut_cutComment {t : Text} (ht : '\n' ∉ t) :
    CommentCut t (cutComment t).2 (cutComment t).1 := by
  by_cases hmem : ';' ∈ t
  · obtain ⟨before, rest, rfl, hbefore⟩ := List.eq_append_cons_of_mem hmem
    have hcut : CommentCut (before ++ ';' :: rest) (some (';' :: rest)) before := .present hbefore
    rw [hcut.cutComment_eq ht]
    exact hcut
  · rw [cutComment_of_not_mem hmem]
    exact .absent hmem

/-! ### The line number -/

theorem AtWordBoundary.not_isDecimalDigit {t : Text} (h : AtWordBoundary t) :
    ∀ c ∈ t.head?, isDecimalDigit c = false := by
  intro c hc
  rw [← Bool.not_eq_true]
  intro hdigit
  have hword := isWordCharacter_of_isDecimalDigit hdigit
  rw [h c hc] at hword
  cases hword

theorem lineNumberDigits?_eq_some_iff {t digits rest : Text} :
    lineNumberDigits? t = some (digits, rest) ↔ OpensWithNumber t digits rest := by
  constructor
  · intro h
    unfold lineNumberDigits? at h
    split at h
    next after =>
      have hall := allDigits_spanDigits after
      have hsplit := spanDigits_append after
      split at h
      · cases h
      next digits' hne heq =>
        cases h
        rw [heq] at hall hsplit
        exact ⟨by rw [← hsplit], hne, hall, by simp [AtWordBoundary]⟩
      next digits' c tail hne heq =>
        rw [heq] at hall hsplit
        split at h
        · cases h
        next hc =>
          cases h
          exact ⟨by rw [← hsplit], hne, hall, by simpa [AtWordBoundary] using hc⟩
    · cases h
  · rintro ⟨rfl, hne, hall, hboundary⟩
    rw [lineNumberDigits?, spanDigits_append_of hall hboundary.not_isDecimalDigit]
    cases digits with
    | nil => exact absurd rfl hne
    | cons d digits =>
        cases rest with
        | nil => rfl
        | cons c rest => simp [hboundary c rfl]

theorem count_eq_ok_iff {mark : Char} {digits : Text} {n : UInt32} :
    count mark digits = .ok n ↔ Counts digits n := by
  rw [count, Counts, ← Text.toUInt32?_eq_some_iff]
  split
  next m hm => simp [hm]
  next hm => simp [hm]

theorem count_eq_error_iff {mark : Char} {digits : Text} {e : Error} :
    count mark digits = .error e ↔
      (∀ n, ¬Counts digits n) ∧ e = .unrecognizedToken (mark :: digits) := by
  constructor
  · intro h
    refine ⟨fun n hn => ?_, ?_⟩
    · rw [count_eq_ok_iff.2 hn] at h
      cases h
    · rw [count] at h
      split at h
      · cases h
      · cases h
        rfl
  · rintro ⟨hcounts, rfl⟩
    have hnone : Text.toUInt32? digits = none :=
      Option.eq_none_iff_forall_ne_some.2 fun n hn => hcounts n (Text.toUInt32?_eq_some_iff.1 hn)
    rw [count, hnone]

theorem takeLineNumber_eq_ok_iff {t rest : Text} {n : Option UInt32} :
    takeLineNumber t = .ok (n, rest) ↔ NumberCut t n rest := by
  rw [takeLineNumber]
  constructor
  · intro h
    split at h
    next hnone =>
      cases h
      refine .absent fun digits rest hopens => ?_
      rw [lineNumberDigits?_eq_some_iff.2 hopens] at hnone
      cases hnone
    next digits after hsome =>
      obtain ⟨m, hcount, heq⟩ := Except.map_eq_ok_iff.1 h
      cases heq
      exact .present (lineNumberDigits?_eq_some_iff.1 hsome) (count_eq_ok_iff.1 hcount)
  · intro h
    cases h with
    | absent hnot =>
        cases hdigits : lineNumberDigits? t with
        | none => rfl
        | some p => exact absurd (lineNumberDigits?_eq_some_iff.1 hdigits) (hnot p.1 p.2)
    | present hopens hcounts =>
        rw [lineNumberDigits?_eq_some_iff.2 hopens]
        exact Except.map_eq_ok_iff.2 ⟨_, count_eq_ok_iff.2 hcounts, rfl⟩

theorem takeLineNumber_eq_error_iff {t : Text} {e : Error} :
    takeLineNumber t = .error e ↔ ∃ digits rest, OpensWithNumber t digits rest ∧
      (∀ n, ¬Counts digits n) ∧ e = .unrecognizedToken ('N' :: digits) := by
  rw [takeLineNumber]
  constructor
  · intro h
    split at h
    · cases h
    next digits rest hsome =>
      have hcount := count_eq_error_iff.1 (Except.map_eq_error_iff.1 h)
      exact ⟨digits, rest, lineNumberDigits?_eq_some_iff.1 hsome, hcount⟩
  · rintro ⟨digits, rest, hopens, hcount⟩
    rw [lineNumberDigits?_eq_some_iff.2 hopens]
    exact Except.map_eq_error_iff.2 (count_eq_error_iff.2 hcount)

/-! ### The checksum -/

theorem checksumDigits?_eq_some_iff {t before digits : Text} :
    checksumDigits? t = some (before, digits) ↔ EndsWithChecksum t before digits := by
  constructor
  · intro h
    induction t generalizing before with
    | nil => cases h
    | cons c t ih =>
        rw [checksumDigits?] at h
        split at h
        next hc =>
          cases h
          obtain ⟨rfl, hne, hall⟩ := hc
          exact ⟨rfl, hne, List.all_eq_true.1 hall⟩
        next =>
          obtain ⟨⟨before', digits'⟩, hrest, heq⟩ := Option.map_eq_some_iff.1 h
          cases heq
          obtain ⟨rfl, hne, hall⟩ := ih hrest
          exact ⟨rfl, hne, hall⟩
  · rintro ⟨rfl, hne, hall⟩
    induction before with
    | nil => simp [checksumDigits?, hne, List.all_eq_true.2 hall]
    | cons c before ih =>
        -- a star further on is no digit, so an earlier star does not open the checksum
        have hstar : isDecimalDigit '*' = false := by decide
        rw [List.cons_append, checksumDigits?, if_neg, ih]
        · rfl
        · simp [hstar]

theorem takeChecksum_eq_ok_iff {t region : Text} {n : Option UInt32} (ht : t.Trimmed) :
    (∃ before, takeChecksum t = .ok (n, before) ∧ Text.trim before = region) ↔
      ChecksumCut t n region := by
  rw [takeChecksum]
  constructor
  · rintro ⟨before, h, rfl⟩
    split at h
    next hnone =>
      cases h
      rw [Text.trim_of_trimmed ht]
      refine .absent fun before digits hends => ?_
      rw [checksumDigits?_eq_some_iff.2 hends] at hnone
      cases hnone
    next before' digits hsome =>
      obtain ⟨m, hcount, heq⟩ := Except.map_eq_ok_iff.1 h
      cases heq
      exact .present (checksumDigits?_eq_some_iff.1 hsome) (count_eq_ok_iff.1 hcount)
  · intro h
    cases h with
    | absent hnot =>
        refine ⟨t, ?_, Text.trim_of_trimmed ht⟩
        cases hdigits : checksumDigits? t with
        | none => rfl
        | some p => exact absurd (checksumDigits?_eq_some_iff.1 hdigits) (hnot p.1 p.2)
    | present hends hcounts =>
        refine ⟨_, ?_, rfl⟩
        rw [checksumDigits?_eq_some_iff.2 hends]
        exact Except.map_eq_ok_iff.2 ⟨_, count_eq_ok_iff.2 hcounts, rfl⟩

theorem takeChecksum_eq_error_iff {t : Text} {e : Error} :
    takeChecksum t = .error e ↔ ∃ before digits, EndsWithChecksum t before digits ∧
      (∀ n, ¬Counts digits n) ∧ e = .unrecognizedToken ('*' :: digits) := by
  rw [takeChecksum]
  constructor
  · intro h
    split at h
    · cases h
    next before digits hsome =>
      have hcount := count_eq_error_iff.1 (Except.map_eq_error_iff.1 h)
      exact ⟨before, digits, checksumDigits?_eq_some_iff.1 hsome, hcount⟩
  · rintro ⟨before, digits, hends, hcount⟩
    rw [checksumDigits?_eq_some_iff.2 hends]
    exact Except.map_eq_error_iff.2 (count_eq_error_iff.2 hcount)

/-! ### All sections -/

theorem CommentCut.solidStart {t before : Text} {comment : Option Text}
    (h : CommentCut t comment before) (ht : t.SolidStart) : before.SolidStart := by
  cases h with
  | absent => exact ht
  | present => exact ht.left

theorem CommentCut.isPrefix {t before : Text} {comment : Option Text}
    (h : CommentCut t comment before) : before <+: t := by
  cases h with
  | absent => exact List.prefix_refl _
  | present => exact List.prefix_append _ _

theorem CommentCut.not_mem {t before : Text} {comment : Option Text}
    (h : CommentCut t comment before) : ';' ∉ before := by
  cases h with
  | absent hmem => exact hmem
  | present hmem => exact hmem

theorem NumberCut.isSuffix {t rest : Text} {n : Option UInt32} (h : NumberCut t n rest) :
    rest <:+ t := by
  cases h with
  | absent => exact List.suffix_refl _
  | @present digits rest n hopens _ =>
      obtain ⟨w, -, heq⟩ := Text.exists_append_trimStart rest
      refine ⟨'N' :: (digits ++ w), ?_⟩
      rw [hopens.1, List.cons_append, List.append_assoc, heq]

theorem ChecksumCut.exists_append {t region : Text} {n : Option UInt32} (h : ChecksumCut t n region)
    (ht : t.Trimmed) :
    ∃ w rest, t = region ++ w ++ rest ∧ w.AllBlank ∧ (rest = [] ∨ rest.head? = some '*') := by
  cases h with
  | absent => exact ⟨[], [], by simp, Text.allBlank_nil, .inl rfl⟩
  | @present before digits n hends _ =>
      obtain ⟨rfl, -⟩ := hends
      obtain ⟨w, hw, heq⟩ := Text.exists_trimEnd_append before
      have htrim : Text.trim before = Text.trimEnd before := by
        rw [Text.trim, Text.trimStart_of_solid ht.start.left]
      exact ⟨w, '*' :: digits, by rw [htrim, heq], hw, .inr rfl⟩

theorem CommentCut.trimmed_trimEnd {t before : Text} {comment : Option Text}
    (h : CommentCut t comment before) (ht : t.Trimmed) : (Text.trimEnd before).Trimmed :=
  ⟨(h.solidStart ht.start).trimEnd, Text.solidEnd_trimEnd before⟩

theorem NumberCut.trimmed {t rest : Text} {n : Option UInt32} (h : NumberCut t n rest)
    (ht : t.Trimmed) : rest.Trimmed := by
  cases h with
  | absent => exact ht
  | @present digits rest n hopens _ =>
      obtain ⟨rfl, -⟩ := hopens
      have hstop : rest.SolidEnd := Text.SolidEnd.right (t := 'N' :: digits) ht.stop
      exact ⟨Text.solidStart_trimStart rest, hstop.trimStart⟩

theorem ChecksumCut.trimmed {t region : Text} {n : Option UInt32} (h : ChecksumCut t n region)
    (ht : t.Trimmed) : region.Trimmed := by
  cases h with
  | absent => exact ht
  | present => exact Text.trimmed_trim _

/-- The sections of a normal line are taken off by a cut each, in their order. -/
theorem sections_eq_ok_iff {t : Text} {s : Sections} (ht : IsNormal t) :
    sections t = .ok s ↔ ∃ before rest, CommentCut t s.comment before ∧
      NumberCut (Text.trimEnd before) s.lineNumber rest ∧
      ChecksumCut rest s.checksum s.region := by
  have hbreak : '\n' ∉ t := fun hmem => absurd (ht.flat _ hmem) (by decide)
  obtain ⟨n, k, comment, region⟩ := s
  rw [sections]
  constructor
  · intro h
    have hcut := commentCut_cutComment hbreak
    cases hnumber : takeLineNumber (Text.trimEnd (cutComment t).1) with
    | error e =>
        rw [hnumber] at h
        cases h
    | ok p =>
        obtain ⟨m, rest⟩ := p
        rw [hnumber] at h
        dsimp only at h
        rw [takeLineNumber_eq_ok_iff] at hnumber
        cases hchecksum : takeChecksum rest with
        | error e =>
            rw [hchecksum] at h
            cases h
        | ok q =>
            rw [hchecksum] at h
            cases h
            have hrest := hnumber.trimmed (hcut.trimmed_trimEnd ht.trimmed)
            exact ⟨_, rest, hcut, hnumber, (takeChecksum_eq_ok_iff hrest).1 ⟨_, hchecksum, rfl⟩⟩
  · rintro ⟨before, rest, hcut, hnumber, hchecksum⟩
    have hrest := hnumber.trimmed (hcut.trimmed_trimEnd ht.trimmed)
    obtain ⟨left, htake, rfl⟩ := (takeChecksum_eq_ok_iff hrest).2 hchecksum
    rw [hcut.cutComment_eq hbreak, takeLineNumber_eq_ok_iff.2 hnumber]
    dsimp only
    rw [htake]

end NCBlock.Line
