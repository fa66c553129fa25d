import NCBlock.Proofs.Line.Cuts

/-!
The pieces of a line. The cuts take text off the line, and what they take off
makes up the line again: a line number, blanks, the region, blanks, a checksum,
blanks and a comment. Where a section begins is told by the text that the cuts
before it have left, and so is which of the two counts a line is refused for.
-/

namespace NCBlock.Line

/-- The text of a count behind its mark, which is empty where there is no count. -/
inductive CountText (mark : Char) : Option UInt32 → Text → Prop
  | absent : CountText mark none []
  | present {digits : Text} {n : UInt32} : Counts digits n →
      CountText mark (some n) (mark :: digits)

/-- A text that is split behind its line number, if it opens with one. -/
structure Numbered (n : Option UInt32) (number left : Text) : Prop where
  text : CountText 'N' n number
  boundary : n ≠ none → AtWordBoundary left
  opens : n ≠ none ↔ ∃ digits rest, OpensWithNumber (number ++ left) digits rest

/-- A text that is a region with a checksum behind it, if it ends with one. -/
structure Checked (k : Option UInt32) (region left : Text) : Prop where
  text : ∃ v w checksum x, left = v ++ region ++ w ++ checksum ++ x ∧
    CountText '*' k checksum ∧ v.AllBlank ∧ w.AllBlank ∧ x.AllBlank
  trimmed : region.Trimmed
  ends : k ≠ none ↔ ∃ front digits, EndsWithChecksum (Text.trim left) front digits

/-- A text that is made up of the sections, its line number being `number`. -/
structure Partition (t : Text) (s : Sections) (number left : Text) : Prop where
  text : t = number ++ left ++ s.comment.getD []
  comment : ∀ c ∈ s.comment, c.head? = some ';'
  before : ';' ∉ number ++ left
  number : Numbered s.lineNumber number left
  checksum : Checked s.checksum s.region left
  region : ';' ∉ s.region

/-- What a text without its comment is refused for: the digits of its line
number, or the digits of its checksum when the line number has a value. -/
inductive Miscount : Text → Error → Prop
  | number {t digits rest : Text} : OpensWithNumber t digits rest →
      (∀ n, ¬Counts digits n) → Miscount t (.unrecognizedToken ('N' :: digits))
  | checksum {number left front digits : Text} {n : Option UInt32} : Numbered n number left →
      EndsWithChecksum (Text.trim left) front digits → (∀ k, ¬Counts digits k) →
      Miscount (number ++ left) (.unrecognizedToken ('*' :: digits))

/-! ### The comment -/

theorem commentCut_iff {t before : Text} {comment : Option Text} :
    CommentCut t comment before ↔ t = before ++ comment.getD [] ∧
      (∀ c ∈ comment, c.head? = some ';') ∧ ';' ∉ before := by
  constructor
  · intro h
    cases h with
    | absent hmem => exact ⟨by simp, by simp, hmem⟩
    | present hmem => exact ⟨rfl, by simp, hmem⟩
  · rintro ⟨rfl, hhead, hmem⟩
    cases comment with
    | none =>
        rw [Option.getD_none, List.append_nil]
        exact .absent hmem
    | some c =>
        obtain ⟨rest, rfl⟩ := List.head?_eq_some_iff.1 (hhead c rfl)
        exact .present hmem

/-! ### The line number -/

theorem trimmed_of_allDigits {digits : Text} (h : AllDigits digits) : digits.Trimmed :=
  Text.trimmed_of_forall fun c hc => not_isBlank_of_isDecimalDigit (h c hc)

/-- Blanks end a word as the end of the text does. -/
theorem atWordBoundary_trimEnd_iff {t : Text} :
    AtWordBoundary (Text.trimEnd t) ↔ AtWordBoundary t := by
  obtain ⟨w, hw, heq⟩ := Text.exists_trimEnd_append t
  cases hkept : Text.trimEnd t with
  | nil =>
      rw [hkept, List.nil_append] at heq
      subst heq
      refine ⟨fun _ c hc => ?_, fun _ => by simp [AtWordBoundary]⟩
      exact not_isWordCharacter_of_isBlank (hw c (List.mem_of_mem_head? hc))
  | cons c kept =>
      rw [hkept] at heq
      rw [← heq]
      rfl

theorem opensWithNumber_trimEnd_iff {t digits kept : Text} :
    OpensWithNumber (Text.trimEnd t) digits kept ↔
      ∃ rest, OpensWithNumber t digits rest ∧ kept = Text.trimEnd rest := by
  constructor
  · rintro ⟨heq, hne, hall, hboundary⟩
    obtain ⟨w, hw, ht⟩ := Text.exists_trimEnd_append t
    have hkept : Text.trimEnd (kept ++ w) = kept := by
      have hstop : Text.SolidEnd ('N' :: digits ++ kept) := by
        rw [List.cons_append, ← heq]
        exact Text.solidEnd_trimEnd t
      rw [Text.trimEnd_append_of_blank hw, Text.trimEnd_of_solid hstop.right]
    refine ⟨kept ++ w, ⟨?_, hne, hall, ?_⟩, hkept.symm⟩
    · rw [← ht, heq, List.cons_append, List.append_assoc]
    · rw [← atWordBoundary_trimEnd_iff, hkept]
      exact hboundary
  · rintro ⟨rest, ⟨rfl, hne, hall, hboundary⟩, rfl⟩
    have hsolid : Text.SolidEnd (['N'] ++ digits) := (trimmed_of_allDigits hall).stop.append hne
    exact ⟨Text.trimEnd_append_of_solid hsolid rest, hne, hall,
      atWordBoundary_trimEnd_iff.2 hboundary⟩

/-- A line number is cut off before the blanks that follow it are. -/
theorem numberCut_trimEnd_iff {before rest : Text} {n : Option UInt32}
    (hbefore : before.SolidStart) :
    NumberCut (Text.trimEnd before) n rest ↔
      ∃ number left, before = number ++ left ∧ Numbered n number left ∧
        rest = Text.trim left := by
  constructor
  · intro h
    cases h with
    | absent hnot =>
        have htrim : Text.trim before = Text.trimEnd before := by
          rw [Text.trim, Text.trimStart_of_solid hbefore]
        refine ⟨[], before, rfl, ⟨.absent, by simp, ?_⟩, htrim.symm⟩
        refine iff_of_false (by simp) ?_
        rintro ⟨digits, rest, hopens⟩
        exact hnot _ _ (opensWithNumber_trimEnd_iff.2 ⟨rest, hopens, rfl⟩)
    | @present digits kept n hopens hcounts =>
        obtain ⟨left, hleft, rfl⟩ := opensWithNumber_trimEnd_iff.1 hopens
        have heq : before = 'N' :: digits ++ left := hleft.1
        refine ⟨'N' :: digits, left, heq, ⟨.present hcounts, fun _ => hleft.2.2.2, ?_⟩,
          Text.trimStart_trimEnd left⟩
        exact iff_of_true (by simp) ⟨digits, left, heq ▸ hleft⟩
  · rintro ⟨number, left, rfl, ⟨htext, hboundary, hopens⟩, rfl⟩
    cases htext with
    | absent =>
        rw [List.nil_append] at hbefore hopens ⊢
        rw [Text.trim, Text.trimStart_of_solid hbefore]
        refine .absent fun digits kept hkept => ?_
        obtain ⟨rest, hrest, -⟩ := opensWithNumber_trimEnd_iff.1 hkept
        exact hopens.2 ⟨digits, rest, hrest⟩ rfl
    | @present digits n hcounts =>
        have hleft : OpensWithNumber ('N' :: digits ++ left) digits left :=
          ⟨rfl, hcounts.ne_nil, hcounts.allDigits, hboundary (by simp)⟩
        rw [← Text.trimStart_trimEnd]
        exact .present (opensWithNumber_trimEnd_iff.2 ⟨left, hleft, rfl⟩) hcounts

/-! ### The checksum -/

theorem checksumCut_trim_iff {left region : Text} {k : Option UInt32} :
    ChecksumCut (Text.trim left) k region ↔ Checked k region left := by
  constructor
  · intro h
    obtain ⟨v, x, hv, hx, heq⟩ := Text.exists_trim_append left
    cases h with
    | absent hnot =>
        refine ⟨⟨v, [], [], x, by simpa using heq, .absent, hv, Text.allBlank_nil, hx⟩,
          Text.trimmed_trim left, iff_of_false (by simp) ?_⟩
        rintro ⟨front, digits, hends⟩
        exact hnot front digits hends
    | @present before digits k hends hcounts =>
        obtain ⟨v', w, hv', hw, hbefore⟩ := Text.exists_trim_append before
        refine ⟨⟨v ++ v', w, '*' :: digits, x, ?_, .present hcounts,
          Text.allBlank_append.2 ⟨hv, hv'⟩, hw, hx⟩, Text.trimmed_trim before,
          iff_of_true (by simp) ⟨before, digits, hends⟩⟩
        calc left = v ++ (before ++ '*' :: digits) ++ x := by rw [← hends.1]; exact heq
          _ = v ++ (v' ++ Text.trim before ++ w ++ '*' :: digits) ++ x := by rw [← hbefore]
          _ = v ++ v' ++ Text.trim before ++ w ++ '*' :: digits ++ x := by
              simp only [List.append_assoc]
  · rintro ⟨⟨v, w, checksum, x, rfl, htext, hv, hw, hx⟩, htrimmed, hends⟩
    rw [Text.trim_append_of_blank hx] at hends ⊢
    have hinner : Text.trim (v ++ region ++ w) = region := Text.trim_blank_append hv hw htrimmed
    cases htext with
    | absent =>
        rw [List.append_nil, hinner] at hends ⊢
        exact .absent fun front digits hstar => hends.2 ⟨front, digits, hstar⟩ rfl
    | @present digits k hcounts =>
        have hdigits := hcounts.allDigits
        have hkept : EndsWithChecksum (Text.trim (v ++ region ++ w ++ '*' :: digits))
            (Text.trimStart (v ++ region ++ w)) digits := by
          refine ⟨?_, hcounts.ne_nil, hdigits⟩
          rw [Text.trim_append_cons (by decide),
            Text.trimEnd_of_solid (trimmed_of_allDigits hdigits).stop]
        have hregion : Text.trim (Text.trimStart (v ++ region ++ w)) = region := by
          rw [Text.trim_trimStart, hinner]
        have hcut := ChecksumCut.present hkept hcounts
        rwa [hregion] at hcut

/-! ### All sections -/

theorem Checked.not_mem {left region : Text} {k : Option UInt32} {c : Char}
    (h : Checked k region left) (hc : c ∉ left) : c ∉ region := by
  obtain ⟨v, w, checksum, x, rfl, -⟩ := h.text
  intro hmem
  exact hc (by simp [hmem])

theorem sections_eq_ok_iff_partition {t : Text} {s : Sections} (ht : IsNormal t) :
    sections t = .ok s ↔ ∃ number left, Partition t s number left := by
  rw [sections_eq_ok_iff ht]
  constructor
  · rintro ⟨before, rest, hcomment, hnumber, hchecksum⟩
    obtain ⟨number, left, rfl, hnumbered, rfl⟩ :=
      (numberCut_trimEnd_iff (hcomment.solidStart ht.trimmed.start)).1 hnumber
    obtain ⟨htext, hhead, hmem⟩ := commentCut_iff.1 hcomment
    have hchecked := checksumCut_trim_iff.1 hchecksum
    have hleft : ';' ∉ left := fun h => hmem (List.mem_append_right number h)
    exact ⟨number, left, htext, hhead, hmem, hnumbered, hchecked, hchecked.not_mem hleft⟩
  · rintro ⟨number, left, h⟩
    have hcomment : CommentCut t s.comment (number ++ left) :=
      commentCut_iff.2 ⟨h.text, h.comment, h.before⟩
    have hstart := hcomment.solidStart ht.trimmed.start
    exact ⟨_, _, hcomment, (numberCut_trimEnd_iff hstart).2 ⟨_, _, rfl, h.number, rfl⟩,
      checksumCut_trim_iff.2 h.checksum⟩

theorem sections_eq_error_iff {t : Text} {e : Error} (ht : IsNormal t) :
    sections t = .error e ↔
      ∃ comment before, CommentCut t comment before ∧ Miscount before e := by
  have hbreak : '\n' ∉ t := fun hmem => absurd (ht.flat _ hmem) (by decide)
  have hstart {comment : Option Text} {before : Text} (hcut : CommentCut t comment before) :
      before.SolidStart := hcut.solidStart ht.trimmed.start
  constructor
  · intro h
    have hcut := commentCut_cutComment hbreak
    refine ⟨_, _, hcut, ?_⟩
    rw [sections] at h
    split at h
    next hnumber =>
      cases h
      obtain ⟨digits, kept, hopens, hcounts, rfl⟩ := takeLineNumber_eq_error_iff.1 hnumber
      obtain ⟨rest, hrest, -⟩ := opensWithNumber_trimEnd_iff.1 hopens
      exact .number hrest hcounts
    next n rest hnumber =>
      rw [takeLineNumber_eq_ok_iff, numberCut_trimEnd_iff (hstart hcut)] at hnumber
      obtain ⟨number, left, heq, hnumbered, rfl⟩ := hnumber
      rw [heq]
      split at h
      next hchecksum =>
        cases h
        obtain ⟨front, digits, hends, hcounts, rfl⟩ := takeChecksum_eq_error_iff.1 hchecksum
        exact .checksum hnumbered hends hcounts
      next => cases h
  · rintro ⟨comment, before, hcut, hmiscount⟩
    rw [sections, hcut.cutComment_eq hbreak]
    cases hmiscount with
    | @number _ digits rest hopens hcounts =>
        have hkept := opensWithNumber_trimEnd_iff.2 ⟨rest, hopens, rfl⟩
        rw [takeLineNumber_eq_error_iff.2 ⟨_, _, hkept, hcounts, rfl⟩]
    | @checksum number left front digits n hnumbered hends hcounts =>
        have hnumber := (numberCut_trimEnd_iff (hstart hcut)).2 ⟨_, _, rfl, hnumbered, rfl⟩
        rw [takeLineNumber_eq_ok_iff.2 hnumber]
        dsimp only
        rw [takeChecksum_eq_error_iff.2 ⟨_, _, hends, hcounts, rfl⟩]

/-- A line falls into its sections without loss, and only a count of no value
keeps it from that. -/
theorem sections_partition (line : Text) :
    (∀ s, sections (normalize line) = .ok s ↔
      ∃ number left, Partition (normalize line) s number left) ∧
    ∀ e, sections (normalize line) = .error e ↔
      ∃ comment before, CommentCut (normalize line) comment before ∧ Miscount before e :=
  ⟨fun _ => sections_eq_ok_iff_partition (isNormal_normalize line),
    fun _ => sections_eq_error_iff (isNormal_normalize line)⟩

example : sections "N007 G1 *2 *3 ;A;B".toList =
    .ok ⟨some 7, some 3, some ";A;B".toList, "G1 *2".toList⟩ := by
  decide +kernel

end NCBlock.Line
