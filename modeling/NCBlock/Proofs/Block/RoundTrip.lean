import NCBlock.Proofs.Block.Value

/-!
Writing a readable block and reading it again. The layout of a readable block
is a line in normal form that reads as the block, so parsing undoes every
ordered format. Only readable blocks can be read back, and every parsed block
is readable.
-/

namespace NCBlock.Block

open Line

variable {b : Block}

/-! ### The layout is normal -/

theorem readable_lineNumber (n : UInt32) : (Gcode.lineNumber n).Readable := rfl

theorem readable_checksum (n : UInt32) : (Gcode.checksum n).Readable := rfl

theorem Readable.exists_gcode (h : b.Readable) {t : Text} (ht : t ∈ b.coreTexts) :
    ∃ g : Gcode, g.Readable ∧ g.text = t := by
  rw [coreTexts, ← List.map_cons, List.mem_append] at ht
  rcases ht with ht | ht
  · obtain ⟨n, -, rfl⟩ := Option.map_eq_some_iff.1 (Option.mem_toList.1 ht)
    exact ⟨.lineNumber n, readable_lineNumber n, rfl⟩
  · obtain ⟨g, hg, rfl⟩ := List.mem_map.1 ht
    exact ⟨g, h.gcodes g hg, rfl⟩

theorem Readable.isNormal_line (h : b.Readable) : IsNormal b.line := by
  refine isNormal_spaced (fun t ht => ?_) fun t ht => ?_
  · obtain ⟨g, hg, rfl⟩ := h.exists_gcode ht
    exact hg.isNormal_text
  · obtain ⟨g, -, rfl⟩ := h.exists_gcode ht
    exact g.text_ne_nil

theorem Readable.isNormal_gcodesText (h : b.Readable) : IsNormal b.gcodesText := by
  refine isNormal_spaced (fun t ht => ?_) fun t ht => ?_
  · obtain ⟨g, hg, rfl⟩ := List.mem_map.1 ht
    exact (h.gcodes g hg).isNormal_text
  · obtain ⟨g, -, rfl⟩ := List.mem_map.1 ht
    exact g.text_ne_nil

theorem isNormal_append_optional {t gap : Text} {part : Option Text} (ht : IsNormal t)
    (htne : t ≠ []) (hgap : IsGap gap) (hpart : ∀ u ∈ part, IsNormal u ∧ u ≠ []) :
    IsNormal (t ++ optionalText gap part) := by
  cases part with
  | none => rwa [optionalText, List.append_nil]
  | some u =>
      obtain ⟨hu, hune⟩ := hpart u rfl
      cases hgap with
      | none => exact ht.append hu
      | space => exact ht.append_space hu htne hune

theorem Readable.isNormal_lineWith (h : b.Readable) {k : Text} (hk : IsGap k) :
    IsNormal (b.line ++ optionalText k b.checksumText) := by
  refine isNormal_append_optional h.isNormal_line b.line_ne_nil hk fun u hu => ?_
  obtain ⟨n, -, rfl⟩ := Option.map_eq_some_iff.1 hu
  exact ⟨(readable_checksum n).isNormal_text, Gcode.text_ne_nil _⟩

theorem Readable.isNormal_layout (h : b.Readable) (hcomment : b.HasProperComment) {k m : Text}
    (hk : IsGap k) (hm : IsGap m) : IsNormal (b.layout k m) := by
  refine isNormal_append_optional (h.isNormal_lineWith hk) ?_ hm fun c hc => ?_
  · simp [b.line_ne_nil]
  · refine ⟨(isNormal_comment_iff (hcomment c hc)).2 (h.comment c hc), ?_⟩
    rintro rfl
    exact absurd (hcomment [] hc) (by decide)

/-! ### The cuts of the layout -/

/-- A checksum with its gap is a run of blanks and a star, or nothing. -/
theorem optional_checksumText (b : Block) {k : Text} (hk : IsGap k) :
    ∃ w tail, optionalText k b.checksumText = w ++ tail ∧ w.AllBlank ∧
      (tail = [] ∨ tail.head? = some '*') := by
  rw [checksumText]
  cases b.checksum with
  | none => exact ⟨[], [], rfl, Text.allBlank_nil, .inl rfl⟩
  | some n => exact ⟨k, (Gcode.checksum n).text, rfl, hk.allBlank, .inr rfl⟩

theorem Readable.not_mem_lineWith (h : b.Readable) {k : Text} (hk : IsGap k) :
    ';' ∉ b.line ++ optionalText k b.checksumText := by
  intro hmem
  have hgap {gap : Text} (hgap : IsGap gap) : ';' ∉ gap :=
    fun hmem => absurd (hgap.allBlank _ hmem) (by decide)
  rcases List.mem_append.1 hmem with hmem | hmem
  · rcases Text.mem_spaced hmem with heq | ⟨t, ht, hmem⟩
    · cases heq
    · obtain ⟨g, hg, rfl⟩ := h.exists_gcode ht
      exact hg.not_mem_text hmem
  · rw [checksumText] at hmem
    cases hchecksum : b.checksum with
    | none =>
        rw [hchecksum] at hmem
        cases hmem
    | some n =>
        rw [hchecksum] at hmem
        rcases List.mem_append.1 hmem with hmem | hmem
        · exact hgap hk hmem
        · exact (readable_checksum n).not_mem_text hmem

theorem Readable.commentCut_layout (h : b.Readable) (hcomment : b.HasProperComment) {k m : Text}
    (hk : IsGap k) (hm : IsGap m) :
    ∃ w : Text, w.AllBlank ∧ CommentCut (b.layout k m) b.comment
      (b.line ++ optionalText k b.checksumText ++ w) := by
  have hmem := h.not_mem_lineWith hk
  rw [layout]
  cases hc : b.comment with
  | none => exact ⟨[], Text.allBlank_nil, by simpa [optionalText] using .absent hmem⟩
  | some c =>
      obtain ⟨hhead, -⟩ := isComment_iff.1 (hcomment c hc)
      obtain ⟨rest, rfl⟩ := List.head?_eq_some_iff.1 hhead
      refine ⟨m, hm.allBlank, ?_⟩
      rw [optionalText, ← List.append_assoc]
      refine .present fun hmem' => ?_
      rcases List.mem_append.1 hmem' with hmem' | hmem'
      · exact hmem hmem'
      · exact absurd (hm.allBlank _ hmem') (by decide)

theorem Readable.tokenRow_gcodesText (h : b.Readable) :
    TokenRow (b.gcodes.map Gcode.text) b.gcodesText := by
  refine tokenRow_spaced (List.cons_ne_nil _ _) fun t ht => ?_
  obtain ⟨g, hg, rfl⟩ := List.mem_map.1 ht
  exact (h.gcodes g hg).spelled.isToken

theorem Readable.numberCut_layout (h : b.Readable) {k : Text} (hk : IsGap k) :
    NumberCut (b.line ++ optionalText k b.checksumText) b.lineNumber
      (b.gcodesText ++ optionalText k b.checksumText) := by
  have hstart : (b.gcodesText ++ optionalText k b.checksumText).SolidStart :=
    h.isNormal_gcodesText.trimmed.start.append b.gcodesText_ne_nil
  rw [line_eq, lineNumberText]
  cases hnumber : b.lineNumber with
  | some n =>
      have hboundary : AtWordBoundary (' ' :: (b.gcodesText ++ optionalText k b.checksumText)) := by
        intro c hc
        cases hc
        decide
      obtain ⟨digits, hopens, hcounts⟩ :=
        (readable_lineNumber n).spelled.opensWithNumber hboundary
      have hcut := NumberCut.present hopens hcounts
      rw [Text.trimStart_cons_of_blank (by decide), Text.trimStart_of_solid hstart] at hcut
      show NumberCut ((Gcode.lineNumber n).text ++ ' ' :: b.gcodesText ++ _) (some n) _
      rwa [List.append_assoc, List.cons_append]
  | none =>
      -- the command is no line number, and what follows it does not continue its digits
      refine .absent fun digits rest hopens => ?_
      obtain ⟨after, heq, hafter⟩ := h.tokenRow_gcodesText.eq_append_of_head
      obtain ⟨w, tail, htail, hw, hstar⟩ := optional_checksumText b hk
      have hcommand := (h.gcodes b.command List.mem_cons_self).spelled
      have hboundary := atWordBoundary_of_gap hafter hw hstar
      have hline : b.gcodesText ++ optionalText k b.checksumText =
          b.command.text ++ (after ++ (w ++ tail)) := by
        rw [heq, htail, List.append_assoc]
      obtain ⟨n, hn⟩ := hcommand.eq_lineNumber_of_opens hboundary.not_isDecimalDigit
        (hline ▸ hopens)
      exact h.command hnumber n hn

theorem Readable.checksumCut_layout (h : b.Readable) {k : Text} (hk : IsGap k) :
    ChecksumCut (b.gcodesText ++ optionalText k b.checksumText) b.checksum b.gcodesText := by
  rw [checksumText]
  cases hchecksum : b.checksum with
  | some n =>
      obtain ⟨digits, hends, hcounts⟩ :=
        (readable_checksum n).spelled.endsWithChecksum (b.gcodesText ++ k)
      have hcut := ChecksumCut.present hends hcounts
      rw [Text.trim_append_of_blank hk.allBlank,
        Text.trim_of_trimmed h.isNormal_gcodesText.trimmed, List.append_assoc] at hcut
      exact hcut
  | none =>
      rw [Option.map_none, optionalText, List.append_nil]
      -- a checksum at the end of the region would be its last gcode
      refine .absent fun before digits hends => ?_
      obtain ⟨g, hg⟩ := Option.ne_none_iff_exists'.1
        (List.getLast?_eq_none_iff.not.2 (List.cons_ne_nil b.command b.parameters))
      have hlast : (b.gcodes.map Gcode.text).getLast? = some g.text := by
        rw [List.getLast?_map]
        exact congrArg _ hg
      obtain ⟨left, heq⟩ := h.tokenRow_gcodesText.eq_append_of_last hlast
      have hspelled := (h.gcodes g (List.mem_of_getLast? hg)).spelled
      obtain ⟨n, rfl⟩ := hspelled.eq_checksum_of_ends (heq ▸ hends)
      exact h.last hchecksum n hg

theorem Readable.reads_layout (h : b.Readable) (hcomment : b.HasProperComment) {k m : Text}
    (hk : IsGap k) (hm : IsGap m) : Reads (b.layout k m) b := by
  obtain ⟨w, hw, hcut⟩ := h.commentCut_layout hcomment hk hm
  have htrim : Text.trimEnd (b.line ++ optionalText k b.checksumText ++ w) =
      b.line ++ optionalText k b.checksumText := by
    rw [Text.trimEnd_append_of_blank hw]
    exact Text.trimEnd_of_solid (h.isNormal_lineWith hk).trimmed.stop
  refine .intro hcut ?_ (h.checksumCut_layout hk) h.tokenRow_gcodesText ?_
  · rw [htrim]
    exact h.numberCut_layout hk
  · exact List.forall₂_map_left_iff.2
      (List.forall₂_same.2 fun g hg => (h.gcodes g hg).spelled)

/-! ### Reading back -/

theorem Readable.parse_layout (h : b.Readable) (hcomment : b.HasProperComment) {k m : Text}
    (hk : IsGap k) (hm : IsGap m) : parse (b.layout k m) = .ok b := by
  apply parse_of_reads
  rw [(h.isNormal_layout hcomment hk hm).normalize]
  exact h.reads_layout hcomment hk hm

theorem Readable.parse_fullLine (h : b.Readable) (hcomment : b.HasProperComment) :
    parse b.fullLine = .ok b := by
  rw [fullLine_eq_layout]
  exact h.parse_layout hcomment .space .space

theorem Readable.parse_render (h : b.Readable) (hcomment : b.HasProperComment) {format : Text}
    (hformat : OrderedFormat format) : parse (b.render format) = .ok b := by
  obtain ⟨k, m, hk, hm, heq⟩ := b.exists_render_eq_layout hformat
  rw [heq]
  exact h.parse_layout hcomment hk hm

theorem readable_of_parse {line : Text} (h : parse line = .ok b) : b.Readable :=
  readable_of_reads (isNormal_normalize line) (reads_of_parse h)

/-- The comment is cut off before the dialect sees anything of the line. -/
theorem hasProperComment_of_parseWith {σ : Type} {dialect : Dialect σ} {line : Text} {s : σ}
    (h : (parseWith dialect line s).1 = .ok b) : b.HasProperComment := by
  rw [parseWith] at h
  split at h
  · cases h
  next parts hsections =>
    have hnormal := isNormal_normalize line
    obtain ⟨before, -, hcut, -⟩ := (sections_eq_ok_iff hnormal).1 hsections
    split at h
    · cases h
    · split at h
      · cases h
      · cases h
      · cases h
        intro comment hcomment
        have hcomment : parts.comment = some comment := hcomment
        rw [hcomment] at hcut
        exact (isNormal_of_commentCut hnormal hcut).1

theorem hasProperComment_of_parse {line : Text} (h : parse line = .ok b) : b.HasProperComment :=
  hasProperComment_of_parseWith h

/-- A parsed block is read again from its full line and from every ordered format. -/
theorem parse_written_of_parse (line : Text) (b : Block) (h : parse line = .ok b) :
    parse b.fullLine = .ok b ∧
      ∀ format, OrderedFormat format → parse (b.render format) = .ok b := by
  have hreadable := readable_of_parse h
  have hcomment := hasProperComment_of_parse h
  exact ⟨hreadable.parse_fullLine hcomment,
    fun format hformat => hreadable.parse_render hcomment hformat⟩

theorem parse_written_of_parse_counts_inside : ∃ b,
    parse "n10 N6 g1 x\"a  \"\"b\" y-.0 *5*7;ok  then".toList = .ok b ∧ parse b.fullLine = .ok b ∧
      ∀ format, OrderedFormat format → parse (b.render format) = .ok b := by
  have h : parse "n10 N6 g1 x\"a  \"\"b\" y-.0 *5*7;ok  then".toList =
      .ok ⟨some 10, .lineNumber 6,
        [.addressed ⟨'G', by decide⟩ (.int32 1),
          .addressed ⟨'X', by decide⟩ (.string ⟨"\"A \"\"B\"".toList, by decide⟩),
          .addressed ⟨'Y', by decide⟩ (.float32 ⟨0x80000000⟩), .checksum 5],
        some 7, some ";OK THEN".toList⟩ := by decide +kernel
  exact ⟨_, h, parse_written_of_parse _ _ h⟩

theorem hasProperComment_of_validated {b₀ : Block} (h : b₀.validated = .ok b) :
    b₀ = b ∧ b.HasProperComment := by
  rw [validated] at h
  split at h
  · cases h
  · cases h
  next hcomment _ =>
    cases h
    exact ⟨rfl, by simpa [HasProperComment] using Option.filter_eq_none_iff.1 hcomment⟩

/-- A validated block is read again from its full line exactly when it is
readable. It makes no difference whether the two blocks are compared as they are
or by value. -/
theorem parse_fullLine_iff_readable (b₀ b : Block) (h : b₀.validated = .ok b) :
    (parse b.fullLine = .ok b ↔ b.Readable) ∧
      ((∃ c, parse b.fullLine = .ok c ∧ c.sameValue b = true) ↔ b.Readable) := by
  have hwritten (hreadable : b.Readable) : parse b.fullLine = .ok b :=
    hreadable.parse_fullLine (hasProperComment_of_validated h).2
  refine ⟨⟨readable_of_parse, hwritten⟩, ?_, fun hreadable => ?_⟩
  · rintro ⟨c, hparse, hvalue⟩
    exact (readable_of_parse hparse).of_sameValue hvalue
  · exact ⟨b, hwritten hreadable, hreadable.sameValue_self⟩

/-- The comment here has two spaces, so the block is valid but is not read again. -/
theorem parse_fullLine_iff_readable_wide_comment : ∃ b : Block, b.validated = .ok b ∧
    parse b.fullLine ≠ .ok b ∧ ((parse b.fullLine = .ok b ↔ b.Readable) ∧
      ((∃ c, parse b.fullLine = .ok c ∧ c.sameValue b = true) ↔ b.Readable)) := by
  have h : validated ⟨none, .addressed ⟨'G', by decide⟩ (.int32 1), [.checksum 5], some 73,
      some ";A  B".toList⟩ = .ok ⟨none, .addressed ⟨'G', by decide⟩ (.int32 1), [.checksum 5],
        some 73, some ";A  B".toList⟩ := by decide +kernel
  exact ⟨_, h, by decide +kernel, parse_fullLine_iff_readable _ _ h⟩

end NCBlock.Block
