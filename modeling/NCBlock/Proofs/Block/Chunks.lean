import NCBlock.Proofs.Block.Layout
import NCBlock.Proofs.Block.OneLine

/-!
What a format means, told without a pen. A format is a row of chunks between
blanks, each of which is expanded on its own, and the expansions that are not
empty are joined with single spaces. Inserted text is not looked at again, so
the full format gives the full line whatever a string or a comment holds.
-/

namespace NCBlock

/-! ### Texts joined without the empty ones -/

namespace Text

/-- The longest parts of a text without a blank. -/
def chunks (t : Text) : List Text := (t.splitOnP isBlank).filter (· ≠ [])

/-- Joins the texts that are not empty. -/
def joined (ts : List Text) : Text := spaced (ts.filter (· ≠ []))

variable {t u : Text} {ts : List Text}

@[simp] theorem joined_nil : joined [] = [] := rfl

@[simp] theorem joined_cons_nil : joined ([] :: ts) = joined ts := by simp [joined]

theorem joined_eq_spaced (h : [] ∉ ts) : joined ts = spaced ts := by
  have hall : ∀ t ∈ ts, decide (t ≠ []) = true := by
    intro t ht
    exact decide_eq_true fun hnil => h (hnil ▸ ht)
  rw [joined, List.filter_eq_self.2 hall]

@[simp] theorem joined_singleton : joined [t] = t := by
  by_cases ht : t = []
  · rw [ht, joined_cons_nil, joined_nil]
  · exact joined_eq_spaced (by simpa [eq_comm] using ht)

@[simp] theorem joined_pair_nil : joined [t, []] = t := by
  by_cases ht : t = []
  · rw [ht, joined_cons_nil, joined_singleton]
  · simp [joined, ht]

theorem joined_pair_of_ne_nil (ht : t ≠ []) (hu : u ≠ []) : joined [t, u] = t ++ ' ' :: u :=
  joined_eq_spaced (by simp [ht.symm, hu.symm])

theorem joined_eq_nil_iff : joined ts = [] ↔ ts.filter (· ≠ []) = [] := by
  refine ⟨fun h => ?_, fun h => by rw [joined, h, spaced_nil]⟩
  by_contra hne
  obtain ⟨u, us, heq⟩ := List.exists_cons_of_ne_nil hne
  have hu : u ∈ ts.filter (· ≠ []) := heq ▸ List.mem_cons_self
  rw [joined, heq] at h
  exact spaced_ne_nil (of_decide_eq_true (List.mem_filter.1 hu).2) h

theorem joined_append (ts us : List Text) : joined (ts ++ us) = joined [joined ts, joined us] := by
  by_cases hts : joined ts = []
  · rw [hts, joined_cons_nil, joined_singleton, joined, List.filter_append,
      joined_eq_nil_iff.1 hts, List.nil_append, joined]
  · by_cases hus : joined us = []
    · rw [hus, joined_pair_nil, joined, List.filter_append, joined_eq_nil_iff.1 hus,
        List.append_nil, joined]
    · rw [joined_pair_of_ne_nil hts hus, joined, List.filter_append,
        spaced_append (mt joined_eq_nil_iff.2 hts) (mt joined_eq_nil_iff.2 hus), joined, joined]

theorem joined_joined (t u : Text) (ts : List Text) :
    joined (joined [t, u] :: ts) = joined (t :: u :: ts) := by
  rw [← List.singleton_append, joined_append, joined_singleton]
  exact (joined_append [t, u] ts).symm

theorem joined_map_joined (groups : List (List Text)) :
    joined (groups.map joined) = joined groups.flatten := by
  induction groups with
  | nil => rfl
  | cons group groups ih =>
      rw [List.map_cons, ← List.singleton_append, joined_append, joined_singleton, ih,
        List.flatten_cons, joined_append group]

theorem joined_toList (t : Option Text) : joined t.toList = t.getD [] := by
  cases t with
  | none => rfl
  | some t => exact joined_singleton

theorem chunks_append_blank {c : Char} (hc : isBlank c = true) (t u : Text) :
    chunks (t ++ c :: u) = chunks t ++ chunks u := by
  rw [chunks, List.splitOnP_append_cons t u hc, List.filter_append]
  rfl

/-- A text without blanks is one chunk, or none if it is empty. -/
theorem chunks_of_not_isBlank (h : ∀ c ∈ t, isBlank c = false) :
    chunks t = [t].filter (· ≠ []) := by
  rw [chunks, List.splitOnP_eq_singleton h]

end Text

open Text

/-! ### Pens -/

namespace Pen

/-- What is written at once may be written in two parts. -/
theorem write_append (pen : Pen) (t u : Text) : pen.write (t ++ u) = (pen.write t).write u := by
  by_cases ht : t = []
  · simp [ht, write]
  · by_cases hu : u = []
    · simp [hu, write]
    · by_cases hgap : pen.gap = true ∧ pen.text ≠ []
      · simp [write, ht, hu, hgap]
      · simp [write, ht, hu, if_neg hgap]

theorem text_write {pen : Pen} (h : pen.gap = true ∨ pen.text = []) (t : Text) :
    (pen.write t).text = joined [pen.text, t] := by
  by_cases ht : t = []
  · by_cases hpen : pen.text = [] <;> simp [write, joined, ht, hpen]
  · by_cases hpen : pen.text = []
    · simp [write, joined, ht, hpen]
    · simp [write, joined, ht, hpen, h.resolve_right hpen]

end Pen

namespace Block

/-! ### Chunks of a format -/

/-- What stands for a percent sign and the character behind it. -/
def verbText (b : Block) : Char → Text
  | 'l' => b.lineNumberText.getD []
  | 'c' => b.command.text
  | 'p' => spaced (b.parameters.map Gcode.text)
  | 'k' => b.checksumText.getD []
  | 'm' => b.comment.getD []
  | '%' => ['%']
  | c => ['%', c]

/-- Expands a chunk from the left, and does not look at what it has put in. -/
def expand (b : Block) : Text → Text
  | [] => []
  | ['%'] => ['%']
  | '%' :: c :: rest => b.verbText c ++ b.expand rest
  | c :: rest => c :: b.expand rest

theorem ofDirective_of_none {c : Char} (hletter : Section.ofLetter? c = none) (hc : c ≠ '%') :
    Piece.ofDirective c = [.char '%', Piece.ofChar c] := by
  rw [Piece.ofDirective, hletter]
  exact if_neg hc

theorem foldl_ofDirective (b : Block) (pen : Pen) {c : Char} (hc : isBlank c = false) :
    (Piece.ofDirective c).foldl b.writePiece pen = pen.write (b.verbText c) := by
  unfold verbText
  split
  case h_7 hpercent =>
    have hletter : Section.ofLetter? c = none := by
      unfold Section.ofLetter?
      split <;> first | contradiction | rfl
    rw [ofDirective_of_none hletter hpercent, Piece.ofChar, hc, if_neg Bool.false_ne_true]
    exact (pen.write_append ['%'] [c]).symm
  all_goals rfl

/-- A percent sign at the end of a chunk is kept, and the blank is still a blank. -/
theorem writeFormat_percent (b : Block) (pen : Pen) {rest : Text} (hrest : AtGap rest) :
    b.writeFormat pen ('%' :: rest) = b.writeFormat (pen.write ['%']) rest := by
  cases rest with
  | nil => rfl
  | cons d rest =>
      have hd := atGap_cons.1 hrest
      have hblank : AllBlank [d] := allBlank_singleton.2 hd
      have hpercent : d ≠ '%' := by
        rintro rfl
        exact absurd hd (by decide)
      have hletter : Section.ofLetter? d = none := by
        unfold Section.ofLetter?
        split <;> first | exact absurd hd (by decide) | rfl
      rw [← List.singleton_append (l := rest), b.writeFormat_blank _ hblank, writeFormat,
        List.singleton_append, Piece.ofFormat, ofDirective_of_none hletter hpercent, Piece.ofChar,
        if_pos hd]
      simp [writeFormat, writePiece]

/-- A chunk is written as its expansion, if a blank or the end comes behind it. -/
theorem writeFormat_chunk (b : Block) (pen : Pen) {chunk rest : Text}
    (hchunk : ∀ c ∈ chunk, isBlank c = false) (hrest : AtGap rest) :
    b.writeFormat pen (chunk ++ rest) = b.writeFormat (pen.write (b.expand chunk)) rest := by
  fun_induction expand b chunk generalizing pen with
  | case1 => rfl
  | case2 => exact b.writeFormat_percent pen hrest
  | case3 c chunk ih =>
      rw [List.forall_mem_cons, List.forall_mem_cons] at hchunk
      obtain ⟨-, hc, hchunk⟩ := hchunk
      rw [Pen.write_append, ← ih _ hchunk, ← b.foldl_ofDirective pen hc, List.cons_append,
        List.cons_append, writeFormat, writeFormat, Piece.ofFormat, List.foldl_append]
  | case4 c chunk hlast hverb ih =>
      obtain ⟨hc, hchunk⟩ := List.forall_mem_cons.1 hchunk
      have hpercent : c ≠ '%' := by
        rintro rfl
        cases chunk with
        | nil => exact hlast rfl rfl
        | cons d chunk => exact hverb d chunk rfl rfl
      rw [← List.singleton_append (l := b.expand chunk), Pen.write_append, ← ih _ hchunk,
        List.cons_append, writeFormat, ofFormat_cons_of_ne hpercent, Piece.ofChar, hc,
        if_neg Bool.false_ne_true]
      rfl

/-- A chunk that is empty is none, and its expansion leaves no trace either. -/
theorem joined_expand_chunk (b : Block) {chunk : Text} (hchunk : ∀ c ∈ chunk, isBlank c = false)
    (t : Text) (ts : List Text) :
    joined (t :: ((chunks chunk).map b.expand ++ ts)) = joined (t :: b.expand chunk :: ts) := by
  rw [chunks_of_not_isBlank hchunk]
  by_cases hnil : chunk = []
  · rw [hnil, expand, ← joined_joined, joined_pair_nil]
    rfl
  · simp [hnil]

/-- What a pen writes through a format goes behind its text, if a gap is due
there. The chunk is the part of the format that was passed since the last blank. -/
theorem text_writeFormat (b : Block) (pen : Pen) (h : pen.gap = true ∨ pen.text = [])
    (chunk : Text) (hchunk : ∀ c ∈ chunk, isBlank c = false) (format : Text) :
    (b.writeFormat pen (chunk ++ format)).text =
      joined (pen.text :: (chunks (chunk ++ format)).map b.expand) := by
  induction format generalizing pen chunk with
  | nil =>
      have hjoined := b.joined_expand_chunk hchunk pen.text []
      rw [List.append_nil] at hjoined
      rw [b.writeFormat_chunk pen hchunk atGap_nil, List.append_nil, hjoined]
      exact Pen.text_write h _
  | cons c format ih =>
      cases hc : isBlank c with
      | true =>
          have hblank : AllBlank [c] := allBlank_singleton.2 hc
          have hrest := ih ⟨(pen.write (b.expand chunk)).text, true⟩ (.inl rfl) []
            fun c hc => absurd hc List.not_mem_nil
          rw [b.writeFormat_chunk pen hchunk (atGap_cons.2 hc), ← List.singleton_append,
            b.writeFormat_blank _ hblank, List.singleton_append, chunks_append_blank hc,
            List.map_append, joined_expand_chunk b hchunk, ← joined_joined, ← Pen.text_write h]
          simpa using hrest
      | false =>
          have hlonger : ∀ d ∈ chunk ++ [c], isBlank d = false :=
            List.forall_mem_append.2 ⟨hchunk, List.forall_mem_singleton.2 hc⟩
          rw [List.append_cons]
          exact ih pen h (chunk ++ [c]) hlonger

theorem render_eq_joined (b : Block) (format : Text) :
    b.render format = joined ((chunks format).map b.expand) := by
  have hwritten := b.text_writeFormat ⟨[], false⟩ (.inr rfl) []
    (fun c hc => absurd hc List.not_mem_nil) format
  rwa [List.nil_append, joined_cons_nil, ← render_eq] at hwritten

/-! ### The full format -/

theorem joined_texts (gs : List Gcode) :
    joined (gs.map Gcode.text) = spaced (gs.map Gcode.text) := by
  refine joined_eq_spaced fun hmem => ?_
  obtain ⟨g, -, hg⟩ := List.mem_map.1 hmem
  exact g.text_ne_nil hg

theorem joined_coreTexts (b : Block) :
    joined (b.coreTexts ++ b.checksumText.toList) = b.lineWithChecksum := by
  refine joined_eq_spaced fun hmem => ?_
  simp [coreTexts, lineNumberText, checksumText, Gcode.text_ne_nil] at hmem

theorem render_fullFormat (b : Block) :
    b.render fullFormat = joined [b.lineWithChecksum, b.comment.getD []] := by
  have hchunks : chunks fullFormat =
      ["%l".toList, "%c".toList, "%p".toList, "%k".toList, "%m".toList] := by decide +kernel
  have hexpanded : (chunks fullFormat).map b.expand =
      [b.lineNumberText.toList, [b.command.text], b.parameters.map Gcode.text,
        b.checksumText.toList].map joined ++ [b.comment.getD []] := by
    simp [hchunks, expand, verbText, joined_toList, joined_texts]
  rw [render_eq_joined, hexpanded, joined_append, joined_map_joined, joined_singleton,
    ← joined_coreTexts]
  simp [coreTexts]

theorem render_fullFormat_iff (b : Block) :
    b.render fullFormat = b.fullLine ↔ b.comment ≠ some [] := by
  rw [render_fullFormat, fullLine]
  cases b.comment with
  | none => simp
  | some comment =>
      by_cases hcomment : comment = []
      · simp [hcomment]
      · have hline : b.lineWithChecksum ≠ [] := by
          rw [lineWithChecksum_eq]
          exact List.append_ne_nil_of_left_ne_nil b.line_ne_nil _
        simp [hcomment, joined_pair_of_ne_nil hline hcomment]

/-- A format is rendered chunk by chunk. The full format gives the full line, but
for a comment without a character, which no block in use has. -/
theorem render_eq_spaced_chunks (b : Block) :
    (∀ format, b.render format = spaced (((chunks format).map b.expand).filter (· ≠ []))) ∧
    (b.render fullFormat = b.fullLine ↔ b.comment ≠ some []) ∧
    (b.Obtained → b.render fullFormat = b.fullLine) := by
  refine ⟨b.render_eq_joined, b.render_fullFormat_iff, fun h => ?_⟩
  refine b.render_fullFormat_iff.2 fun hcomment => ?_
  have hproper := h.hasProperComment [] hcomment
  cases hproper

/-- Two gaps beside absent sections, a percent sign before a blank, and verbs in a string. -/
theorem render_eq_spaced_chunks_inner_verbs : ∃ b : Block, b.Obtained ∧
    b.render fullFormat = b.fullLine ∧
    b.render "%l x%q% %c%%\t%p %k %m %".toList = "x%q% M117% P\"%c  %\" ; %%p %".toList ∧
    b.fullLine = "M117 P\"%c  %\" ; %%p".toList := by
  have hvalidated : validated ⟨none, .addressed ⟨'M', by decide⟩ (.int32 117),
      [.addressed ⟨'P', by decide⟩ (.string ⟨"\"%c  %\"".toList, by decide⟩)], none,
        some "; %%p".toList⟩ =
      .ok ⟨none, .addressed ⟨'M', by decide⟩ (.int32 117),
        [.addressed ⟨'P', by decide⟩ (.string ⟨"\"%c  %\"".toList, by decide⟩)], none,
          some "; %%p".toList⟩ := rfl
  have hobtained := Obtained.validated hvalidated
  exact ⟨_, hobtained, (render_eq_spaced_chunks _).2.2 hobtained, by decide +kernel,
    by decide +kernel⟩

end Block

end NCBlock
