import NCBlock.Proofs.Block.RoundTrip
import NCBlock.Proofs.Document.Lines

/-!
No block takes two lines. Line breaks are refused where a string is quoted and
where a comment is accepted, they do not get past the normal form of a line, and
a format that has them gives spaces instead. So no text of a block has one,
however the block was made and whatever has become of its checksum since. That
the block can be read again is not asked for.
-/

namespace NCBlock

open Document

/-! ### Texts without line breaks -/

namespace Text

/-- No character ends the line. -/
def Unbroken (t : Text) : Prop := ∀ c ∈ t, c ≠ '\n' ∧ c ≠ '\r'

variable {t u : Text}

theorem unbroken_nil : Unbroken [] := fun _ hc => absurd hc List.not_mem_nil

theorem Unbroken.append (ht : Unbroken t) (hu : Unbroken u) : Unbroken (t ++ u) :=
  List.forall_mem_append.2 ⟨ht, hu⟩

theorem Unbroken.cons {c : Char} (hc : c ≠ '\n' ∧ c ≠ '\r') (ht : Unbroken t) :
    Unbroken (c :: t) :=
  List.forall_mem_cons.2 ⟨hc, ht⟩

theorem Unbroken.not_mem (h : Unbroken t) : '\n' ∉ t ∧ '\r' ∉ t :=
  ⟨fun hmem => (h _ hmem).1 rfl, fun hmem => (h _ hmem).2 rfl⟩

theorem ne_break_of_not_isBlank {c : Char} (h : isBlank c = false) : c ≠ '\n' ∧ c ≠ '\r' := by
  constructor <;> rintro rfl <;> exact absurd h (by decide)

theorem unbroken_of_flat (h : ∀ c ∈ t, isLineControl c = false) : Unbroken t := by
  intro c hc
  have hcontrol := h c hc
  constructor <;> rintro rfl <;> exact absurd hcontrol (by decide)

theorem unbroken_of_isPlain (h : ∀ c ∈ t, IsPlain c) : Unbroken t :=
  fun c hc => ne_break_of_not_isBlank (h c hc).not_isBlank

theorem unbroken_spaced {ts : List Text} (h : ∀ t ∈ ts, Unbroken t) : Unbroken (spaced ts) := by
  intro c hc
  rcases mem_spaced hc with rfl | ⟨t, ht, hc⟩
  · decide
  · exact h t ht c hc

end Text

open Text

/-! ### Gcodes -/

theorem Address.unbroken_floatText (v : Binary32) : Unbroken (floatText v) := by
  by_cases hfinite : v.isFinite = true
  · obtain ⟨-, d, hd, -⟩ := isLiteral_floatText hfinite
    exact unbroken_of_isPlain (isPlain_of_isPointed hd)
  · have hnames : ∀ t ∈ ["NaN".toList, "-inf".toList, "inf".toList], Unbroken t := by
      simp [Unbroken]
    rw [floatText, if_neg hfinite]
    split
    · exact hnames _ (by simp)
    · split
      · exact hnames _ (by simp)
      · exact hnames _ (by simp)

theorem Address.unbroken_text (a : Address) : Unbroken a.text := by
  cases a with
  | int32 i => exact unbroken_of_isPlain (isPlain_of_isInteger (isInteger_ofInt _))
  | uint32 n => exact unbroken_of_isPlain (isPlain_of_isNumeral (isNumeral_ofNat _))
  | float32 v => exact unbroken_floatText v
  | string q => exact unbroken_of_flat q.not_isLineControl

/-- This holds of all gcodes, also of those that no line spells. -/
theorem Gcode.unbroken_text (g : Gcode) : Unbroken g.text := by
  have hword (w : Word) : w.letter ≠ '\n' ∧ w.letter ≠ '\r' :=
    ne_break_of_not_isBlank (not_isBlank_of_isTokenLetter w.isTokenLetter_letter)
  cases g with
  | bare w => exact unbroken_nil.cons (hword w)
  | addressed w a => exact a.unbroken_text.cons (hword w)

/-! ### Characters that a format brings in -/

theorem Pen.mem_write {pen : Pen} {t : Text} {c : Char} (h : c ∈ (pen.write t).text) :
    c ∈ pen.text ∨ c = ' ' ∨ c ∈ t := by
  rw [write] at h
  split at h
  · exact .inl h
  · split at h
    · exact (List.mem_append.1 h).imp_right List.mem_cons.1
    · exact (List.mem_append.1 h).imp_right .inr

theorem Piece.not_isBlank_of_mem_ofChar {c d : Char} (h : Piece.char c ∈ [ofChar d]) :
    isBlank c = false := by
  rw [List.mem_singleton, ofChar] at h
  split at h
  · cases h
  next hd =>
    cases h
    exact (Bool.not_eq_true _).mp hd

theorem Piece.not_isBlank_of_mem_ofFormat {c : Char} {format : Text}
    (h : Piece.char c ∈ ofFormat format) : isBlank c = false := by
  have hpercent : isBlank '%' = false := by decide
  fun_induction ofFormat format with
  | case1 => cases h
  | case2 =>
      cases List.mem_singleton.1 h
      exact hpercent
  | case3 d rest ih =>
      rcases List.mem_append.1 h with h | h
      · rw [ofDirective] at h
        split at h
        · cases List.mem_singleton.1 h
        · split at h
          · cases List.mem_singleton.1 h
            exact hpercent
          · rcases List.mem_cons.1 h with heq | h
            · cases heq
              exact hpercent
            · exact not_isBlank_of_mem_ofChar h
      · exact ih h
  | case4 d rest _ _ ih =>
      rcases List.mem_cons.1 h with heq | h
      · exact not_isBlank_of_mem_ofChar (List.mem_singleton.2 heq)
      · exact ih h

namespace Block

variable {b : Block} {t : Text}

theorem mem_foldl_writePiece {pieces : List Piece} {pen : Pen} {c : Char}
    (h : c ∈ (pieces.foldl b.writePiece pen).text) :
    c ∈ pen.text ∨ c = ' ' ∨ .char c ∈ pieces ∨ ∃ s, c ∈ b.sectionText s := by
  induction pieces generalizing pen with
  | nil => exact .inl h
  | cons piece pieces ih =>
      rcases ih h with hpen | hspace | hmem | hsection
      · cases piece with
        | gap => exact .inl hpen
        | char d =>
            rcases Pen.mem_write hpen with hpen | hspace | hd
            · exact .inl hpen
            · exact .inr (.inl hspace)
            · obtain rfl := List.mem_singleton.1 hd
              exact .inr (.inr (.inl List.mem_cons_self))
        | part s =>
            rcases Pen.mem_write hpen with hpen | hspace | hs
            · exact .inl hpen
            · exact .inr (.inl hspace)
            · exact .inr (.inr (.inr ⟨s, hs⟩))
      · exact .inr (.inl hspace)
      · exact .inr (.inr (.inl (List.mem_cons_of_mem piece hmem)))
      · exact .inr (.inr (.inr hsection))

theorem mem_render {format : Text} {c : Char} (h : c ∈ b.render format) :
    c = ' ' ∨ isBlank c = false ∨ ∃ s, c ∈ b.sectionText s := by
  rcases mem_foldl_writePiece h with hnil | hspace | hmem | hsection
  · cases hnil
  · exact .inl hspace
  · exact .inr (.inl (Piece.not_isBlank_of_mem_ofFormat hmem))
  · exact .inr (.inr hsection)

/-! ### Sections -/

theorem HasProperComment.unbroken (h : b.HasProperComment) {comment : Text}
    (hcomment : comment ∈ b.comment) : Unbroken comment := by
  obtain ⟨-, hfeed, hreturn⟩ := isComment_iff.1 (h comment hcomment)
  exact fun c hc => ⟨fun heq => hfeed (heq ▸ hc), fun heq => hreturn (heq ▸ hc)⟩

theorem unbroken_optional {α : Type} {part : Option α} {write : α → Text}
    (h : ∀ a ∈ part, Unbroken (write a)) : Unbroken ((part.map write).getD []) := by
  cases part with
  | none => exact unbroken_nil
  | some a => exact h a rfl

theorem unbroken_texts (gs : List Gcode) : ∀ t ∈ gs.map Gcode.text, Unbroken t :=
  List.forall_mem_map.2 fun g _ => g.unbroken_text

theorem HasProperComment.unbroken_sectionText (h : b.HasProperComment) (s : Section) :
    Unbroken (b.sectionText s) := by
  cases s with
  | lineNumber => exact unbroken_optional fun n _ => Gcode.unbroken_text _
  | command => exact b.command.unbroken_text
  | parameters => exact unbroken_spaced (unbroken_texts b.parameters)
  | checksum => exact unbroken_optional fun n _ => Gcode.unbroken_text _
  | comment =>
      change Unbroken (b.comment.getD [])
      cases hcomment : b.comment with
      | none => exact unbroken_nil
      | some comment => exact h.unbroken hcomment

/-! ### Texts of a block -/

/-- The texts that a block is written as. -/
inductive Writes (b : Block) : Text → Prop
  | line : b.Writes b.line
  | lineWithChecksum : b.Writes b.lineWithChecksum
  | fullLine : b.Writes b.fullLine
  | render (format : Text) : b.Writes (b.render format)

theorem unbroken_coreTexts (b : Block) : ∀ t ∈ b.coreTexts, Unbroken t := by
  rw [coreTexts, ← List.map_cons]
  refine List.forall_mem_append.2 ⟨fun t ht => ?_, unbroken_texts (b.command :: b.parameters)⟩
  obtain ⟨n, -, rfl⟩ := Option.map_eq_some_iff.1 (Option.mem_toList.1 ht)
  exact Gcode.unbroken_text _

theorem unbroken_lineWithChecksum (b : Block) : Unbroken b.lineWithChecksum := by
  refine unbroken_spaced (List.forall_mem_append.2 ⟨b.unbroken_coreTexts, fun t ht => ?_⟩)
  obtain ⟨n, -, rfl⟩ := Option.map_eq_some_iff.1 (Option.mem_toList.1 ht)
  exact Gcode.unbroken_text _

theorem HasProperComment.unbroken_fullLine (h : b.HasProperComment) : Unbroken b.fullLine := by
  rw [fullLine]
  split
  next => exact b.unbroken_lineWithChecksum
  next comment hcomment =>
    exact b.unbroken_lineWithChecksum.append ((h.unbroken hcomment).cons (by decide))

/-- Whatever blanks the format has, a gap in it is written as a space. -/
theorem HasProperComment.unbroken_render (h : b.HasProperComment) (format : Text) :
    Unbroken (b.render format) := by
  intro c hc
  rcases mem_render hc with rfl | hsolid | ⟨s, hs⟩
  · decide
  · exact ne_break_of_not_isBlank hsolid
  · exact h.unbroken_sectionText s c hs

theorem Writes.unbroken (ht : b.Writes t) (h : b.HasProperComment) : Unbroken t := by
  cases ht with
  | line => exact unbroken_spaced b.unbroken_coreTexts
  | lineWithChecksum => exact b.unbroken_lineWithChecksum
  | fullLine => exact h.unbroken_fullLine
  | render format => exact h.unbroken_render format

/-! ### Blocks in use -/

/-- Blocks that were read, in whatever dialect, or constructed, and what updates
and strips make of them. -/
inductive Obtained : Block → Prop
  | parsed {σ : Type} {dialect : Dialect σ} {line : Text} {s : σ} {b : Block} :
      (parseWith dialect line s).1 = .ok b → Obtained b
  | validated {b₀ b : Block} : b₀.validated = .ok b → Obtained b
  | updated {σ : Type} (d : Digest σ) (s : σ) {b : Block} : Obtained b →
      Obtained (b.updateWith d s).1
  | stripped {b : Block} : Obtained b → Obtained b.strip

theorem Obtained.hasProperComment (h : b.Obtained) : b.HasProperComment := by
  induction h with
  | parsed hparse => exact hasProperComment_of_parseWith hparse
  | validated hvalidated => exact (hasProperComment_of_validated hvalidated).2
  | updated _ _ _ ih => exact ih
  | stripped _ ih => exact ih

/-- Whatever a block in use is written as has no line break, so in a document it
is one line and the next line starts behind it. -/
theorem one_line_of_writes (b : Block) (t : Text) (h : b.Obtained) (ht : b.Writes t) :
    ('\n' ∉ t ∧ '\r' ∉ t) ∧ ∀ rest, lines (t ++ '\n' :: rest) = t :: lines rest := by
  have hbreaks := (ht.unbroken h.hasProperComment).not_mem
  refine ⟨hbreaks, fun rest => ?_⟩
  rw [lines_append hbreaks.1, chomp_of_not_mem hbreaks.2]

/-- Line breaks in the format, a tab in the comment, and a gcode that no line spells. -/
theorem one_line_of_writes_broken_format : ∃ b : Block, b.Obtained ∧
    b.render "%l\n%c\r\n%p %k\n%\r%m".toList =
      "N7 M117 P\"a;\"\"b\" Xinf *114 % ; a\tb".toList ∧
    lines (b.render "%l\n%c\r\n%p %k\n%\r%m".toList ++ "\nG28".toList) =
      [b.render "%l\n%c\r\n%p %k\n%\r%m".toList, "G28".toList] := by
  have hvalidated : validated ⟨some 7, .addressed ⟨'M', by decide⟩ (.int32 117),
      [.addressed ⟨'P', by decide⟩ (.string ⟨"\"a;\"\"b\"".toList, by decide⟩),
        .addressed ⟨'X', by decide⟩ (.float32 ⟨0x7F800000⟩)], none, some "; a\tb".toList⟩ =
      .ok ⟨some 7, .addressed ⟨'M', by decide⟩ (.int32 117),
        [.addressed ⟨'P', by decide⟩ (.string ⟨"\"a;\"\"b\"".toList, by decide⟩),
          .addressed ⟨'X', by decide⟩ (.float32 ⟨0x7F800000⟩)], none, some "; a\tb".toList⟩ := rfl
  have hobtained := (Obtained.validated hvalidated).updated .xor 5
  obtain ⟨-, hlines⟩ := one_line_of_writes _ _ hobtained (.render "%l\n%c\r\n%p %k\n%\r%m".toList)
  exact ⟨_, hobtained, by decide +kernel, hlines "G28".toList⟩

end Block

end NCBlock
