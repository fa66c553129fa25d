import NCBlock.Block.Text
import NCBlock.Proofs.Text.Blank

/-!
What a block looks like on a line. The full line and every format that keeps
the sections in their order write the same thing: the line of the block, then
its checksum and its comment. They differ only in whether a space stands before
the last two.
-/

namespace NCBlock

open Text

/-- A section with a gap before it, or nothing at all. -/
def optionalText (gap : Text) : Option Text → Text
  | none => []
  | some t => gap ++ t

inductive IsGap : Text → Prop
  | none : IsGap []
  | space : IsGap [' ']

theorem IsGap.allBlank {gap : Text} (h : IsGap gap) : gap.AllBlank := by
  cases h with
  | none => exact allBlank_nil
  | space => exact allBlank_singleton.2 (by decide)

/-- Formats with every section in its place and blanks between them. Around the line number and the
command there has to be at least one blank. -/
inductive OrderedFormat : Text → Prop
  | intro {w₀ w₁ w₂ w₃ w₄ w₅ : Text} : AllBlank w₀ → AllBlank w₁ → AllBlank w₂ → AllBlank w₃ →
      AllBlank w₄ → AllBlank w₅ → w₁ ≠ [] → w₂ ≠ [] →
      OrderedFormat (w₀ ++ '%' :: 'l' :: (w₁ ++ '%' :: 'c' :: (w₂ ++ '%' :: 'p' ::
        (w₃ ++ '%' :: 'k' :: (w₄ ++ '%' :: 'm' :: w₅)))))

theorem orderedFormat_fullFormat : OrderedFormat Block.fullFormat := by
  have hspace : AllBlank [' '] := allBlank_singleton.2 (by decide)
  exact @OrderedFormat.intro [] [' '] [' '] [' '] [' '] [] allBlank_nil hspace hspace hspace
    hspace allBlank_nil (List.cons_ne_nil _ _) (List.cons_ne_nil _ _)

theorem Gcode.text_ne_nil (g : Gcode) : g.text ≠ [] := by
  cases g <;> simp [Gcode.text, Word.text]

namespace Block

/-- The gcodes of a block, with the command first. -/
def gcodes (b : Block) : List Gcode := b.command :: b.parameters

def gcodesText (b : Block) : Text := spaced (b.gcodes.map Gcode.text)

/-- The line of a block with its checksum and its comment behind it. -/
def layout (b : Block) (k m : Text) : Text :=
  b.line ++ optionalText k b.checksumText ++ optionalText m b.comment

theorem gcodesText_ne_nil (b : Block) : b.gcodesText ≠ [] :=
  spaced_ne_nil b.command.text_ne_nil

theorem line_eq (b : Block) :
    b.line = b.lineNumberText.elim b.gcodesText fun t => t ++ ' ' :: b.gcodesText := by
  rw [line, coreTexts]
  cases b.lineNumberText <;> rfl

theorem line_ne_nil (b : Block) : b.line ≠ [] := by
  rw [line_eq]
  cases b.lineNumberText with
  | none => exact b.gcodesText_ne_nil
  | some t => simp

theorem lineWithChecksum_eq (b : Block) :
    b.lineWithChecksum = b.line ++ optionalText [' '] b.checksumText := by
  rw [lineWithChecksum]
  cases b.checksumText with
  | none => simp [optionalText, line]
  | some t =>
      have hcore : b.coreTexts ≠ [] := by simp [coreTexts]
      exact spaced_append hcore (List.cons_ne_nil t [])

theorem fullLine_eq_layout (b : Block) : b.fullLine = b.layout [' '] [' '] := by
  rw [fullLine, layout, ← lineWithChecksum_eq]
  cases b.comment with
  | none => simp [optionalText]
  | some comment => rfl

/-! ### Formats -/

/-- Writes a block through a format with a pen that has written before. -/
def writeFormat (b : Block) (pen : Pen) (format : Text) : Pen :=
  (Piece.ofFormat format).foldl b.writePiece pen

theorem render_eq (b : Block) (format : Text) :
    b.render format = (b.writeFormat ⟨[], false⟩ format).text := rfl

theorem ofFormat_cons_of_ne {c : Char} (hc : c ≠ '%') (t : Text) :
    Piece.ofFormat (c :: t) = Piece.ofChar c :: Piece.ofFormat t := by
  rw [Piece.ofFormat]
  all_goals simp [hc]

theorem writeFormat_blank (b : Block) (pen : Pen) {w : Text} (hw : AllBlank w) (t : Text) :
    b.writeFormat pen (w ++ t) = b.writeFormat ⟨pen.text, pen.gap || !w.isEmpty⟩ t := by
  induction w generalizing pen with
  | nil => simp
  | cons c w ih =>
      obtain ⟨hc, hw⟩ := allBlank_cons.1 hw
      have hpercent : c ≠ '%' := by
        rintro rfl
        exact absurd hc (by decide)
      rw [List.cons_append, writeFormat, ofFormat_cons_of_ne hpercent, Piece.ofChar, if_pos hc,
        List.foldl_cons, ← writeFormat, writePiece, ih _ hw]
      simp

theorem writeFormat_part (b : Block) (pen : Pen) {c : Char} {s : Section}
    (hs : Section.ofLetter? c = some s) (t : Text) :
    b.writeFormat pen ('%' :: c :: t) = b.writeFormat (pen.write (b.sectionText s)) t := by
  rw [writeFormat, Piece.ofFormat, Piece.ofDirective, hs]
  rfl

end Block

/-! ### Pens -/

theorem Pen.write_first {t : Text} (ht : t ≠ []) (gap : Bool) :
    Pen.write ⟨[], gap⟩ t = ⟨t, false⟩ := by
  simp [write, ht]

theorem Pen.write_spaced {t u : Text} (ht : t ≠ []) (hu : u ≠ []) :
    Pen.write ⟨t, true⟩ u = ⟨t ++ ' ' :: u, false⟩ := by
  simp [write, ht, hu]

theorem Pen.exists_write_optional (pen : Pen) (part : Option Text) (hpen : pen.text ≠ []) :
    ∃ gap, IsGap gap ∧ (pen.write (part.getD [])).text = pen.text ++ optionalText gap part := by
  cases part with
  | none => exact ⟨[], .none, by simp [write, optionalText]⟩
  | some t =>
      by_cases ht : t = []
      · exact ⟨[], .none, by simp [write, optionalText, ht]⟩
      · cases hgap : pen.gap with
        | true => exact ⟨[' '], .space, by simp [write, optionalText, ht, hgap, hpen]⟩
        | false => exact ⟨[], .none, by simp [write, optionalText, ht, hgap]⟩

namespace Block

/-- The line of a block is what a format has written after its first three sections. -/
theorem exists_writeFormat_line (b : Block) (gap : Bool) {w v : Text} (hw : AllBlank w)
    (hv : AllBlank v) (hwne : w ≠ []) (hvne : v ≠ []) (t : Text) :
    ∃ g, b.writeFormat ⟨[], gap⟩ ('%' :: 'l' :: (w ++ '%' :: 'c' :: (v ++ '%' :: 'p' :: t))) =
      b.writeFormat ⟨b.line, g⟩ t := by
  have hflag {u : Text} (hu : u ≠ []) (g : Bool) : (g || !u.isEmpty) = true := by simp [hu]
  rw [writeFormat_part b _ rfl, writeFormat_blank b _ hw, hflag hwne, writeFormat_part b _ rfl,
    writeFormat_blank b _ hv, hflag hvne, writeFormat_part b _ rfl]
  have hcommand : ∃ core, core ≠ [] ∧ b.line = spaced (core :: b.parameters.map Gcode.text) ∧
      Pen.write ⟨(Pen.write ⟨[], gap⟩ (b.sectionText .lineNumber)).text, true⟩ b.command.text =
        ⟨core, false⟩ := by
    have hne := b.command.text_ne_nil
    rw [sectionText, line, coreTexts]
    cases hnumber : b.lineNumber with
    | none => exact ⟨b.command.text, hne, by simp [lineNumberText, hnumber],
        by simpa [lineNumberText, hnumber, Pen.write] using hne⟩
    | some n =>
        have htext : b.lineNumberText = some (Gcode.lineNumber n).text := by
          rw [lineNumberText, hnumber]
          rfl
        rw [htext, Option.getD_some, Pen.write_first (Gcode.text_ne_nil _),
          Pen.write_spaced (Gcode.text_ne_nil _) hne]
        exact ⟨_, by simp, (spaced_joined _ _ _).symm, rfl⟩
  obtain ⟨core, hcore, hline, hwritten⟩ := hcommand
  rw [← sectionText] at hwritten
  rw [hwritten, hline, sectionText, parametersText]
  cases b.parameters with
  | nil =>
      -- nothing is written, so the gap before the parameters is still due
      exact ⟨true, rfl⟩
  | cons p ps =>
      have hparameters : spaced ((p :: ps).map Gcode.text) ≠ [] := spaced_ne_nil p.text_ne_nil
      rw [Pen.write_spaced hcore hparameters]
      exact ⟨false, rfl⟩

/-- Every ordered format writes the line of a block, its checksum and its comment. -/
theorem exists_render_eq_layout (b : Block) {format : Text} (h : OrderedFormat format) :
    ∃ k m, IsGap k ∧ IsGap m ∧ b.render format = b.layout k m := by
  cases h with
  | @intro w₀ w₁ w₂ w₃ w₄ w₅ h₀ h₁ h₂ h₃ h₄ h₅ hne₁ hne₂ =>
      rw [render_eq, writeFormat_blank b _ h₀]
      obtain ⟨g, hline⟩ := b.exists_writeFormat_line (false || !w₀.isEmpty) h₁ h₂ hne₁ hne₂
        (w₃ ++ '%' :: 'k' :: (w₄ ++ '%' :: 'm' :: w₅))
      -- each of the two sections may be absent, and then its gap passes to the next one
      rw [hline, writeFormat_blank b _ h₃, writeFormat_part b _ rfl, writeFormat_blank b _ h₄,
        writeFormat_part b _ rfl, ← List.append_nil w₅, writeFormat_blank b _ h₅]
      obtain ⟨k, hk, hchecksum⟩ := Pen.exists_write_optional ⟨b.line, g || !w₃.isEmpty⟩
        b.checksumText b.line_ne_nil
      obtain ⟨m, hm, hcomment⟩ := Pen.exists_write_optional
        ⟨b.line ++ optionalText k b.checksumText,
          (Pen.write ⟨b.line, g || !w₃.isEmpty⟩ (b.checksumText.getD [])).gap || !w₄.isEmpty⟩
        b.comment (by simp [b.line_ne_nil])
      refine ⟨k, m, hk, hm, ?_⟩
      rw [sectionText, hchecksum, sectionText, layout, ← hcomment]
      rfl

end Block

end NCBlock
