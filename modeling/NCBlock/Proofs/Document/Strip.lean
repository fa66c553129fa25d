import NCBlock.Proofs.Document.Validation
import NCBlock.Proofs.Document.Written

/-!
Documents that are written anew without their checksums. Taking the checksum
off a block leaves its last gcode at the end of the line. Where that gcode is
a checksum itself it is then read as one, so the line no longer reads as the
block without its checksum. Every other line does.
-/

namespace NCBlock

namespace Block

variable {b : Block}

/-- The last gcode would be read as a checksum if it stood at the end of the line. -/
def EndsInChecksum (b : Block) : Prop := ∃ n, b.gcodes.getLast? = some (.checksum n)

theorem Readable.strip_iff (h : b.Readable) : b.strip.Readable ↔ ¬b.EndsInChecksum := by
  constructor
  · rintro hstrip ⟨n, hlast⟩
    exact hstrip.last rfl n hlast
  · intro hends
    exact ⟨h.gcodes, h.command, fun _ n hlast => hends ⟨n, hlast⟩, h.comment⟩

theorem Readable.parse_strip_iff (h : b.Readable) (hcomment : b.HasProperComment) {format : Text}
    (hformat : OrderedFormat format) :
    parse (b.strip.render format) = .ok b.strip ↔ ¬b.EndsInChecksum := by
  rw [← h.strip_iff]
  exact ⟨readable_of_parse, fun hstrip => hstrip.parse_render hcomment hformat⟩

/-- The block that is read when its last parameter is taken for its checksum. -/
def withExposed (b : Block) (ps : List Gcode) (n : UInt32) : Block :=
  { b with parameters := ps, checksum := some n }

theorem line_eq_of_exposed {ps : List Gcode} {n : UInt32} (h : b.parameters = ps ++ [.checksum n]) :
    b.line = (b.withExposed ps n).lineWithChecksum := by
  rw [line, lineWithChecksum, coreTexts, coreTexts, h, List.map_append]
  simp [withExposed, checksumText, lineNumberText]

theorem Readable.exposed {ps : List Gcode} {n : UInt32} (h : b.Readable)
    (hexposed : b.parameters = ps ++ [.checksum n]) : (b.withExposed ps n).Readable where
  gcodes g hg := by
    refine h.gcodes g ?_
    rw [Block.gcodes, hexposed, ← List.cons_append]
    exact List.mem_append_left _ hg
  command := h.command
  last hnone := by cases hnone
  comment := h.comment

/-- Without its checksum, a block that has another one among its parameters, at
their end, is written as the block that has that one in its place. -/
theorem Readable.parse_strip_of_exposed {ps : List Gcode} {n : UInt32} {format : Text}
    (h : b.Readable) (hcomment : b.HasProperComment) (hformat : OrderedFormat format)
    (hexposed : b.parameters = ps ++ [.checksum n]) :
    parse (b.strip.render format) = .ok (b.withExposed ps n) := by
  obtain ⟨k, m, -, hm, heq⟩ := b.strip.exists_render_eq_layout hformat
  have hlayout : b.strip.layout k m = (b.withExposed ps n).layout [' '] m := by
    rw [layout, layout, line_strip, line_eq_of_exposed hexposed, lineWithChecksum_eq]
    simp [optionalText, checksumText, strip, withExposed]
  rw [heq, hlayout]
  exact (h.exposed hexposed).parse_layout hcomment .space hm

end Block

namespace Document

variable {l w : Text}

/-- How a line and the line that is written for it belong together. The line
reads as the block without its checksum exactly when that block does not end in
another one, which would be read in its place. -/
inductive Stripped : Text → Text → Prop
  | passthrough {l : Text} : isPassthrough l = true → Stripped l (chomp l)
  | block {l w : Text} {b : Block} : isPassthrough l = false → Block.parse l = .ok b →
      (Block.parse w = .ok b.strip ↔ ¬b.EndsInChecksum) →
      (∀ ps n, b.parameters = ps ++ [.checksum n] → Block.parse w = .ok (b.withExposed ps n)) →
      Stripped l w

theorem stripped_of_formatLine (h : formatLine Block.fullFormat .strip l = .ok w) :
    Stripped l (chomp w) := by
  rcases formatLine_eq_ok_iff.1 h with ⟨hpass, rfl⟩ | ⟨hpass, b, hparse, rfl⟩
  · exact .passthrough hpass
  · have hreadable := Block.readable_of_parse hparse
    have hcomment := Block.hasProperComment_of_parse hparse
    refine .block hpass hparse ?_ fun ps n hexposed => ?_
    · rw [Block.parse_chomp]
      exact hreadable.parse_strip_iff hcomment orderedFormat_fullFormat
    · rw [Block.parse_chomp]
      exact hreadable.parse_strip_of_exposed hcomment orderedFormat_fullFormat hexposed

/-- What the lines of a document read as that is written in full without its checksums. -/
theorem lines_format_strip (d out : Text) (h : format Block.fullFormat .strip d = .ok out) :
    List.Forall₂ Stripped (lines d) (lines out) := by
  obtain ⟨written, -, -, hlines, hwritten⟩ := exists_written_of_format h
  rw [hlines, List.forall₂_map_right_iff]
  exact hwritten.imp fun _ _ => stripped_of_formatLine

theorem lines_format_strip_mixed_lines :
    format Block.fullFormat .strip "; Head\r\nn3 t0*57 ; tool\ng28 *5*114".toList =
        .ok "; Head\nN3 T0 ; TOOL\nG28 *5\n".toList ∧
      List.Forall₂ Stripped ["; Head".toList, "n3 t0*57 ; tool".toList, "g28 *5*114".toList]
        ["; Head".toList, "N3 T0 ; TOOL".toList, "G28 *5".toList] := by
  have h : format Block.fullFormat .strip "; Head\r\nn3 t0*57 ; tool\ng28 *5*114".toList =
      .ok "; Head\nN3 T0 ; TOOL\nG28 *5\n".toList := by decide +kernel
  exact ⟨h, lines_format_strip _ _ h⟩

/-- The last parameter of this line is left at its end, where it is read as a
checksum, so the line is not what it was with its checksum taken off. -/
theorem lines_format_strip_two_checksums :
    format Block.fullFormat .strip "G28 *5 *114\n".toList = .ok "G28 *5\n".toList ∧
      ¬List.Forall₂ (fun l w => ∀ b, isPassthrough l = false → Block.parse l = .ok b →
        Block.parse w = .ok b.strip) (lines "G28 *5 *114\n".toList) (lines "G28 *5\n".toList) := by
  refine ⟨by decide +kernel, fun h => ?_⟩
  have hbefore : Block.parse "G28 *5 *114".toList =
      .ok ⟨none, .addressed ⟨'G', by decide⟩ (.int32 28), [.checksum 5], some 114, none⟩ := by
    decide +kernel
  have hafter : Block.parse "G28 *5".toList =
      .ok ⟨none, .addressed ⟨'G', by decide⟩ (.int32 28), [], some 5, none⟩ := by
    decide +kernel
  have hlines : lines "G28 *5 *114\n".toList = ["G28 *5 *114".toList] := by decide +kernel
  have hwritten : lines "G28 *5\n".toList = ["G28 *5".toList] := by decide +kernel
  rw [hlines, hwritten] at h
  cases h with
  | cons hline _ =>
      have hstrip := hline _ (by decide +kernel) hbefore
      rw [hafter] at hstrip
      cases hstrip

end Document

end NCBlock
