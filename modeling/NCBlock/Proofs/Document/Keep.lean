import NCBlock.Proofs.Document.Validation
import NCBlock.Proofs.Document.Written

/-!
Documents that are written anew with their checksums as they are. Every line is
copied or reads as the same block, so a validation cannot tell the written
document from the one it was written for.
-/

namespace NCBlock.Document

variable {l w : Text}

/-- How a line and the line that is written for it belong together. -/
inductive Kept : Text → Text → Prop
  | passthrough {l : Text} : isPassthrough l = true → Kept l l
  | block {l w : Text} {b : Block} : isPassthrough l = false → Block.parse l = .ok b →
      Block.parse w = .ok b → Kept l w

theorem kept_of_formatLine (h : formatLine Block.fullFormat .keep l = .ok w) : Kept l w := by
  rcases formatLine_eq_ok_iff.1 h with ⟨hpass, rfl⟩ | ⟨hpass, b, hparse, rfl⟩
  · exact .passthrough hpass
  · have hreadable := Block.readable_of_parse hparse
    have hcomment := Block.hasProperComment_of_parse hparse
    exact .block hpass hparse (hreadable.parse_render hcomment orderedFormat_fullFormat)

theorem validateLine_of_kept (h : Kept l w) (requireChecksum : Bool) (number : Nat) :
    validateLine requireChecksum number (chomp w) = validateLine requireChecksum number l := by
  cases h with
  | passthrough => exact validateLine_congr (isPassthrough_chomp l) (Block.parse_chomp l)
  | block hpass hl hw =>
      refine validateLine_congr ?_ ?_
      · rw [isPassthrough_chomp, isPassthrough_of_parse hw, hpass]
      · rw [Block.parse_chomp, hw, hl]

theorem validateLines_of_kept {ls ws : List Text} (h : List.Forall₂ Kept ls ws)
    (requireChecksum : Bool) (number : Nat) :
    validateLines requireChecksum number (ws.map chomp) =
      validateLines requireChecksum number ls := by
  induction h generalizing number with
  | nil => rfl
  | cons hw _ ih => rw [List.map_cons, validateLines, validateLines, validateLine_of_kept hw, ih]

/-- A document that is written in full with its checksums as they are has the
same report as before, whether a checksum is required or not. -/
theorem validate_format_keep (d out : Text) (h : format Block.fullFormat .keep d = .ok out) :
    ∃ written, out = joinLines written ∧ (∀ w ∈ written, '\n' ∉ w) ∧
      List.Forall₂ Kept (lines d) written ∧
      ∀ requireChecksum, validate requireChecksum out = validate requireChecksum d := by
  obtain ⟨written, hout, hfeeds, hlines, hwritten⟩ := exists_written_of_format h
  have hkept : List.Forall₂ Kept (lines d) written := hwritten.imp fun _ _ => kept_of_formatLine
  refine ⟨written, hout, hfeeds, hkept, fun requireChecksum => ?_⟩
  rw [validate, validate, hlines]
  exact validateLines_of_kept hkept requireChecksum 1

/-- Line ends of both kinds, a last line that is not ended, and a wrong checksum. -/
theorem validate_format_keep_mixed_lines :
    format Block.fullFormat .keep "; Head\r\n\ng1  x1. *5*9 ;A\r\nn2 m3*1\r".toList =
        .ok "; Head\n\nG1 X1.0 *5 *9 ;A\nN2 M3 *1\n".toList ∧
      validate true "; Head\n\nG1 X1.0 *5 *9 ;A\nN2 M3 *1\n".toList =
        validate true "; Head\r\n\ng1  x1. *5*9 ;A\r\nn2 m3*1\r".toList := by
  have h : format Block.fullFormat .keep "; Head\r\n\ng1  x1. *5*9 ;A\r\nn2 m3*1\r".toList =
      .ok "; Head\n\nG1 X1.0 *5 *9 ;A\nN2 M3 *1\n".toList := by decide +kernel
  obtain ⟨-, -, -, -, hreport⟩ := validate_format_keep _ _ h
  exact ⟨h, hreport true⟩

end NCBlock.Document
