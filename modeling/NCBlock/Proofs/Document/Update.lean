import NCBlock.Proofs.Document.Validation
import NCBlock.Proofs.Document.Written

/-!
Documents that are written with fresh checksums. Every line of such a document
is the line it was written for, or the layout of the block that was read there
with its computed checksum, so a validation has nothing to say about it.
-/

namespace NCBlock

open Document

/-! ### Fresh checksums -/

namespace Block

variable {b : Block}

theorem Readable.update (h : b.Readable) : b.update.Readable where
  gcodes := h.gcodes
  command := h.command
  last hnone := by cases hnone
  comment := h.comment

theorem HasProperComment.update (h : b.HasProperComment) : b.update.HasProperComment := h

end Block

namespace Document

/-! ### Written documents -/

/-- How a line and the line that is written for it belong together. -/
inductive Updated : Text → Text → Prop
  | passthrough {l : Text} : isPassthrough l = true → Updated l (chomp l)
  | block {l w : Text} {b : Block} : isPassthrough l = false → isPassthrough w = false →
      Block.parse l = .ok b →
      Block.parse w = .ok { b with checksum := some (xorSum b.line.utf8).toUInt32 } → Updated l w

theorem updated_of_formatLine {l w : Text} (hl : '\n' ∉ l)
    (h : formatLine Block.fullFormat .update l = .ok w) : '\n' ∉ w ∧ Updated l (chomp w) := by
  refine ⟨not_mem_of_formatLine hl h, ?_⟩
  rcases formatLine_eq_ok_iff.1 h with ⟨hpass, rfl⟩ | ⟨hpass, b, hparse, rfl⟩
  · exact .passthrough hpass
  · have hreadable := (Block.readable_of_parse hparse).update
    have hcomment := (Block.hasProperComment_of_parse hparse).update
    have hread := hreadable.parse_render hcomment orderedFormat_fullFormat
    rw [← Block.parse_chomp] at hread
    exact .block hpass (isPassthrough_of_parse hread) hparse hread

/-! ### Validation -/

theorem validateLine_of_updated {l w : Text} (h : Updated l w) (number : Nat) :
    validateLine true number w = ⟨[], if isPassthrough l then 0 else 1⟩ := by
  cases h with
  | passthrough hpass =>
      rw [hpass, validateLine_of_isPassthrough ((isPassthrough_chomp l).trans hpass)]
      rfl
  | @block _ b hl _ _ hparse =>
      have hparse : Block.parse w = .ok b.update := hparse
      rw [validateLine_of_ok hparse, Block.diagnostics_of_right rfl, hl]
      rfl

theorem validateLines_of_updated {ls ws : List Text} (h : List.Forall₂ Updated ls ws)
    (number : Nat) : validateLines true number ws = ⟨[], ls.countP fun l => !isPassthrough l⟩ := by
  induction h generalizing number with
  | nil => rfl
  | @cons l w ls ws hl _ ih =>
      rw [validateLines, validateLine_of_updated hl, ih, Report.merge, List.countP_cons]
      cases isPassthrough l <;> simp [Nat.add_comm]

theorem forall₂_updated {ls ws : List Text} (hls : ∀ l ∈ ls, '\n' ∉ l)
    (h : List.Forall₂ (fun l w => formatLine Block.fullFormat .update l = .ok w) ls ws) :
    (∀ w ∈ ws, '\n' ∉ w) ∧ List.Forall₂ Updated ls (ws.map chomp) := by
  induction h with
  | nil => exact ⟨fun _ hw => absurd hw List.not_mem_nil, .nil⟩
  | @cons l w ls ws hw _ ih =>
      obtain ⟨hfeed, hupdated⟩ := updated_of_formatLine (hls l List.mem_cons_self) hw
      obtain ⟨hfeeds, hrest⟩ := ih fun l' hl' => hls l' (List.mem_cons_of_mem l hl')
      refine ⟨fun w' hw' => ?_, .cons hupdated hrest⟩
      rcases List.mem_cons.1 hw' with rfl | hw'
      · exact hfeed
      · exact hfeeds w' hw'

/-- A document that is written in full with fresh checksums is valid, and its lines hold the blocks
of the lines that they were written for. -/
theorem validate_format_update (d out : Text)
    (h : format Block.fullFormat .update d = .ok out) :
    validate true out = ⟨[], (lines d).countP fun l => !isPassthrough l⟩ ∧
      List.Forall₂ Updated (lines d) (lines out) := by
  obtain ⟨written, hwritten, rfl⟩ := formatLines_eq_ok_iff.1 h
  obtain ⟨hfeeds, hupdated⟩ := forall₂_updated (fun l => not_mem_of_mem_lines) hwritten
  rw [← lines_joinLines hfeeds] at hupdated
  exact ⟨validateLines_of_updated hupdated 1, hupdated⟩

theorem validate_format_update_mixed_lines :
    format Block.fullFormat .update "; Head\r\n\ng1  x1. *5*9 ;A\nn2 m3".toList =
        .ok "; Head\n\nG1 X1.0 *5 *30 ;A\nN2 M3 *34\n".toList ∧
      validate true "; Head\n\nG1 X1.0 *5 *30 ;A\nN2 M3 *34\n".toList = ⟨[], 2⟩ := by
  have h : format Block.fullFormat .update "; Head\r\n\ng1  x1. *5*9 ;A\nn2 m3".toList =
      .ok "; Head\n\nG1 X1.0 *5 *30 ;A\nN2 M3 *34\n".toList := by decide +kernel
  have hcount : (lines "; Head\r\n\ng1  x1. *5*9 ;A\nn2 m3".toList).countP
      (fun l => !isPassthrough l) = 2 := by decide +kernel
  exact ⟨h, hcount ▸ (validate_format_update _ _ h).1⟩

end Document

end NCBlock
