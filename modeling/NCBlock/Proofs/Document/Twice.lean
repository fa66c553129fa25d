import NCBlock.Proofs.Document.Update

/-!
Documents that are written anew twice. A block that has been written with its
checksum kept or renewed is read again as it is and written the same way. A
line that was copied is copied again, but a carriage return at its end is lost:
together with the line feed that was put behind it, it is then a line end.
-/

namespace NCBlock

theorem ChecksumMode.apply_apply (mode : ChecksumMode) (b : Block) :
    mode.apply (mode.apply b) = mode.apply b := by
  cases mode <;> rfl

theorem Block.Readable.apply {mode : ChecksumMode} (hmode : mode ≠ .strip) {b : Block}
    (h : b.Readable) : (mode.apply b).Readable := by
  cases mode with
  | keep => exact h
  | update => exact h.update
  | strip => exact absurd rfl hmode

namespace Document

variable {f : Text} {mode : ChecksumMode} {l w : Text}

/-! ### Carriage returns -/

theorem chomp_eq_self_iff {t : Text} : chomp t = t ↔ t.getLast? ≠ some '\r' := by
  rw [chomp]
  split
  next hlast =>
    obtain ⟨before, rfl⟩ := List.getLast?_eq_some_iff.1 hlast
    simp
  next hlast => simp [hlast]

/-- Lines that are ended anew are the same text only if no line loses a carriage return. -/
theorem joinLines_map_chomp_eq_iff {ts : List Text} :
    joinLines (ts.map chomp) = joinLines ts ↔ ∀ t ∈ ts, t.getLast? ≠ some '\r' := by
  induction ts with
  | nil => simp
  | cons t ts ih =>
      rw [List.map_cons, joinLines_cons, joinLines_cons, List.forall_mem_cons, ← ih]
      constructor
      · intro h
        by_cases hlast : t.getLast? = some '\r'
        · -- the line feed would stand where the carriage return was
          obtain ⟨before, rfl⟩ := List.getLast?_eq_some_iff.1 hlast
          rw [chomp, if_pos hlast, List.dropLast_concat, List.append_assoc] at h
          have hhead := List.append_cancel_left h
          cases hhead
        · rw [chomp_eq_self_iff.2 hlast] at h
          exact ⟨hlast, (List.cons.inj (List.append_cancel_left h)).2⟩
      · rintro ⟨hlast, hrest⟩
        rw [chomp_eq_self_iff.2 hlast, hrest]

/-! ### Lines -/

/-- A line that has been written is written again as it is read. -/
theorem formatLine_chomp (hf : OrderedFormat f) (hmode : mode ≠ .strip)
    (h : formatLine f mode l = .ok w) : formatLine f mode (chomp w) = .ok (chomp w) := by
  rcases formatLine_eq_ok_iff.1 h with ⟨hpass, rfl⟩ | ⟨hpass, b, hparse, rfl⟩
  · exact formatLine_eq_ok_iff.2 (.inl ⟨(isPassthrough_chomp w).trans hpass, rfl⟩)
  · have hreadable := (Block.readable_of_parse hparse).apply hmode
    have hcomment := (Block.hasProperComment_of_parse hparse).apply mode
    have hread := hreadable.parse_render hcomment hf
    rw [chomp_of_not_mem (unbroken_render_of_parse hparse f mode).not_mem.2]
    refine formatLine_eq_ok_iff.2 (.inr ⟨isPassthrough_of_parse hread, _, hread, ?_⟩)
    rw [mode.apply_apply]

theorem getLast?_of_formatLine (h : formatLine f mode l = .ok w) :
    w.getLast? ≠ some '\r' ↔ (isPassthrough l = true → l.getLast? ≠ some '\r') := by
  rcases formatLine_eq_ok_iff.1 h with ⟨hpass, rfl⟩ | ⟨hpass, b, hparse, rfl⟩
  · simp [hpass]
  · have hlast : ((mode.apply b).render f).getLast? ≠ some '\r' :=
      fun hlast => (unbroken_render_of_parse hparse f mode).not_mem.2 (List.mem_of_getLast? hlast)
    simp [hpass, hlast]

/-! ### Documents -/

theorem forall_getLast?_iff {ls ws : List Text}
    (h : List.Forall₂ (fun l w => formatLine f mode l = .ok w) ls ws) :
    (∀ w ∈ ws, w.getLast? ≠ some '\r') ↔
      ∀ l ∈ ls, isPassthrough l = true → l.getLast? ≠ some '\r' := by
  induction h with
  | nil => simp
  | cons hl _ ih => rw [List.forall_mem_cons, List.forall_mem_cons, getLast?_of_formatLine hl, ih]

/-- Writing a document anew with its checksums kept or renewed, and then once
more, only changes line ends. It changes nothing exactly when no line that was
copied ends in a carriage return. -/
theorem format_format_iff (mode : ChecksumMode) (hmode : mode ≠ .strip) (d out : Text)
    (h : format Block.fullFormat mode d = .ok out) :
    format Block.fullFormat mode out = .ok (joinLines (lines out)) ∧
      (format Block.fullFormat mode out = .ok out ↔
        ∀ l ∈ lines d, isPassthrough l = true → l.getLast? ≠ some '\r') := by
  obtain ⟨written, rfl, -, hlines, hwritten⟩ := exists_written_of_format h
  have hagain : format Block.fullFormat mode (joinLines written) =
      .ok (joinLines (written.map chomp)) := by
    rw [format, hlines]
    refine formatLines_eq_ok_iff.2 ⟨written.map chomp, ?_, rfl⟩
    rw [List.forall₂_map_left_iff, List.forall₂_map_right_iff, List.forall₂_same]
    intro w hw
    obtain ⟨l, -, hl⟩ := Block.exists_rel_of_mem hwritten hw
    exact formatLine_chomp orderedFormat_fullFormat hmode hl
  refine ⟨hlines ▸ hagain, ?_⟩
  rw [hagain, Except.ok.injEq, joinLines_map_chomp_eq_iff, forall_getLast?_iff hwritten]

theorem format_format_iff_mixed_lines :
    format Block.fullFormat .update "; Head\r\n \t\ng1  x1. *5*9 ;A\r\nn2 m3\r".toList =
        .ok "; Head\n \t\nG1 X1.0 *5 *30 ;A\nN2 M3 *34\n".toList ∧
      format Block.fullFormat .update "; Head\n \t\nG1 X1.0 *5 *30 ;A\nN2 M3 *34\n".toList =
        .ok "; Head\n \t\nG1 X1.0 *5 *30 ;A\nN2 M3 *34\n".toList := by
  have h : format Block.fullFormat .update
      "; Head\r\n \t\ng1  x1. *5*9 ;A\r\nn2 m3\r".toList =
      .ok "; Head\n \t\nG1 X1.0 *5 *30 ;A\nN2 M3 *34\n".toList := by decide +kernel
  exact ⟨h, (format_format_iff .update (by decide) _ _ h).2.2 (by decide +kernel)⟩

/-- The carriage return at the end of this document belongs to its line, but
not any more once the line is ended. -/
theorem format_format_stray_return :
    format Block.fullFormat .keep "; a\r".toList = .ok "; a\r\n".toList ∧
      format Block.fullFormat .keep "; a\r\n".toList ≠ .ok "; a\r\n".toList := by
  decide +kernel

end Document

end NCBlock
