import NCBlock.Document.Format
import NCBlock.Proofs.Block.Failure
import NCBlock.Proofs.Block.OneLine
import NCBlock.Proofs.Document.Lines

/-!
Documents that are written anew. Whatever the format is and happens to the
checksums, every line is written as one line, so the lines of the written
document are the written lines in their order.
-/

namespace NCBlock

theorem Block.HasProperComment.apply {b : Block} (h : b.HasProperComment) (mode : ChecksumMode) :
    (mode.apply b).HasProperComment := by
  cases mode <;> exact h

namespace Document

variable {f : Text} {mode : ChecksumMode} {l w : Text} {b : Block}

/-! ### One line -/

theorem formatLine_eq_ok_iff : formatLine f mode l = .ok w ↔
    isPassthrough l = true ∧ w = l ∨
      isPassthrough l = false ∧ ∃ b, Block.parse l = .ok b ∧ w = (mode.apply b).render f := by
  rw [formatLine]
  cases isPassthrough l with
  | true => simp [eq_comm]
  | false =>
      cases Block.parse l with
      | error e => simp [Except.map]
      | ok b => simp [Except.map, eq_comm]

theorem formatLine_eq_error_iff {e : Error} : formatLine f mode l = .error e ↔
    isPassthrough l = false ∧ Block.parse l = .error e := by
  rw [formatLine]
  cases isPassthrough l with
  | true => simp
  | false => simp [Except.map_eq_error_iff]

theorem unbroken_render_of_parse (h : Block.parse l = .ok b) (f : Text) (mode : ChecksumMode) :
    ((mode.apply b).render f).Unbroken :=
  ((Block.hasProperComment_of_parse h).apply mode).unbroken_render f

theorem not_mem_of_formatLine (hl : '\n' ∉ l) (h : formatLine f mode l = .ok w) : '\n' ∉ w := by
  rcases formatLine_eq_ok_iff.1 h with ⟨-, rfl⟩ | ⟨-, b, hparse, rfl⟩
  · exact hl
  · exact (unbroken_render_of_parse hparse f mode).not_mem.1

/-! ### All lines -/

theorem formatLines_cons_of_ok (h : formatLine f mode l = .ok w) (number : Nat) (ls : List Text) :
    formatLines f mode number (l :: ls) =
      (formatLines f mode (number + 1) ls).map fun out => w ++ '\n' :: out := by
  rw [formatLines, h]

theorem formatLines_cons_of_error {e : Error} (h : formatLine f mode l = .error e) (number : Nat)
    (ls : List Text) : formatLines f mode number (l :: ls) = .error ⟨number, e⟩ := by
  rw [formatLines, h]

theorem formatLines_eq_ok_iff {number : Nat} {ls : List Text} {out : Text} :
    formatLines f mode number ls = .ok out ↔
      ∃ written, List.Forall₂ (fun l w => formatLine f mode l = .ok w) ls written ∧
        out = joinLines written := by
  induction ls generalizing number out with
  | nil => simp [formatLines, eq_comm]
  | cons l ls ih =>
      constructor
      · intro h
        cases hl : formatLine f mode l with
        | error e =>
            rw [formatLines_cons_of_error hl] at h
            cases h
        | ok w =>
            rw [formatLines_cons_of_ok hl] at h
            obtain ⟨more, hmore, rfl⟩ := Except.map_eq_ok_iff.1 h
            obtain ⟨written, hwritten, rfl⟩ := ih.1 hmore
            exact ⟨w :: written, .cons hl hwritten, (joinLines_cons _ _).symm⟩
      · rintro ⟨_, hwritten, rfl⟩
        cases hwritten with
        | @cons _ w _ written hl hrest =>
            rw [formatLines_cons_of_ok hl, ih.2 ⟨written, hrest, rfl⟩, joinLines_cons]
            rfl

/-- The lines of a written document are the written lines, each without the
carriage return that a line may have kept at its end. -/
theorem exists_written_of_format {d out : Text} (h : format f mode d = .ok out) :
    ∃ written, out = joinLines written ∧ (∀ w ∈ written, '\n' ∉ w) ∧
      lines out = written.map chomp ∧
      List.Forall₂ (fun l w => formatLine f mode l = .ok w) (lines d) written := by
  obtain ⟨written, hwritten, rfl⟩ := formatLines_eq_ok_iff.1 h
  have hfeeds : ∀ w ∈ written, '\n' ∉ w := by
    intro w hw
    obtain ⟨l, hl, hline⟩ := Block.exists_rel_of_mem hwritten hw
    exact not_mem_of_formatLine (not_mem_of_mem_lines hl) hline
  exact ⟨written, rfl, hfeeds, lines_joinLines hfeeds, hwritten⟩

end Document

end NCBlock
