import NCBlock.Block.Checksum
import NCBlock.Proofs.Block.Grammar
import NCBlock.Proofs.Block.Layout
import NCBlock.Proofs.Gcode.Section

/-!
Readable blocks, which are the blocks that some line reads as. Besides readable
gcodes this asks that no gcode stands where it would be cut off as a line
number or a checksum, and that a comment is in normal form.
-/

namespace NCBlock.Block

open Line

/-- What a block has to be for its line to be read as the same block. -/
structure Readable (b : Block) : Prop where
  gcodes : ∀ g ∈ b.gcodes, g.Readable
  /-- Without a line number, nothing at the start is taken for one. -/
  command : b.lineNumber = none → ∀ n, b.command ≠ .lineNumber n
  /-- Without a checksum, nothing at the end is taken for one. -/
  last : b.checksum = none → ∀ n, b.gcodes.getLast? ≠ some (.checksum n)
  comment : ∀ t ∈ b.comment, Text.upperCase t = t ∧ '\t' ∉ t ∧ t.Loose ∧ t.SolidEnd

/-- The comment of a block, if it has one, is a comment. -/
def HasProperComment (b : Block) : Prop := ∀ t ∈ b.comment, isComment t = true

/-! ### Comments -/

theorem isComment_iff {t : Text} :
    isComment t = true ↔ t.head? = some ';' ∧ '\n' ∉ t ∧ '\r' ∉ t := by
  simp only [isComment, Bool.and_eq_true, decide_eq_true_eq, Bool.not_eq_true',
    List.any_eq_false, Bool.or_eq_true, not_or]
  constructor
  · rintro ⟨hhead, hall⟩
    exact ⟨hhead, fun hmem => (hall _ hmem).1 rfl, fun hmem => (hall _ hmem).2 rfl⟩
  · rintro ⟨hhead, hfeed, hreturn⟩
    exact ⟨hhead, fun c hc => ⟨fun heq => hfeed (heq ▸ hc), fun heq => hreturn (heq ▸ hc)⟩⟩

/-- A comment is in normal form when it meets what is asked of it in a readable block. -/
theorem isNormal_comment_iff {t : Text} (ht : isComment t = true) :
    IsNormal t ↔ Text.upperCase t = t ∧ '\t' ∉ t ∧ t.Loose ∧ t.SolidEnd := by
  obtain ⟨hhead, hfeed, hreturn⟩ := isComment_iff.1 ht
  constructor
  · intro h
    exact ⟨Text.upperCase_eq_self_iff.2 h.capital, fun hmem => absurd (h.flat _ hmem) (by decide),
      h.loose, h.trimmed.stop⟩
  · rintro ⟨hcapital, htab, hloose, hstop⟩
    refine ⟨⟨fun c hc => ?_, hstop⟩, Text.upperCase_eq_self_iff.1 hcapital, hloose, fun c hc => ?_⟩
    · rw [hhead] at hc
      cases hc
      decide
    · rw [← Bool.not_eq_true]
      intro hcontrol
      simp only [isLineControl, Bool.or_eq_true, decide_eq_true_eq] at hcontrol
      rcases hcontrol with (rfl | rfl) | rfl
      · exact htab hc
      · exact hfeed hc
      · exact hreturn hc

/-- A comment that is cut off a normal line is a comment in normal form. -/
theorem isNormal_of_commentCut {t before c : Text} (ht : IsNormal t)
    (h : CommentCut t (some c) before) : isComment c = true ∧ IsNormal c := by
  generalize hcomment : some c = comment at h
  cases h with
  | absent => cases hcomment
  | @present before rest _ =>
      cases hcomment
      have hflat : ∀ d ∈ ';' :: rest, isLineControl d = false :=
        fun d hd => ht.flat d (List.mem_append_right before hd)
      have hstart : Text.SolidStart (';' :: rest) := Text.solidStart_cons.2 (by decide)
      refine ⟨isComment_iff.2 ⟨rfl, ?_, ?_⟩, ⟨⟨hstart, ?_⟩, ?_, ?_, hflat⟩⟩
      · exact fun hmem => absurd (hflat _ hmem) (by decide)
      · exact fun hmem => absurd (hflat _ hmem) (by decide)
      · exact ht.trimmed.stop.right
      · exact fun d hd => ht.capital d (List.mem_append_right before hd)
      · exact ht.loose.right

/-! ### What a line reads as -/

section

variable {α β : Type} {R : α → β → Prop} {as : List α} {bs : List β}

theorem exists_rel_of_mem (h : List.Forall₂ R as bs) {b : β} (hb : b ∈ bs) :
    ∃ a ∈ as, R a b := by
  induction h with
  | nil => cases hb
  | @cons a _ as bs hab _ ih =>
      rcases List.mem_cons.1 hb with rfl | hb
      · exact ⟨a, List.mem_cons_self, hab⟩
      · obtain ⟨a', ha', hab⟩ := ih hb
        exact ⟨a', List.mem_cons_of_mem a ha', hab⟩

theorem exists_rel_of_getLast? (h : List.Forall₂ R as bs) {b : β} (hb : bs.getLast? = some b) :
    ∃ a, as.getLast? = some a ∧ R a b := by
  rw [← List.head?_reverse] at hb
  rw [← List.forall₂_reverse_iff] at h
  obtain ⟨rest, hrest⟩ := List.head?_eq_some_iff.1 hb
  rw [hrest] at h
  obtain ⟨a, before, hab, -, heq⟩ := List.forall₂_cons_right_iff.1 h
  exact ⟨a, by rw [← List.head?_reverse, heq]; rfl, hab⟩

end

theorem atWordBoundary_of_gap {after w tail : Text} (hafter : AtGap after) (hw : w.AllBlank)
    (htail : tail = [] ∨ tail.head? = some '*') : AtWordBoundary (after ++ (w ++ tail)) := by
  intro c hc
  cases after with
  | cons d after =>
      cases hc
      exact not_isWordCharacter_of_isBlank (atGap_cons.1 hafter)
  | nil =>
      cases w with
      | cons d w =>
          cases hc
          exact not_isWordCharacter_of_isBlank (Text.allBlank_cons.1 hw).1
      | nil =>
          rcases htail with rfl | htail
          · cases hc
          · rw [List.nil_append, List.nil_append, htail] at hc
            cases hc
            decide

theorem readable_of_reads {t : Text} {b : Block} (ht : IsNormal t) (h : Reads t b) :
    b.Readable := by
  cases h with
  | @intro before rest region tokens _ hcomment hnumber hchecksum hrow hspelled =>
      have hrest := hnumber.trimmed (hcomment.trimmed_trimEnd ht.trimmed)
      obtain ⟨w, tail, hsplit, hw, htail⟩ := hchecksum.exists_append hrest
      have hbefore := region_isInfix ht hcomment hnumber hchecksum
      refine ⟨fun g hg => ?_, fun hnone n hcommand => ?_, fun hnone n hlast => ?_, fun c hc => ?_⟩
      · obtain ⟨u, hu, hg⟩ := exists_rel_of_mem hspelled hg
        have hpart : u <:+: before := (hrow.isInfix hu).trans hbefore
        have hline := hpart.trans hcomment.isPrefix.isInfix
        exact hg.readable (fun c hc => ht.capital c (hline.subset hc)) (ht.loose.of_isInfix hline)
          fun hmem => hcomment.not_mem (hpart.subset hmem)
      · -- the command would have been cut off as the line number
        obtain ⟨first, tokens, hfirst, -, rfl⟩ := List.forall₂_cons_right_iff.1 hspelled
        rw [hcommand] at hfirst
        obtain ⟨after, rfl, hafter⟩ := hrow.eq_append_of_head
        obtain ⟨digits, hopens, -⟩ :=
          hfirst.opensWithNumber (atWordBoundary_of_gap hafter hw htail)
        rw [hnone] at hnumber
        cases hnumber with
        | absent hnot =>
            apply hnot digits (after ++ (w ++ tail))
            rw [hsplit, List.append_assoc, List.append_assoc]
            exact hopens
      · -- the last gcode would have been cut off as the checksum
        obtain ⟨u, hu, hlast⟩ := exists_rel_of_getLast? hspelled hlast
        obtain ⟨left, rfl⟩ := hrow.eq_append_of_last hu
        obtain ⟨digits, hends, -⟩ := hlast.endsWithChecksum left
        rw [hnone] at hchecksum
        cases hchecksum with
        | absent hnot => exact hnot left digits hends
      · rw [Option.mem_def.1 hc] at hcomment
        obtain ⟨hproper, hnormal⟩ := isNormal_of_commentCut ht hcomment
        exact (isNormal_comment_iff hproper).1 hnormal

end NCBlock.Block
