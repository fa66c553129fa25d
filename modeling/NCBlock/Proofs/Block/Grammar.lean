import NCBlock.Block.Text
import NCBlock.Proofs.Gcode.Readable
import NCBlock.Proofs.Line.Cuts
import NCBlock.Proofs.Token.Row

/-!
The grammar of lines. A normal line reads as a block when the cuts take off its
outer sections, and what is left is a row of tokens that spell the gcodes of
the block. The parser accepts exactly these lines, and a line reads as one
block at most.
-/

namespace NCBlock.Block

open Line

/-- A text in normal form reads as a block: the comment is cut off first, then
the blanks before it, the line number and the checksum, and the tokens of what
is left spell the gcodes in order. -/
inductive Reads : Text → Block → Prop
  | intro {t before rest region : Text} {tokens : List Text} {b : Block} :
      CommentCut t b.comment before → NumberCut (Text.trimEnd before) b.lineNumber rest →
      ChecksumCut rest b.checksum region → TokenRow tokens region →
      List.Forall₂ Gcode.Spelled tokens (b.command :: b.parameters) → Reads t b

/-- The region that is left between the cuts of a normal line has solid ends. -/
theorem trimmed_region {t before rest region : Text} {n k : Option UInt32} {comment : Option Text}
    (ht : IsNormal t) (hcomment : CommentCut t comment before)
    (hnumber : NumberCut (Text.trimEnd before) n rest) (hchecksum : ChecksumCut rest k region) :
    region.Trimmed :=
  hchecksum.trimmed (hnumber.trimmed (hcomment.trimmed_trimEnd ht.trimmed))

theorem region_isInfix {t before rest region : Text} {n k : Option UInt32} {comment : Option Text}
    (ht : IsNormal t) (hcomment : CommentCut t comment before)
    (hnumber : NumberCut (Text.trimEnd before) n rest) (hchecksum : ChecksumCut rest k region) :
    region <:+: before := by
  have hrest := hnumber.trimmed (hcomment.trimmed_trimEnd ht.trimmed)
  obtain ⟨w, tail, hsplit, -⟩ := hchecksum.exists_append hrest
  obtain ⟨v, -, heq⟩ := Text.exists_trimEnd_append before
  have hregion : region <+: rest := ⟨w ++ tail, by rw [hsplit, List.append_assoc]⟩
  have htrim : Text.trimEnd before <+: before := ⟨v, heq⟩
  exact (hregion.isInfix.trans hnumber.isSuffix.isInfix).trans htrim.isInfix

/-- What the stages of the parser hand on when they all succeed. -/
theorem parse_eq_ok_iff_stages {line : Text} {b : Block} :
    parse line = .ok b ↔ ∃ region texts,
      sections (normalize line) = .ok ⟨b.lineNumber, b.checksum, b.comment, region⟩ ∧
      tokens region = .ok texts ∧
      (Dialect.stock.ofTokens texts ()).1 = .ok (b.command :: b.parameters) := by
  rw [parse, parseWith]
  constructor
  · intro h
    cases hsections : sections (normalize line) with
    | error e =>
        rw [hsections] at h
        cases h
    | ok parts =>
        rw [hsections] at h
        dsimp only at h
        cases htokens : tokens parts.region with
        | error e =>
            rw [htokens] at h
            cases h
        | ok texts =>
            rw [htokens] at h
            dsimp only at h
            split at h
            · cases h
            · cases h
            next command parameters s hmade =>
              cases h
              exact ⟨parts.region, texts, rfl, htokens, by rw [hmade]⟩
  · rintro ⟨region, texts, hsections, htokens, hmade⟩
    rw [hsections]
    dsimp only
    rw [htokens]
    dsimp only
    split
    next heq =>
      rw [heq] at hmade
      cases hmade
    next heq =>
      rw [heq] at hmade
      cases hmade
    next heq =>
      rw [heq] at hmade
      cases hmade
      rfl

theorem reads_of_parse {line : Text} {b : Block} (h : parse line = .ok b) :
    Reads (normalize line) b := by
  obtain ⟨region, texts, hsections, htokens, hmade⟩ := parse_eq_ok_iff_stages.1 h
  have hnormal := isNormal_normalize line
  obtain ⟨before, rest, hcomment, hnumber, hchecksum⟩ := (sections_eq_ok_iff hnormal).1 hsections
  have hregion := trimmed_region hnormal hcomment hnumber hchecksum
  exact .intro hcomment hnumber hchecksum ((tokens_eq_ok_iff_of_trimmed hregion).1 htokens)
    (Dialect.ofTokens_stock_eq_ok_iff.1 hmade)

theorem parse_of_reads {line : Text} {b : Block} (h : Reads (normalize line) b) :
    parse line = .ok b := by
  have hnormal := isNormal_normalize line
  cases h with
  | @intro before rest region texts _ hcomment hnumber hchecksum hrow hspelled =>
      have hregion := trimmed_region hnormal hcomment hnumber hchecksum
      refine parse_eq_ok_iff_stages.2 ⟨region, texts, ?_, ?_, ?_⟩
      · exact (sections_eq_ok_iff hnormal).2 ⟨before, rest, hcomment, hnumber, hchecksum⟩
      · exact (tokens_eq_ok_iff_of_trimmed hregion).2 hrow
      · exact Dialect.ofTokens_stock_eq_ok_iff.2 hspelled

/-- The parser reads a line as a block exactly when the grammar does. -/
theorem parse_eq_ok_iff_reads (line : Text) (b : Block) :
    parse line = .ok b ↔ Reads (normalize line) b :=
  ⟨reads_of_parse, parse_of_reads⟩

/-- The grammar is unambiguous. -/
theorem Reads.unique {t : Text} {b c : Block} (ht : IsNormal t) (hb : Reads t b)
    (hc : Reads t c) : b = c := by
  rw [← ht.normalize] at hb hc
  exact Except.ok.inj ((parse_of_reads hb).symm.trans (parse_of_reads hc))

end NCBlock.Block
