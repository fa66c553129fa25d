import NCBlock.Proofs.Block.Calls
import NCBlock.Proofs.Block.RoundTrip
import NCBlock.Proofs.Document.Validation

/-!
Parsed blocks under the checks of a construction. A construction refuses a
block for its comment or for its checksum. What a line reads as has a proper
comment, so only the checksum is left to fail, and where it does a validation
of the line reports the same fault in the same words.
-/

namespace NCBlock

open Document

namespace Block

variable {b : Block} {stored : UInt32}

theorem hasRightChecksum_or (b : Block) :
    b.HasRightChecksum ∨ ∃ stored, b.checksum = some stored ∧ stored ≠ b.computedChecksum := by
  rcases b.checksum_cases with hnone | hright | hwrong
  · exact .inl fun stored hstored => absurd (hnone.symm.trans hstored) (Option.some_ne_none _).symm
  · exact .inl fun stored hstored => (Option.some.inj (hright.symm.trans hstored)).symm
  · exact .inr hwrong

/-! ### Construction -/

theorem HasProperComment.filter_eq_none (h : b.HasProperComment) :
    b.comment.filter (!isComment ·) = none :=
  Option.filter_eq_none_iff.2 fun t ht => by simp [h t ht]

theorem HasProperComment.validated_of_right (h : b.HasProperComment)
    (hright : b.HasRightChecksum) : b.validated = .ok b := by
  have hchecksum : b.checksum.filter (· ≠ b.computedChecksum) = none := by
    refine Option.filter_eq_none_iff.2 fun stored hstored => ?_
    have heq : stored = b.computedChecksum := hright stored hstored
    simp [heq]
  rw [validated, h.filter_eq_none, hchecksum]

theorem HasProperComment.validated_of_wrong (h : b.HasProperComment)
    (hstored : b.checksum = some stored) (hne : stored ≠ b.computedChecksum) :
    b.validated = .error (.checksumMismatch stored b.computedChecksum) := by
  have hchecksum : b.checksum.filter (· ≠ b.computedChecksum) = some stored := by
    simp [hstored, Option.filter, hne]
  rw [validated, h.filter_eq_none, hchecksum]

/-! ### Validation -/

theorem not_error_of_right (hright : b.HasRightChecksum) (requireChecksum : Bool) (number : Nat) :
    ∀ x ∈ b.diagnostics requireChecksum number, x.severity ≠ .error := by
  intro x hx
  rcases b.checksum_cases with hnone | hstored | ⟨stored, hstored, hne⟩
  · rw [diagnostics_of_none hnone] at hx
    cases requireChecksum with
    | true =>
        rw [List.mem_singleton.1 hx]
        exact Severity.noConfusion
    | false => cases hx
  · rw [diagnostics_of_right hstored] at hx
    cases hx
  · exact absurd (hright stored hstored) hne

/-- A parsed block never fails in its construction for its comment. It fails for
its checksum if one is stored that does not verify, and then a validation of the
line has one error, with the message of this failure. -/
theorem validated_of_parse (line : Text) (b : Block) (h : parse line = .ok b) :
    (∀ comment, b.validated ≠ .error (.invalidComment comment)) ∧
      (b.checksum = none ∨ b.verify = .ok true → b.validated = .ok b) ∧
      (∀ stored, b.checksum = some stored → b.verify ≠ .ok true →
        b.validated = .error (.checksumMismatch stored (xorSum b.line.utf8).toUInt32)) ∧
      ∀ requireChecksum number,
        (validateLine requireChecksum number line).diagnostics.filter (·.severity = .error) =
          match b.validated with
          | .ok _ => []
          | .error e => [⟨number, e.message, .error⟩] := by
  have hcomment := hasProperComment_of_parse h
  rcases b.hasRightChecksum_or with hright | ⟨stored, hstored, hne⟩
  · rw [hcomment.validated_of_right hright]
    refine ⟨fun comment => nofun, fun _ => rfl, fun stored hstored hverify => ?_, fun _ _ => ?_⟩
    · exact absurd ((verify_eq_true_iff hstored).2 (hright stored hstored)) hverify
    · rw [validateLine_of_ok h]
      exact List.filter_eq_nil_iff.2 fun x hx => by simpa using not_error_of_right hright _ _ x hx
  · rw [hcomment.validated_of_wrong hstored hne]
    refine ⟨fun comment => nofun, fun hgood => ?_, fun stored' hstored' _ => ?_, fun _ _ => ?_⟩
    · rw [hstored, verify_eq_true_iff hstored] at hgood
      simp [hne] at hgood
    · rw [hstored] at hstored'
      cases hstored'
      rfl
    · rw [validateLine_of_ok h, diagnostics_of_wrong hstored hne]
      rfl

/-- The checksum has more than one byte, and the tab in the comment is read as a space. -/
theorem validated_of_parse_wide_checksum : ∃ b,
    parse "n3 t0*313 ;a\tb".toList = .ok b ∧ b.verify ≠ .ok true ∧
      b.validated = .error (.checksumMismatch 313 57) ∧
      (validateLine true 4 "n3 t0*313 ;a\tb".toList).diagnostics.filter (·.severity = .error) =
        [⟨4, "checksum mismatch: stored *313, computed *57".toList, .error⟩] := by
  have h : parse "n3 t0*313 ;a\tb".toList =
      .ok ⟨some 3, .addressed ⟨'T', by decide⟩ (.int32 0), [], some 313, some ";A B".toList⟩ := by
    decide +kernel
  have hverify : verify ⟨some 3, .addressed ⟨'T', by decide⟩ (.int32 0), [], some 313,
      some ";A B".toList⟩ ≠ .ok true := by decide +kernel
  obtain ⟨-, -, hwrong, hreport⟩ := validated_of_parse _ _ h
  have hvalidated := hwrong 313 rfl hverify
  refine ⟨_, h, hverify, hvalidated, ?_⟩
  rw [hreport true 4, hvalidated]
  rfl

end Block

end NCBlock
