import NCBlock.Proofs.Block.RoundTrip

/-!
Line numbers and checksums out of their place. In its place each of the two is
cut off. Anywhere else it is a token like the others and becomes a gcode of the
block, so the tokens between the cuts decide whether a block has such gcodes.
-/

namespace NCBlock

open Line

/-- The gcode is written like a line number or a checksum. -/
def Gcode.isCount : Gcode → Bool
  | .bare _ => false
  | .addressed w _ => w.isReserved

/-- A reserved letter with digits behind it. -/
def IsCountToken (t : Text) : Prop :=
  ∃ letter digits, t = letter :: digits ∧ (letter = 'N' ∨ letter = '*') ∧ digits ≠ [] ∧
    AllDigits digits

theorem Gcode.Spelled.isCount_iff {t : Text} {g : Gcode} (h : Spelled t g) :
    g.isCount = true ↔ IsCountToken t := by
  constructor
  · intro hcount
    cases h with
    | bare w => cases hcount
    | @count w digits n hreserved hdigits _ =>
        exact ⟨w.letter, digits, rfl, Word.isReserved_iff.1 hreserved,
          (Text.isNumeral_iff.1 hdigits).1, allDigits_of_isNumeral hdigits⟩
    | string _ hfree => simp [isCount, hfree] at hcount
    | float hfree _ => simp [isCount, hfree] at hcount
    | int hfree _ => simp [isCount, hfree] at hcount
  · rintro ⟨letter, digits, rfl, hletter, hne, -⟩
    obtain ⟨w, n, rfl, rfl⟩ := h.eq_count hletter hne
    exact Word.isReserved_iff.2 hletter

theorem Gcode.forall_not_isCount_iff {ts : List Text} {gs : List Gcode}
    (h : List.Forall₂ Spelled ts gs) :
    (∀ g ∈ gs, g.isCount = false) ↔ ∀ t ∈ ts, ¬IsCountToken t := by
  induction h with
  | nil => simp
  | cons hg _ ih =>
      rw [List.forall_mem_cons, List.forall_mem_cons, ih, ← hg.isCount_iff, Bool.not_eq_true]

namespace Line

/-- A token between the cuts of a normal line. -/
inductive InnerToken : Text → Text → Prop
  | intro {t before rest region token : Text} {comment : Option Text} {n k : Option UInt32}
      {tokens : List Text} : CommentCut t comment before → NumberCut (Text.trimEnd before) n rest →
      ChecksumCut rest k region → TokenRow tokens region → token ∈ tokens → InnerToken t token

/-- A normal line can be cut in one way only. -/
theorem innerToken_iff_mem {t before rest region token : Text} {comment : Option Text}
    {n k : Option UInt32} {ts : List Text} (ht : IsNormal t)
    (hcomment : CommentCut t comment before) (hnumber : NumberCut (Text.trimEnd before) n rest)
    (hchecksum : ChecksumCut rest k region) (hrow : TokenRow ts region) :
    InnerToken t token ↔ token ∈ ts := by
  constructor
  · intro h
    cases h with
    | intro hcomment' hnumber' hchecksum' hrow' hmem =>
        have hsections := (sections_eq_ok_iff (s := ⟨n, k, comment, region⟩) ht).2
          ⟨_, _, hcomment, hnumber, hchecksum⟩
        have hsections' := (sections_eq_ok_iff (s := ⟨_, _, _, _⟩) ht).2
          ⟨_, _, hcomment', hnumber', hchecksum'⟩
        rw [hsections] at hsections'
        cases hsections'
        have hregion := Block.trimmed_region ht hcomment hnumber hchecksum
        have htokens := (tokens_eq_ok_iff_of_trimmed hregion).2 hrow
        rw [(tokens_eq_ok_iff_of_trimmed hregion).2 hrow'] at htokens
        cases htokens
        exact hmem
  · exact .intro hcomment hnumber hchecksum hrow

end Line

namespace Block

theorem Reads.forall_not_isCount_iff {t : Text} {b : Block} (ht : IsNormal t) (h : Reads t b) :
    (∀ g ∈ b.gcodes, g.isCount = false) ↔ ∀ token, InnerToken t token → ¬IsCountToken token := by
  cases h with
  | intro hcomment hnumber hchecksum hrow hspelled =>
      simp only [innerToken_iff_mem ht hcomment hnumber hchecksum hrow]
      exact Gcode.forall_not_isCount_iff hspelled

/-- A parsed block has no line number and no checksum among its gcodes exactly
when its line has none between the cuts. Those that stand in their place are
always cut off. -/
theorem forall_not_isCount_iff_of_parse (line : Text) (b : Block) (h : parse line = .ok b) :
    ((∀ g ∈ b.gcodes, g.isCount = false) ↔
        ∀ token, InnerToken (normalize line) token → ¬IsCountToken token) ∧
      (b.lineNumber = none → ∀ n, b.command ≠ .lineNumber n) ∧
      (b.checksum = none → ∀ n, b.gcodes.getLast? ≠ some (.checksum n)) := by
  have hreadable := readable_of_parse h
  exact ⟨(reads_of_parse h).forall_not_isCount_iff (isNormal_normalize line), hreadable.command,
    hreadable.last⟩

theorem forall_not_isCount_iff_of_parse_in_place : ∃ b,
    parse "n3 t0*57 ;n6 *5".toList = .ok b ∧
      ∀ token, InnerToken (normalize "n3 t0*57 ;n6 *5".toList) token → ¬IsCountToken token := by
  have h : parse "n3 t0*57 ;n6 *5".toList =
      .ok ⟨some 3, .addressed ⟨'T', by decide⟩ (.int32 0), [], some 57,
        some ";N6 *5".toList⟩ := by decide +kernel
  exact ⟨_, h, (forall_not_isCount_iff_of_parse _ _ h).1.1 (by decide)⟩

/-- A checksum before another one is a parameter, and the block still verifies. -/
theorem parse_inner_checksum : ∃ b, parse "N3 T0 *1 *2".toList = .ok b ∧ b.verify = .ok true ∧
    ∃ g ∈ b.gcodes, g.isCount = true := by
  have h : parse "N3 T0 *1 *2".toList =
      .ok ⟨some 3, .addressed ⟨'T', by decide⟩ (.int32 0), [.checksum 1], some 2, none⟩ := by
    decide +kernel
  exact ⟨_, h, by decide +kernel, by decide⟩

end Block

end NCBlock
