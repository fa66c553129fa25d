import NCBlock.Proofs.Gcode.Spelling
import NCBlock.Proofs.Line.Cuts

/-!
Gcodes that look like a section. The text of a line number and of a checksum is
also a spelling of a gcode. At the start or the end of a region no other gcode
can be taken for one, whatever stands next to it.
-/

namespace NCBlock.Gcode

open Line

theorem not_isDecimalDigit_letter (w : Word) : isDecimalDigit w.letter = false := by
  have hall : alphabet.all (!isDecimalDigit ·) = true := by decide
  simpa using List.all_eq_true.1 hall w.letter w.letter_mem

theorem spelled_lineNumber_iff {t : Text} {n : UInt32} :
    Spelled t (.lineNumber n) ↔ ∃ digits, t = 'N' :: digits ∧ Counts digits n := by
  constructor
  · intro h
    cases h with
    | count _ hdigits hvalue => exact ⟨_, rfl, hdigits, hvalue⟩
  · rintro ⟨digits, rfl, hdigits, hvalue⟩
    exact .count (w := .lineNumber) rfl hdigits hvalue

theorem spelled_checksum_iff {t : Text} {n : UInt32} :
    Spelled t (.checksum n) ↔ ∃ digits, t = '*' :: digits ∧ Counts digits n := by
  constructor
  · intro h
    cases h with
    | count _ hdigits hvalue => exact ⟨_, rfl, hdigits, hvalue⟩
  · rintro ⟨digits, rfl, hdigits, hvalue⟩
    exact .count (w := .checksum) rfl hdigits hvalue

/-! ### Spellings that are cut off -/

theorem Spelled.opensWithNumber {t after : Text} {n : UInt32} (h : Spelled t (.lineNumber n))
    (hafter : AtWordBoundary after) :
    ∃ digits, OpensWithNumber (t ++ after) digits after ∧ Counts digits n := by
  obtain ⟨digits, rfl, hcounts⟩ := spelled_lineNumber_iff.1 h
  exact ⟨digits, ⟨rfl, hcounts.ne_nil, hcounts.allDigits, hafter⟩, hcounts⟩

theorem Spelled.endsWithChecksum {t : Text} {n : UInt32} (h : Spelled t (.checksum n))
    (left : Text) : ∃ digits, EndsWithChecksum (left ++ t) left digits ∧ Counts digits n := by
  obtain ⟨digits, rfl, hcounts⟩ := spelled_checksum_iff.1 h
  exact ⟨digits, ⟨rfl, hcounts.ne_nil, hcounts.allDigits⟩, hcounts⟩

/-! ### Nothing else is cut off -/

/-- A reserved word with digits behind it is a count. -/
theorem Spelled.eq_count {c : Char} {digits : Text} {g : Gcode} (h : Spelled (c :: digits) g)
    (hc : c = 'N' ∨ c = '*') (hne : digits ≠ []) :
    ∃ w n, g = .addressed w (.uint32 n) ∧ w.letter = c := by
  obtain ⟨rest, heq, hliteral⟩ := h.ofText?_eq_some
  obtain ⟨rfl, rfl⟩ := List.cons.inj heq
  rcases Literal.ofText?_eq_some_iff.1 hliteral with
    ⟨hnil, -⟩ | ⟨-, n, -, heq⟩ | ⟨hfree, -⟩ | ⟨hfree, -⟩
  · exact absurd hnil hne
  · exact ⟨g.word, n, eq_of_literal_eq_uint32 heq, rfl⟩
  · exact absurd hc hfree
  · exact absurd hc hfree

theorem Spelled.eq_lineNumber {digits : Text} {g : Gcode} (h : Spelled ('N' :: digits) g)
    (hne : digits ≠ []) : ∃ n, g = .lineNumber n := by
  obtain ⟨⟨letter, hletter⟩, n, rfl, rfl⟩ := h.eq_count (.inl rfl) hne
  exact ⟨n, rfl⟩

theorem Spelled.eq_checksum {digits : Text} {g : Gcode} (h : Spelled ('*' :: digits) g)
    (hne : digits ≠ []) : ∃ n, g = .checksum n := by
  obtain ⟨⟨letter, hletter⟩, n, rfl, rfl⟩ := h.eq_count (.inr rfl) hne
  exact ⟨n, rfl⟩

/-- Only a line number looks like one at the start of a region. -/
theorem Spelled.eq_lineNumber_of_opens {t after digits rest : Text} {g : Gcode}
    (h : Spelled t g) (hafter : ∀ c ∈ after.head?, isDecimalDigit c = false)
    (hopens : OpensWithNumber (t ++ after) digits rest) : ∃ n, g = .lineNumber n := by
  obtain ⟨heq, hne, hall, -⟩ := hopens
  obtain ⟨literal, rfl⟩ := h.eq_cons
  obtain ⟨hletter, heq⟩ := List.cons.inj heq
  rw [hletter] at h
  refine h.eq_lineNumber ?_
  rintro rfl
  -- the digits would have to stand behind the token
  have heq : after = digits ++ rest := heq
  cases digits with
  | nil => exact hne rfl
  | cons d digits =>
      have hdigit := hall d List.mem_cons_self
      rw [hafter d (by rw [heq]; rfl)] at hdigit
      cases hdigit

/-- No literal ends in a star with digits behind it. -/
theorem ne_append_star_of_isLiteral {literal left digits : Text} (h : IsLiteral literal)
    (hne : digits ≠ []) (hall : AllDigits digits) : literal ≠ left ++ '*' :: digits := by
  intro heq
  cases h with
  | absent => simp at heq
  | @quoted inner _ =>
      -- the last character would be a quote and a digit
      obtain ⟨digits, d, rfl⟩ := (List.eq_nil_or_concat' digits).resolve_left hne
      have hlast := congrArg List.getLast? heq
      rw [← List.cons_append, List.getLast?_concat, ← List.cons_append, ← List.append_assoc,
        List.getLast?_concat] at hlast
      have hdigit := hall d (by simp)
      rw [← Option.some.inj hlast] at hdigit
      exact absurd hdigit (by decide)
  | number hnumber =>
      have hmem : '*' ∈ literal := by simp [heq]
      rcases hnumber.mem_cases hmem with heq | heq | heq | hdigit
      · cases heq
      · cases heq
      · cases heq
      · exact absurd hdigit (by decide)

/-- Only a checksum looks like one at the end of a region. -/
theorem Spelled.eq_checksum_of_ends {t left before digits : Text} {g : Gcode}
    (h : Spelled t g) (hends : EndsWithChecksum (left ++ t) before digits) :
    ∃ n, g = .checksum n := by
  obtain ⟨heq, hne, hall⟩ := hends
  obtain ⟨literal, rfl⟩ := h.eq_cons
  rcases List.append_eq_append_iff.1 heq with ⟨middle, -, heq⟩ | ⟨middle, -, heq⟩
  · -- the star stands in the token
    cases middle with
    | nil =>
        obtain ⟨hletter, rfl⟩ := List.cons.inj heq
        exact (hletter ▸ h).eq_checksum hne
    | cons c middle =>
        obtain ⟨-, heq⟩ := List.cons.inj heq
        cases h.isToken with
        | intro _ hliteral => exact absurd heq (ne_append_star_of_isLiteral hliteral hne hall)
  · -- the star stands before the token, which is then among the digits
    cases middle with
    | nil =>
        obtain ⟨hletter, rfl⟩ := List.cons.inj heq
        exact (hletter ▸ h).eq_checksum hne
    | cons c middle =>
        obtain ⟨-, rfl⟩ := List.cons.inj heq
        have hdigit := hall g.word.letter (by simp)
        rw [not_isDecimalDigit_letter] at hdigit
        cases hdigit

end NCBlock.Gcode
