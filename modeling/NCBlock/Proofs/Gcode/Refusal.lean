import NCBlock.Proofs.Gcode.Spelling

/-!
Which token is made no gcode, and what is reported. Behind any word that is not
reserved, a number that does not fit its kind is reported as a token. A word
that does not exist is reported only where the literal behind it is no such
number, although it is checked before the form of the literal elsewhere.
-/

namespace NCBlock

/-- A number that has no value of its kind. -/
inductive Unfit : Text → Prop
  | script {t : Text} {c : Char} : IsNumber t → c ∈ t → isDecimalDigit c = true →
      c.isDigit = false → Unfit t
  | int {t : Text} {i : Int} : Text.IsInteger t i → i < -2 ^ 31 ∨ 2 ^ 31 ≤ i → Unfit t
  | float {t : Text} {d : Decimal} {v : Binary32} : d.IsPointed t → v.IsNearest d →
      v.isFinite = false → Unfit t

/-- A number that has no value of its kind, behind a first character of one byte. -/
inductive Misfit : Text → Prop
  | intro {c : Char} {l : Text} : c.toNat < 0x80 → Unfit l → Misfit (c :: l)

/-! ### Words -/

theorem head?_utf8_cons (c : Char) (t : Text) :
    (Text.utf8 (c :: t)).head? = some (Word.leadByte c) := by
  obtain ⟨byte, rest, hbytes⟩ := List.exists_cons_of_ne_nil (String.utf8EncodeChar_ne_nil (c := c))
  rw [Word.leadByte, hbytes, ← List.singleton_append, Text.utf8_append, Text.utf8,
    List.flatMap_singleton, hbytes]
  rfl

theorem leadByte_eq_toUInt8 {c : Char} (hc : c.toNat < 0x80) : Word.leadByte c = c.toUInt8 := by
  have hbyte (b : UInt8) : (Char.ofUInt8 b).toUInt8 = b := UInt8.toUInt8_toUInt32 b
  rw [← hbyte (Word.leadByte c), ofUInt8_leadByte hc]

theorem Word.not_mem_of_forall_ne {c : Char} (hc : c.toNat < 0x80)
    (h : ∀ w : Word, w.byte ≠ leadByte c) : c ∉ alphabet :=
  fun hmem => h ⟨c, hmem⟩ (leadByte_eq_toUInt8 hc).symm

theorem not_reserved_of_not_mem {c : Char} (h : c ∉ alphabet) : ¬(c = 'N' ∨ c = '*') := by
  rintro (rfl | rfl) <;> exact h (by decide)

theorem Word.byte_ne_of_all {byte : UInt8} (h : alphabet.all (·.toUInt8 != byte) = true)
    (w : Word) : w.byte ≠ byte :=
  bne_iff_ne.1 (List.all_eq_true.1 h w.letter w.letter_mem)

theorem Word.ofByte_leadByte_of_not_mem {c : Char} (hc : c.toNat < 0x80) (hword : c ∉ alphabet) :
    ofByte (leadByte c) = .error (.invalidWord (leadByte c)) := by
  rw [ofByte, ofUInt8_leadByte hc, dif_neg hword]

/-! ### Numbers -/

theorem Text.Signed.mem_of_isDecimalDigit {t body : Text} {negative : Bool}
    (h : Signed t negative body) {c : Char} (hc : c ∈ t) (hdigit : isDecimalDigit c = true) :
    c ∈ body := by
  rcases h.mem_cases hc with rfl | rfl | hmem
  · exact absurd hdigit (by decide)
  · exact absurd hdigit (by decide)
  · exact hmem

theorem Text.IsInteger.isDigit_of_mem {t : Text} {i : Int} (h : Text.IsInteger t i) {c : Char}
    (hc : c ∈ t) (hdigit : isDecimalDigit c = true) : c.isDigit = true := by
  obtain ⟨negative, digits, hsigned, hdigits, -⟩ := h
  exact (Text.isNumeral_iff.1 hdigits).2 c (hsigned.mem_of_isDecimalDigit hc hdigit)

theorem Decimal.IsPointed.isDigit_of_mem {t : Text} {d : Decimal} (h : d.IsPointed t) {c : Char}
    (hc : c ∈ t) (hdigit : isDecimalDigit c = true) : c.isDigit = true := by
  obtain ⟨whole, fraction, hsigned, hnumeral, -⟩ := h
  have hall := (Text.isNumeral_iff.1 hnumeral).2
  rcases List.mem_append.1 (hsigned.mem_of_isDecimalDigit hc hdigit) with hmem | hmem
  · exact hall c (List.mem_append_left _ hmem)
  · rcases List.mem_cons.1 hmem with rfl | hmem
    · exact absurd hdigit (by decide)
    · exact hall c (List.mem_append_right _ hmem)

/-- A number in ASCII digits is a whole number or one with a point. -/
theorem IsNumber.cases_of_isDigit {t : Text} (h : IsNumber t)
    (hdigit : ∀ c ∈ t, isDecimalDigit c = true → c.isDigit = true) :
    (∃ i, Text.IsInteger t i) ∨ ∃ d : Decimal, d.IsPointed t := by
  obtain ⟨negative, body, hsigned, hbody⟩ := h
  have hascii : ∀ c ∈ body, isDecimalDigit c = true → c.isDigit = true :=
    fun c hc => hdigit c (hsigned.mem hc)
  cases hbody with
  | whole hne hall =>
      have hnumeral : Text.isNumeral body = true :=
        Text.isNumeral_iff.2 ⟨hne, fun c hc => hascii c hc (hall c hc)⟩
      exact .inl ⟨_, negative, body, hsigned, hnumeral, rfl⟩
  | @pointed whole fraction hne hwhole hfraction =>
      have hnumeral : Text.isNumeral (whole ++ fraction) = true := by
        refine Text.isNumeral_iff.2 ⟨hne, fun c hc => ?_⟩
        rcases List.mem_append.1 hc with hc | hc
        · exact hascii c (by simp [hc]) (hwhole c hc)
        · exact hascii c (by simp [hc]) (hfraction c hc)
      exact .inr ⟨⟨negative, _, _⟩, whole, fraction, hsigned, hnumeral, rfl, rfl⟩

theorem Unfit.isNumber {t : Text} (h : Unfit t) : IsNumber t := by
  cases h with
  | script hnumber => exact hnumber
  | int hi => exact isNumber_of_isInteger hi
  | float hd => exact isNumber_of_isPointed hd

theorem Unfit.ofNumber?_eq_none {t : Text} (h : Unfit t) : Literal.ofNumber? t = none := by
  refine Option.eq_none_iff_forall_ne_some.2 fun literal hsome => ?_
  rcases Literal.ofNumber?_eq_some_iff.1 hsome with ⟨v, hv, -⟩ | ⟨hpoint, i, hi, -⟩
  · obtain ⟨hfinite, d, hd, hvalue⟩ := hv
    cases h with
    | script _ hc hdigit hother => exact absurd (hd.isDigit_of_mem hc hdigit) (by simp [hother])
    | int hi => exact not_mem_of_isInteger hi (Decimal.ofText?_eq_some_iff.2 hd).2
    | @float e w he hnearest hinfinite =>
        rw [hd.unique he] at hvalue
        rw [hvalue.unique hnearest, hinfinite] at hfinite
        cases hfinite
  · cases h with
    | script _ hc hdigit hother => exact absurd (hi.isDigit_of_mem hc hdigit) (by simp [hother])
    | @int j hj hrange =>
        have heq := (Text.toInt?_eq_some_iff.2 hi).symm.trans (Text.toInt?_eq_some_iff.2 hj)
        have hlow := i.le_toInt
        have hhigh := i.toInt_lt
        rw [Option.some.inj heq] at hlow hhigh
        omega
    | float hd => exact hpoint (Decimal.ofText?_eq_some_iff.2 hd).2

theorem unfit_of_ofNumber?_eq_none {t : Text} (ht : IsNumber t)
    (h : Literal.ofNumber? t = none) : Unfit t := by
  have hnone (literal : Literal) : Literal.ofNumber? t ≠ some literal := by simp [h]
  by_cases hdigit : ∀ c ∈ t, isDecimalDigit c = true → c.isDigit = true
  · rcases ht.cases_of_isDigit hdigit with ⟨i, hi⟩ | ⟨d, hd⟩
    · refine .int hi ?_
      by_contra hrange
      have hvalue : (Int32.ofInt i).toInt = i := Int32.toInt_ofInt_of_le (by omega) (by omega)
      exact hnone _ (Literal.ofNumber?_eq_some_iff.2
        (.inr ⟨not_mem_of_isInteger hi, .ofInt i, hvalue.symm ▸ hi, rfl⟩))
    · have hnearest := Binary32.isNearest_ofDecimal d
      refine .float hd hnearest (Bool.eq_false_iff.2 fun hfinite => ?_)
      exact hnone _ (Literal.ofNumber?_eq_some_iff.2 (.inl ⟨_, ⟨hfinite, d, hd, hnearest⟩, rfl⟩))
  · simp only [not_forall] at hdigit
    obtain ⟨c, hc, hdecimal, hother⟩ := hdigit
    exact .script ht hc hdecimal (Bool.eq_false_iff.2 hother)

theorem Literal.ofText?_of_isNumber {c : Char} {t : Text} (hc : ¬(c = 'N' ∨ c = '*'))
    (ht : IsNumber t) : ofText? c t = ofNumber? t := by
  rw [ofText?, if_neg ht.ne_nil, if_neg hc, if_neg ht.not_mem_quote, if_pos (isNumber_iff.2 ht)]

/-! ### Tokens -/

namespace Gcode

variable {c : Char} {l : Text}

/-- Whether the word exists is not asked. -/
theorem ofToken_of_unfit (hc : c.toNat < 0x80) (hfree : ¬(c = 'N' ∨ c = '*')) (hl : Unfit l) :
    ofToken (c :: l) = .error (.unrecognizedToken (c :: l)) := by
  have hliteral : Literal.ofText? c l = none :=
    (Literal.ofText?_of_isNumber hfree hl.isNumber).trans hl.ofNumber?_eq_none
  have hread : Reading.ofToken (c :: l) = .error (.unrecognizedToken (c :: l)) := by
    simp only [Reading.ofToken, if_neg (Nat.not_le.2 hc), hliteral, isNumber_iff.2 hl.isNumber,
      if_true]
    split <;> rfl
  rw [ofToken, hread]

theorem ofToken_of_not_mem (hc : c.toNat < 0x80) (hword : c ∉ alphabet) (hl : ¬Unfit l) :
    ofToken (c :: l) = .error (.invalidWord (Word.leadByte c)) := by
  have hbyte := Word.ofByte_leadByte_of_not_mem hc hword
  rw [ofToken, Reading.ofToken, if_neg (Nat.not_le.2 hc)]
  cases hliteral : Literal.ofText? c l with
  | some literal => simp only [ofReading, hbyte]
  | none =>
      have hnumber : isNumber l = false := by
        refine Bool.eq_false_iff.2 fun hnumber => hl ?_
        rw [isNumber_iff] at hnumber
        rw [Literal.ofText?_of_isNumber (not_reserved_of_not_mem hword) hnumber] at hliteral
        exact unfit_of_ofNumber?_eq_none hnumber hliteral
      simp [hbyte, hnumber]

/-- A first byte that is no word is reported, but a number that does not fit
goes before it. -/
theorem ofToken_of_unknown_word (t : Text) (byte : UInt8) (hfirst : t.utf8.head? = some byte)
    (hword : ∀ w : Word, w.byte ≠ byte) :
    (ofToken t = .error (.invalidWord byte) ↔ ¬Misfit t) ∧
      (ofToken t = .error (.unrecognizedToken t) ↔ Misfit t) := by
  cases t with
  | nil => cases hfirst
  | cons c l =>
      rw [head?_utf8_cons, Option.some.injEq] at hfirst
      subst hfirst
      by_cases hmisfit : Misfit (c :: l)
      · have hresult : ofToken (c :: l) = .error (.unrecognizedToken (c :: l)) := by
          cases hmisfit with
          | intro hc hl =>
              have hunknown := Word.not_mem_of_forall_ne hc hword
              exact ofToken_of_unfit hc (not_reserved_of_not_mem hunknown) hl
        simp [hresult, hmisfit]
      · have hresult : ofToken (c :: l) = .error (.invalidWord (Word.leadByte c)) := by
          by_cases hc : c.toNat < 0x80
          · exact ofToken_of_not_mem hc (Word.not_mem_of_forall_ne hc hword)
              fun hl => hmisfit (.intro hc hl)
          · rw [ofToken, Reading.ofToken, if_pos (Nat.not_lt.1 hc)]
        simp [hresult, hmisfit]

/-- The greatest integer still fits, so the word is reported. -/
theorem ofToken_of_unknown_word_greatest :
    ofToken "K2147483647".toList = .error (.invalidWord 75) ∧ ¬Misfit "K2147483647".toList := by
  have hresult : ofToken "K2147483647".toList = .error (.invalidWord 75) := by decide +kernel
  exact ⟨hresult, (ofToken_of_unknown_word _ 75 (by decide)
    (Word.byte_ne_of_all (by decide))).1.1 hresult⟩

/-- An integer that does not fit hides the word. -/
theorem ofToken_unknown_word_out_of_range :
    (Text.utf8 "K99999999999".toList).head? = some 75 ∧ (∀ w : Word, w.byte ≠ 75) ∧
      ofToken "K99999999999".toList = .error (.unrecognizedToken "K99999999999".toList) :=
  ⟨by decide, Word.byte_ne_of_all (by decide), by decide +kernel⟩

end Gcode

end NCBlock
