import Mathlib.Data.List.Basic
import NCBlock.Proofs.Number.Numeral

/-!
Numbers told apart by their texts. Two numbers of one kind with the same text
are the same number, in whichever of the two notations a float is written, and
the characters of a number end where anything else begins.
-/

namespace NCBlock

/-! ### The characters of a number -/

/-- Digits, signs, points and the letter of an exponent. -/
def isNumeric (c : Char) : Bool := c.isDigit || "+-.e".toList.contains c

theorem isNumeric_of_isDigit {c : Char} (h : c.isDigit = true) : isNumeric c = true := by
  simp [isNumeric, h]

namespace Text

/-- At least one character of a number and nothing else. -/
def IsNumeric (t : Text) : Prop := t ≠ [] ∧ ∀ c ∈ t, isNumeric c = true

theorem isNumeric_of_isNumeral {t : Text} (h : isNumeral t = true) : IsNumeric t := by
  obtain ⟨hne, hdigits⟩ := isNumeral_iff.1 h
  exact ⟨hne, fun c hc => isNumeric_of_isDigit (hdigits c hc)⟩

theorem Signed.isNumeric {t body : Text} {negative : Bool} (h : Signed t negative body)
    (hbody : IsNumeric body) : IsNumeric t := by
  cases h with
  | unsigned => exact hbody
  | plus => exact ⟨List.cons_ne_nil _ _, List.forall_mem_cons.2 ⟨rfl, hbody.2⟩⟩
  | minus => exact ⟨List.cons_ne_nil _ _, List.forall_mem_cons.2 ⟨rfl, hbody.2⟩⟩

/-- What can stand behind a number. -/
def NumberEnds (t : Text) : Prop := ∀ c ∈ t.head?, isNumeric c = false

theorem takeWhile_isNumeric {t rest : Text} (ht : IsNumeric t) (hrest : NumberEnds rest) :
    (t ++ rest).takeWhile isNumeric = t := by
  rw [List.takeWhile_append_of_pos ht.2]
  cases rest with
  | nil => rw [List.takeWhile_nil, List.append_nil]
  | cons c rest =>
      have hc : isNumeric c = false := hrest c rfl
      rw [List.takeWhile_cons_of_neg (by simp [hc]), List.append_nil]

theorem IsNumeric.append_inj {t u r s : Text} (ht : IsNumeric t) (hu : IsNumeric u)
    (hr : NumberEnds r) (hs : NumberEnds s) (h : t ++ r = u ++ s) : t = u ∧ r = s := by
  have heq : t = u := by
    rw [← takeWhile_isNumeric ht hr, h, takeWhile_isNumeric hu hs]
  subst heq
  exact ⟨rfl, List.append_cancel_left h⟩

/-! ### Whole numbers -/

theorem ofNat_inj {m n : Nat} (h : ofNat m = ofNat n) : m = n := by
  rw [← numeralValue_ofNat m, h, numeralValue_ofNat]

theorem isNumeric_ofNat (n : Nat) : IsNumeric (ofNat n) :=
  isNumeric_of_isNumeral (isNumeral_ofNat n)

theorem ofInt_inj {i j : Int} (h : ofInt i = ofInt j) : i = j := by
  have hi := toInt?_eq_some_iff.2 (isInteger_ofInt i)
  rw [h, toInt?_eq_some_iff.2 (isInteger_ofInt j)] at hi
  exact (Option.some.inj hi).symm

theorem isNumeric_ofInt (i : Int) : IsNumeric (ofInt i) := by
  obtain ⟨negative, digits, hsigned, hdigits, -⟩ := isInteger_ofInt i
  exact hsigned.isNumeric (isNumeric_of_isNumeral hdigits)

end Text

namespace Decimal

/-! ### Digits around a point -/

theorem IsPointed.isNumeric {t : Text} {d : Decimal} (h : IsPointed t d) : t.IsNumeric := by
  obtain ⟨whole, fraction, hsigned, hnumeral, -⟩ := h
  have hdigits := (Text.isNumeric_of_isNumeral hnumeral).2
  refine hsigned.isNumeric ⟨by simp, fun c hc => ?_⟩
  rcases List.mem_append.1 hc with hc | hc
  · exact hdigits c (List.mem_append_left _ hc)
  · rcases List.mem_cons.1 hc with rfl | hc
    · rfl
    · exact hdigits c (List.mem_append_right _ hc)

theorem IsPointed.not_mem {t : Text} {d : Decimal} (h : IsPointed t d) : 'e' ∉ t := by
  obtain ⟨whole, fraction, hsigned, hnumeral, -⟩ := h
  have hdigits := (Text.isNumeral_iff.1 hnumeral).2
  have hpart {part : Text} (hpart : part ⊆ whole ++ fraction) : 'e' ∉ part :=
    fun hmem => absurd (hdigits _ (hpart hmem)) (by decide)
  intro hmem
  rcases hsigned.mem_cases hmem with hmem | hmem | hmem
  · cases hmem
  · cases hmem
  · rcases List.mem_append.1 hmem with hmem | hmem
    · exact hpart (List.subset_append_left _ _) hmem
    · rcases List.mem_cons.1 hmem with hmem | hmem
      · cases hmem
      · exact hpart (List.subset_append_right _ _) hmem

/-- A positional text tells the value and not the decimal, as it can end in zeros. -/
theorem ofDecimal_eq_of_positional {d e : Decimal} (h : d.positional = e.positional) :
    Binary32.ofDecimal d = Binary32.ofDecimal e := by
  obtain ⟨d', hd, hvalue⟩ := isPointed_positional d
  obtain ⟨e', he, hvalue'⟩ := isPointed_positional e
  rw [← h] at he
  rw [← hvalue, ← hvalue', hd.unique he]

/-! ### Digits before an exponent -/

/-- Puts a point behind the first digit if others follow it. -/
def pointed : Text → Text
  | [] => []
  | [c] => [c]
  | c :: rest => c :: '.' :: rest

theorem scientific_eq (d : Decimal) : d.scientific = signed d.negative
    (pointed (Text.ofNat d.digits) ++ 'e' :: (if d.order < 0 then '-' else '+') ::
      Text.ofNat d.order.natAbs) := by
  unfold scientific pointed
  rfl

theorem filter_pointed {t : Text} (ht : ∀ c ∈ t, c.isDigit = true) :
    (pointed t).filter Char.isDigit = t := by
  have hpoint : Char.isDigit '.' = false := rfl
  have hfilter : t.filter Char.isDigit = t := List.filter_eq_self.2 ht
  match t with
  | [] => rfl
  | [c] => exact hfilter
  | c :: d :: rest =>
      have hc : c.isDigit = true := ht c List.mem_cons_self
      rw [List.filter_cons_of_pos hc, List.cons.injEq] at hfilter
      rw [pointed, List.filter_cons_of_pos hc, List.filter_cons_of_neg (by simp [hpoint]),
        hfilter.2]
      simp

theorem mem_pointed {t : Text} {c : Char} (h : c ∈ pointed t) : c = '.' ∨ c ∈ t := by
  match t, h with
  | [_], h => exact .inr h
  | _ :: _ :: _, h => simp_all [pointed, or_left_comm]

theorem head?_pointed (t : Text) : (pointed t).head? = t.head? := by
  match t with
  | [] => rfl
  | [_] => rfl
  | _ :: _ :: _ => rfl

theorem not_mem_ofNat (n : Nat) : 'e' ∉ Text.ofNat n :=
  fun hmem => absurd ((Text.isNumeral_iff.1 (Text.isNumeral_ofNat n)).2 _ hmem) (by decide)

theorem not_mem_pointed (n : Nat) : 'e' ∉ pointed (Text.ofNat n) := by
  intro hmem
  rcases mem_pointed hmem with hmem | hmem
  · cases hmem
  · exact not_mem_ofNat n hmem

theorem not_mem_exponent (d : Decimal) :
    'e' ∉ (if d.order < 0 then '-' else '+') :: Text.ofNat d.order.natAbs := by
  intro hmem
  rcases List.mem_cons.1 hmem with hmem | hmem
  · split at hmem <;> cases hmem
  · exact not_mem_ofNat _ hmem

theorem isNumeric_pointed (n : Nat) : (pointed (Text.ofNat n)).IsNumeric := by
  obtain ⟨hne, hdigits⟩ := Text.isNumeric_ofNat n
  refine ⟨fun hnil => hne ?_, fun c hc => ?_⟩
  · rw [← List.head?_eq_none_iff, ← head?_pointed, hnil, List.head?_nil]
  · rcases mem_pointed hc with rfl | hc
    · rfl
    · exact hdigits c hc

theorem signFree_pointed_ofNat (n : Nat) (rest : Text) :
    Text.SignFree (pointed (Text.ofNat n) ++ rest) := by
  obtain ⟨hne, hdigits⟩ := Text.isNumeral_iff.1 (Text.isNumeral_ofNat n)
  obtain ⟨c, digits, heq⟩ := List.exists_cons_of_ne_nil hne
  have hhead : (pointed (Text.ofNat n) ++ rest).head? = some c := by
    rw [List.head?_append, head?_pointed, heq]
    rfl
  intro d hd
  rw [hhead] at hd
  exact Text.signFree_of_isDigit (hdigits c (heq ▸ List.mem_cons_self)) [] d hd

theorem isNumeric_scientific (d : Decimal) : d.scientific.IsNumeric := by
  rw [scientific_eq]
  refine signed_signed.isNumeric ⟨by simp, fun c hc => ?_⟩
  rcases List.mem_append.1 hc with hc | hc
  · exact (isNumeric_pointed d.digits).2 c hc
  · rcases List.mem_cons.1 hc with rfl | hc
    · rfl
    · rcases List.mem_cons.1 hc with rfl | hc
      · split <;> rfl
      · exact (Text.isNumeric_ofNat _).2 c hc

theorem mem_scientific (d : Decimal) : 'e' ∈ d.scientific := by
  rw [scientific_eq]
  exact signed_signed.mem (by simp)

theorem splitSign_scientific (d : Decimal) : Text.splitSign d.scientific =
    (d.negative, pointed (Text.ofNat d.digits) ++ 'e' :: (if d.order < 0 then '-' else '+') ::
      Text.ofNat d.order.natAbs) := by
  rw [scientific_eq]
  exact signed_signed.splitSign_eq (signFree_pointed_ofNat _ _)

/-- A scientific text tells the decimal. -/
theorem scientific_inj {d e : Decimal} (h : d.scientific = e.scientific) : d = e := by
  have hparts := splitSign_scientific d
  rw [h, splitSign_scientific e, Prod.mk.injEq] at hparts
  obtain ⟨hnegative, hbody⟩ := hparts
  obtain ⟨hmantissa, -, hexponent⟩ := (List.append_cons_inj_of_notMem (not_mem_pointed _)
    (not_mem_exponent e)).1 hbody
  obtain ⟨hsign, hsize⟩ := List.cons.inj hexponent
  have hdigits : d.digits = e.digits := by
    have hfilter (n : Nat) := filter_pointed (Text.isNumeral_iff.1 (Text.isNumeral_ofNat n)).2
    refine Text.ofNat_inj ?_
    rw [← hfilter, ← hmantissa, hfilter]
  have horder : d.order = e.order := by
    have hnat := Text.ofNat_inj hsize
    split at hsign <;> split at hsign <;> first | omega | cases hsign
  have hexponent : d.exponent = e.exponent := by
    simp only [order, hdigits] at horder
    omega
  cases d
  cases e
  simp_all

theorem isNumeric_positional (d : Decimal) : d.positional.IsNumeric := by
  obtain ⟨e, he, -⟩ := isPointed_positional d
  exact he.isNumeric

theorem positional_ne_scientific (d e : Decimal) : d.positional ≠ e.scientific := by
  obtain ⟨d', hd, -⟩ := isPointed_positional d
  intro h
  exact hd.not_mem (h ▸ mem_scientific e)

end Decimal

/-! ### Floats -/

namespace Binary32

theorem write_cases (format : FloatFormat) (v : Binary32) :
    v.write format = (v.shortest format.tie).positional ∨
      v.write format = (v.shortest format.tie).scientific := by
  simp only [write]
  split
  · exact .inr rfl
  · exact .inl rfl

theorem isNumeric_write (format : FloatFormat) (v : Binary32) : (v.write format).IsNumeric := by
  rcases v.write_cases format with h | h
  · rw [h]
    exact Decimal.isNumeric_positional _
  · rw [h]
    exact Decimal.isNumeric_scientific _

/-- The text of a finite float tells its pattern, and so the sign of a zero as well. -/
theorem write_inj {format : FloatFormat} {v w : Binary32} (hv : v.isFinite = true)
    (hw : w.isFinite = true) (h : v.write format = w.write format) : v = w := by
  have hvalue : ofDecimal (v.shortest format.tie) = ofDecimal (w.shortest format.tie) := by
    rcases v.write_cases format with hleft | hleft <;>
      rcases w.write_cases format with hright | hright <;> rw [hleft, hright] at h
    · exact Decimal.ofDecimal_eq_of_positional h
    · exact absurd h (Decimal.positional_ne_scientific _ _)
    · exact absurd h.symm (Decimal.positional_ne_scientific _ _)
    · rw [Decimal.scientific_inj h]
  rwa [ofDecimal_shortest _ hv, ofDecimal_shortest _ hw] at hvalue

end Binary32

end NCBlock
