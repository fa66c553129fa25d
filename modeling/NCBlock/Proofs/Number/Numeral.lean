import NCBlock.Address.Basic
import NCBlock.Proofs.Number.Nearest
import NCBlock.Token.Reading

/-!
Numbers in text. A literal is an optional sign with ASCII digits behind it, and
a float has one point among or beside them and is the nearest value to what the
digits say. Integers and finite floats are written as such literals, and a
literal is read as the value it was written for.
-/

namespace NCBlock

namespace Text

/-- A text with an optional sign split off; the flag tells a minus. -/
inductive Signed : Text → Bool → Text → Prop
  | unsigned (t : Text) : Signed t false t
  | plus (t : Text) : Signed ('+' :: t) false t
  | minus (t : Text) : Signed ('-' :: t) true t

theorem signed_splitSign (t : Text) : Signed t (splitSign t).1 (splitSign t).2 := by
  unfold splitSign
  split
  · exact .minus _
  · exact .plus _
  · exact .unsigned _

def SignFree (t : Text) : Prop := ∀ c ∈ t.head?, c ≠ '+' ∧ c ≠ '-'

theorem Signed.splitSign_eq {t body : Text} {negative : Bool} (h : Signed t negative body)
    (hbody : SignFree body) : splitSign t = (negative, body) := by
  cases h with
  | unsigned =>
      unfold splitSign
      split
      next => exact absurd rfl (hbody '-' rfl).2
      next => exact absurd rfl (hbody '+' rfl).1
      next => rfl
  | plus => rfl
  | minus => rfl

theorem signFree_of_isDigit {c : Char} (hc : c.isDigit = true) (t : Text) :
    SignFree (c :: t) := by
  intro d hd
  cases hd
  constructor <;> rintro rfl <;> cases hc

theorem isNumeral_iff {t : Text} :
    isNumeral t = true ↔ t ≠ [] ∧ ∀ c ∈ t, c.isDigit = true := by
  simp [isNumeral]

theorem signFree_of_isNumeral {t : Text} (h : isNumeral t = true) : SignFree t := by
  obtain ⟨hne, hdigits⟩ := isNumeral_iff.1 h
  cases t with
  | nil => exact absurd rfl hne
  | cons c t => exact signFree_of_isDigit (hdigits c List.mem_cons_self) t

theorem Signed.mem_cases {t body : Text} {negative : Bool} (h : Signed t negative body)
    {c : Char} (hc : c ∈ t) : c = '+' ∨ c = '-' ∨ c ∈ body := by
  cases h with
  | unsigned => exact .inr (.inr hc)
  | plus => exact (List.mem_cons.1 hc).imp_right .inr
  | minus => exact .inr (List.mem_cons.1 hc)

theorem Signed.mem {t body : Text} {negative : Bool} (h : Signed t negative body)
    {c : Char} (hc : c ∈ body) : c ∈ t := by
  cases h with
  | unsigned => exact hc
  | plus => exact List.mem_cons_of_mem _ hc
  | minus => exact List.mem_cons_of_mem _ hc

/-! ### Whole numbers -/

theorem numeralValue_append (t u : Text) :
    numeralValue (t ++ u) = 10 ^ u.length * numeralValue t + numeralValue u := by
  rw [numeralValue, Nat.ofDigitChars_append, Nat.ofDigitChars_eq_ofDigitChars_zero]
  rfl

theorem toUInt32?_eq_some_iff {t : Text} {n : UInt32} :
    toUInt32? t = some n ↔ isNumeral t = true ∧ numeralValue t = n.toNat := by
  simp only [toUInt32?, Option.ite_none_right_eq_some, Option.some.injEq]
  constructor
  · rintro ⟨⟨hnumeral, hfits⟩, rfl⟩
    exact ⟨hnumeral, (UInt32.toNat_ofNat_of_lt' hfits).symm⟩
  · rintro ⟨hnumeral, hvalue⟩
    exact ⟨⟨hnumeral, hvalue ▸ n.toNat_lt⟩, by rw [hvalue, UInt32.ofNat_toNat]⟩

/-- The whole number that a literal stands for. -/
def IsInteger (t : Text) (i : Int) : Prop :=
  ∃ negative digits, Signed t negative digits ∧ isNumeral digits = true ∧
    i = if negative then -(numeralValue digits : Int) else numeralValue digits

theorem toInt?_eq_some_iff {t : Text} {i : Int} : toInt? t = some i ↔ IsInteger t i := by
  simp only [toInt?, Option.ite_none_right_eq_some, Option.some.injEq]
  constructor
  · rintro ⟨hdigits, rfl⟩
    exact ⟨_, _, signed_splitSign t, hdigits, rfl⟩
  · rintro ⟨negative, digits, hsigned, hdigits, rfl⟩
    rw [hsigned.splitSign_eq (signFree_of_isNumeral hdigits)]
    exact ⟨hdigits, rfl⟩

theorem toInt32?_eq_some_iff {t : Text} {i : Int32} :
    toInt32? t = some i ↔ IsInteger t i.toInt := by
  rw [← toInt?_eq_some_iff, toInt32?]
  cases htext : toInt? t with
  | none => simp
  | some j =>
      simp only [Option.ite_none_right_eq_some, Option.some.injEq]
      constructor
      · rintro ⟨⟨hlow, hhigh⟩, rfl⟩
        exact (Int32.toInt_ofInt_of_le hlow hhigh).symm
      · rintro rfl
        exact ⟨⟨i.le_toInt, i.toInt_lt⟩, i.ofInt_toInt⟩

theorem isInteger_ofInt (i : Int) : IsInteger (ofInt i) i := by
  rw [ofInt]
  split
  next h =>
    refine ⟨true, _, .minus _, isNumeral_ofNat _, ?_⟩
    rw [numeralValue_ofNat, if_pos rfl]
    omega
  next h =>
    refine ⟨false, _, .unsigned _, isNumeral_ofNat _, ?_⟩
    rw [numeralValue_ofNat, if_neg Bool.false_ne_true]
    omega

end Text

/-! ### Numbers with a point -/

namespace Decimal

/-- The decimal that a literal with a point stands for. -/
def IsPointed (t : Text) (d : Decimal) : Prop :=
  ∃ whole fraction : Text, Text.Signed t d.negative (whole ++ '.' :: fraction) ∧
    Text.isNumeral (whole ++ fraction) = true ∧
    d.digits = Text.numeralValue (whole ++ fraction) ∧ d.exponent = -fraction.length

theorem signFree_pointed {whole fraction : Text} (h : ∀ c ∈ whole, c.isDigit = true) :
    Text.SignFree (whole ++ '.' :: fraction) := by
  cases whole with
  | nil =>
      intro c hc
      cases hc
      decide
  | cons c whole => exact Text.signFree_of_isDigit (h c List.mem_cons_self) _

theorem ofText?_eq_some_iff {t : Text} {d : Decimal} :
    ofText? t = some d ∧ '.' ∈ t ↔ IsPointed t d := by
  have hpoint : Char.isDigit '.' = false := rfl
  constructor
  · rintro ⟨hread, hmem⟩
    have hsigned := Text.signed_splitSign t
    have hsplit := List.takeWhile_append_dropWhile (p := Char.isDigit) (l := (Text.splitSign t).2)
    simp only [ofText?] at hread
    split at hread
    next hrest =>
      -- all digits: then there is no point
      have hbody : '.' ∈ (Text.splitSign t).2 := by
        rcases hsigned.mem_cases hmem with h | h | h
        · cases h
        · cases h
        · exact h
      rw [hrest, List.append_nil] at hsplit
      rw [← hsplit] at hbody
      have hdigit := List.all_eq_true.1 List.all_takeWhile _ hbody
      rw [hpoint] at hdigit
      cases hdigit
    next c fraction hrest =>
      simp only [Option.ite_none_right_eq_some, Option.some.injEq] at hread
      obtain ⟨⟨rfl, hnumeral⟩, rfl⟩ := hread
      rw [hrest] at hsplit
      exact ⟨_, fraction, by rwa [hsplit], hnumeral, rfl, rfl⟩
  · rintro ⟨whole, fraction, hsigned, hnumeral, hdigits, hexponent⟩
    obtain ⟨-, hall⟩ := Text.isNumeral_iff.1 hnumeral
    have hwhole : ∀ c ∈ whole, c.isDigit = true := fun c hc => hall c (List.mem_append_left _ hc)
    refine ⟨?_, hsigned.mem (by simp)⟩
    have htake : (whole ++ '.' :: fraction).takeWhile Char.isDigit = whole := by
      rw [List.takeWhile_append_of_pos hwhole, List.takeWhile_cons_of_neg (by simp [hpoint]),
        List.append_nil]
    have hdrop : (whole ++ '.' :: fraction).dropWhile Char.isDigit = '.' :: fraction := by
      rw [List.dropWhile_append_of_pos hwhole, List.dropWhile_cons_of_neg (by simp [hpoint])]
    simp only [ofText?, hsigned.splitSign_eq (signFree_pointed hwhole), htake, hdrop, hnumeral,
      true_and, if_true, ← hdigits, ← hexponent]

theorem IsPointed.unique {t : Text} {d e : Decimal} (hd : IsPointed t d) (he : IsPointed t e) :
    d = e := by
  have hread := (ofText?_eq_some_iff.2 hd).1
  rw [(ofText?_eq_some_iff.2 he).1] at hread
  exact (Option.some.inj hread).symm

theorem signed_signed {negative : Bool} {body : Text} :
    Text.Signed (signed negative body) negative body := by
  cases negative with
  | false => exact .unsigned body
  | true => exact .minus body

/-- The fraction of a positional text has as many digits as there are places. -/
theorem leftpad_ofNat {n places : Nat} (hpos : 0 < places) (hn : n < 10 ^ places) :
    ((Text.ofNat n).leftpad places '0').length = places ∧
      (∀ c ∈ (Text.ofNat n).leftpad places '0', c.isDigit = true) ∧
      Text.numeralValue ((Text.ofNat n).leftpad places '0') = n := by
  have hlength : (Text.ofNat n).length ≤ places :=
    (Nat.length_toDigits_le_iff (by decide) hpos).2 hn
  refine ⟨?_, ?_, ?_⟩
  · rw [List.leftpad, List.length_append, List.length_replicate]
    omega
  · intro c hc
    rcases List.mem_append.1 hc with hc | hc
    · rw [List.eq_of_mem_replicate hc]
      rfl
    · exact (Text.isNumeral_iff.1 (Text.isNumeral_ofNat n)).2 c hc
  · rw [List.leftpad, Text.numeralValue_append, Text.numeralValue_ofNat, Text.numeralValue,
      Nat.ofDigitChars_replicate_zero, Nat.mul_zero, Nat.mul_zero, Nat.zero_add]

theorem positional_eq (d : Decimal) : d.positional = signed d.negative
    (Text.ofNat (d.digits * 10 ^ d.exponent.toNat / 10 ^ (-d.exponent).toNat) ++ '.' ::
      if (-d.exponent).toNat = 0 then ['0']
      else (Text.ofNat (d.digits * 10 ^ d.exponent.toNat % 10 ^ (-d.exponent).toNat)).leftpad
        (-d.exponent).toNat '0') := rfl

/-- A positional text stands for a decimal of the same value. -/
theorem isPointed_positional (d : Decimal) :
    ∃ e, IsPointed d.positional e ∧ Binary32.ofDecimal e = Binary32.ofDecimal d := by
  have hnat (n : Nat) := Text.isNumeral_iff.1 (Text.isNumeral_ofNat n)
  by_cases hplaces : (-d.exponent).toNat = 0
  · -- a whole number: one place is written, and it is a zero
    have hvalue : Text.numeralValue (Text.ofNat (d.digits * 10 ^ d.exponent.toNat) ++ ['0']) =
        10 * (d.digits * 10 ^ d.exponent.toNat) := by
      rw [Text.numeralValue_append, Text.numeralValue_ofNat]
      rfl
    refine ⟨⟨d.negative, 10 * (d.digits * 10 ^ d.exponent.toNat), -1⟩, ?_, ?_⟩
    · refine ⟨Text.ofNat (d.digits * 10 ^ d.exponent.toNat), ['0'], ?_, ?_, hvalue.symm, rfl⟩
      · simp only [positional_eq, hplaces, Nat.pow_zero, Nat.div_one, if_true]
        exact signed_signed
      · refine Text.isNumeral_iff.2 ⟨by simp, fun c hc => ?_⟩
        rcases List.mem_append.1 hc with hc | hc
        · exact (hnat _).2 c hc
        · rw [List.mem_singleton.1 hc]
          rfl
    · have hscale := Binary32.roundedMagnitude_mul (k := 10) (by decide)
        (d.digits * 10 ^ d.exponent.toNat) 1
      simp only [Binary32.ofDecimal_eq, hplaces, Nat.pow_zero]
      exact congrArg _ (by simpa using hscale)
  · have hpos : 0 < (-d.exponent).toNat := by omega
    have hexponent : d.exponent.toNat = 0 := by omega
    have hrest : d.digits % 10 ^ (-d.exponent).toNat < 10 ^ (-d.exponent).toNat :=
      Nat.mod_lt _ (Nat.pow_pos (by decide))
    obtain ⟨hlength, hdigits, hfraction⟩ := leftpad_ofNat hpos hrest
    refine ⟨d, ⟨Text.ofNat (d.digits / 10 ^ (-d.exponent).toNat),
      (Text.ofNat (d.digits % 10 ^ (-d.exponent).toNat)).leftpad (-d.exponent).toNat '0',
      ?_, ?_, ?_, ?_⟩, rfl⟩
    · simp only [positional_eq, hplaces, hexponent, Nat.pow_zero, Nat.mul_one, if_false]
      exact signed_signed
    · refine Text.isNumeral_iff.2 ⟨by simp [(hnat _).1], fun c hc => ?_⟩
      rcases List.mem_append.1 hc with hc | hc
      · exact (hnat _).2 c hc
      · exact hdigits c hc
    · rw [Text.numeralValue_append, hlength, hfraction, Text.numeralValue_ofNat, Nat.div_add_mod]
    · rw [hlength]
      omega

end Decimal

/-! ### Floats in a line -/

/-- The finite float that a literal with a point stands for: the one nearest to
the decimal that is written. -/
def Binary32.IsLiteral (t : Text) (v : Binary32) : Prop :=
  v.isFinite = true ∧ ∃ d, Decimal.IsPointed t d ∧ v.IsNearest d

theorem Binary32.ofText?_eq_some_iff {t : Text} {v : Binary32} :
    Binary32.ofText? t = some v ∧ '.' ∈ t ↔ IsLiteral t v := by
  constructor
  · rintro ⟨hread, hmem⟩
    unfold Binary32.ofText? at hread
    cases hd : Decimal.ofText? t with
    | none => simp [hd] at hread
    | some d =>
        simp only [hd, Option.ite_none_right_eq_some, Option.some.injEq] at hread
        obtain ⟨hfinite, rfl⟩ := hread
        exact ⟨hfinite, d, Decimal.ofText?_eq_some_iff.1 ⟨hd, hmem⟩, isNearest_ofDecimal d⟩
  · rintro ⟨hfinite, d, hd, hnearest⟩
    obtain rfl : v = ofDecimal d := isNearest_iff.1 hnearest
    obtain ⟨hread, hmem⟩ := Decimal.ofText?_eq_some_iff.2 hd
    refine ⟨?_, hmem⟩
    simp [Binary32.ofText?, hread, hfinite]

theorem Address.isLiteral_floatText {v : Binary32} (hv : v.isFinite = true) :
    Binary32.IsLiteral (floatText v) v := by
  obtain ⟨d, hd, hvalue⟩ := Decimal.isPointed_positional (v.shortest .away)
  refine ⟨hv, d, ?_, ?_⟩
  · simpa [floatText, hv, Binary32.write, floatFormat] using hd
  · refine Binary32.isNearest_iff.2 ?_
    rw [hvalue, Binary32.ofDecimal_shortest .away hv]

end NCBlock
