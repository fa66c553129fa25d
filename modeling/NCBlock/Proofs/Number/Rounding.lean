import Mathlib.Algebra.Group.Nat.Defs
import NCBlock.Number.Binary32

/-!
Rounding a quotient to single precision. The result depends on the value of
the quotient and not on how it is written, and a value that single precision
can hold is rounded to itself. So the shortest decimal of a finite value is
read back as that value.
-/

namespace NCBlock.Binary32

/-! ### Scaling -/

theorem roundedMagnitude_eq (num den : Nat) : roundedMagnitude num den =
    if (num * 2 ^ 149 / den).log2 - 23 ≤ 253 then
      ((num * 2 ^ 149 / den).log2 - 23) * 2 ^ 23 +
        roundToEven (num * 2 ^ 149) (den * 2 ^ ((num * 2 ^ 149 / den).log2 - 23))
    else infinity := rfl

theorem ofDecimal_eq (d : Decimal) : ofDecimal d = ofMagnitude d.negative
    (roundedMagnitude (d.digits * 10 ^ d.exponent.toNat) (10 ^ (-d.exponent).toNat)) := rfl

theorem roundToEven_mul {k : Nat} (hk : 0 < k) (num den : Nat) :
    roundToEven (k * num) (k * den) = roundToEven num den := by
  have hdouble : 2 * (k * (num % den)) = k * (2 * (num % den)) := by
    rw [Nat.mul_left_comm]
  have hlt : k * (2 * (num % den)) < k * den ↔ 2 * (num % den) < den := by
    exact Nat.mul_lt_mul_left hk
  have heq : k * (2 * (num % den)) = k * den ↔ 2 * (num % den) = den :=
    ⟨fun h => Nat.eq_of_mul_eq_mul_left hk h, fun h => by rw [h]⟩
  simp only [roundToEven, Nat.mul_div_mul_left _ _ hk, Nat.mul_mod_mul_left, hdouble, hlt, heq]

/-- A whole quotient is not changed by rounding. -/
theorem roundToEven_of_dvd {den : Nat} (hden : 0 < den) (n : Nat) :
    roundToEven (n * den) den = n := by
  simp [roundToEven, Nat.mul_div_cancel n hden, hden]

theorem roundedMagnitude_mul {k : Nat} (hk : 0 < k) (num den : Nat) :
    roundedMagnitude (k * num) (k * den) = roundedMagnitude num den := by
  have hunits : k * (num * 2 ^ 149) / (k * den) = num * 2 ^ 149 / den :=
    Nat.mul_div_mul_left _ _ hk
  simp only [roundedMagnitude_eq, Nat.mul_assoc k, hunits, roundToEven_mul hk]

/-! ### Exact values -/

theorem ofMagnitude_magnitude (v : Binary32) : ofMagnitude v.negative v.magnitude = v := by
  have hbits : v.bits.toNat < 0x100000000 := v.bits.toNat_lt
  have hsplit : (if v.negative then 0x80000000 + v.magnitude else v.magnitude) =
      v.bits.toNat := by
    simp only [negative, magnitude, decide_eq_true_eq]
    split <;> omega
  rw [ofMagnitude, hsplit, UInt32.ofNat_toNat]

/-- The fields of a finite value: a subnormal one counts its units directly,
any other has a leading bit. -/
theorem units_cases {v : Binary32} (hv : v.isFinite = true) :
    v.magnitude < 2 ^ 23 ∧ v.units = v.magnitude ∨
      ∃ binade fraction, binade ≤ 253 ∧ fraction < 2 ^ 23 ∧
        v.units = (2 ^ 23 + fraction) * 2 ^ binade ∧
        v.magnitude = binade * 2 ^ 23 + (2 ^ 23 + fraction) := by
  have hmagnitude : v.magnitude < 0x7F800000 := of_decide_eq_true hv
  by_cases hfield : v.magnitude / 2 ^ 23 = 0
  · refine .inl ⟨by omega, ?_⟩
    exact (if_pos hfield).trans (by omega)
  · refine .inr ⟨v.magnitude / 2 ^ 23 - 1, v.magnitude % 2 ^ 23, by omega, by omega, ?_, by omega⟩
    exact if_neg hfield

theorem log2_mul_two_pow {m e : Nat} (hlow : 2 ^ 23 ≤ m) (hhigh : m < 2 ^ 24) :
    (m * 2 ^ e).log2 = 23 + e := by
  have hpos : 0 < 2 ^ e := Nat.two_pow_pos e
  have hne : m * 2 ^ e ≠ 0 := Nat.mul_ne_zero (by omega) (by omega)
  rw [Nat.log2_eq_iff hne]
  constructor
  · rw [Nat.pow_add]
    exact Nat.mul_le_mul_right _ hlow
  · rw [show 23 + e + 1 = 24 + e by omega, Nat.pow_add 2 24 e]
    exact Nat.mul_lt_mul_of_pos_right hhigh hpos

/-- A finite value, written as a multiple of a fraction of one unit, rounds to
itself. -/
theorem roundedMagnitude_units {v : Binary32} (hv : v.isFinite = true) {k : Nat} (hk : 0 < k) :
    roundedMagnitude (v.units * k) (2 ^ 149 * k) = v.magnitude := by
  rw [Nat.mul_comm v.units, Nat.mul_comm (2 ^ 149), roundedMagnitude_mul hk, roundedMagnitude_eq,
    Nat.mul_div_cancel _ (Nat.two_pow_pos 149)]
  rcases units_cases hv with ⟨hsmall, hunits⟩ | ⟨binade, fraction, hbinade, hfraction, hunits, hmag⟩
  · -- a subnormal value lies in binade zero, which counts in single units
    have hlog : v.units.log2 - 23 = 0 := by
      by_cases hzero : v.units = 0
      · rw [hzero, Nat.log2_zero]
      · have hlt : v.units.log2 < 23 := (Nat.log2_lt hzero).2 (by omega)
        omega
    rw [hlog, if_pos (Nat.zero_le _), Nat.zero_mul, Nat.zero_add, Nat.pow_zero, Nat.mul_one,
      roundToEven_of_dvd (Nat.two_pow_pos 149), hunits]
  · have hlog : v.units.log2 - 23 = binade := by
      rw [hunits, log2_mul_two_pow (by omega) (by omega)]
      omega
    have hshift : v.units * 2 ^ 149 = (2 ^ 23 + fraction) * (2 ^ 149 * 2 ^ binade) := by
      rw [hunits, Nat.mul_assoc, Nat.mul_comm (2 ^ binade)]
    rw [hlog, if_pos hbinade, hshift,
      roundToEven_of_dvd (Nat.mul_pos (Nat.two_pow_pos 149) (Nat.two_pow_pos binade)), hmag]

theorem ofDecimal_exactDecimal {v : Binary32} (hv : v.isFinite = true) :
    ofDecimal v.exactDecimal = v := by
  have hten : 10 ^ 149 = 2 ^ 149 * 5 ^ 149 := by rw [← Nat.mul_pow]
  have hround := roundedMagnitude_units hv (k := 5 ^ 149) (Nat.pow_pos (by decide))
  have hfields : ofDecimal v.exactDecimal =
      ofMagnitude v.negative (roundedMagnitude (v.units * 5 ^ 149 * 10 ^ 0) (10 ^ 149)) := rfl
  rw [hfields, Nat.pow_zero, Nat.mul_one, hten, hround, ofMagnitude_magnitude]

/-! ### The shortest decimal -/

theorem ofDecimal_shortest (tie : Tie) {v : Binary32} (hv : v.isFinite = true) :
    ofDecimal (v.shortest tie) = v := by
  simp only [shortest]
  split
  next hzero =>
    have hround : roundedMagnitude 0 1 = 0 := by decide
    have hfields : ofDecimal ⟨v.negative, 0, 0⟩ =
        ofMagnitude v.negative (roundedMagnitude 0 1) := rfl
    rw [hfields, hround, ← hzero, ofMagnitude_magnitude]
  next =>
    cases hfound : List.find? _ _ with
    | none => exact ofDecimal_exactDecimal hv
    | some d =>
        have hreads := List.find?_some hfound
        rwa [decide_eq_true_eq] at hreads

end NCBlock.Binary32
