import Mathlib.Algebra.Order.Field.Power
import Mathlib.Algebra.Order.Field.Rat
import Mathlib.Tactic.Linarith
import Mathlib.Tactic.Positivity
import NCBlock.Proofs.Number.Rounding

/-!
The nearest value of single precision. A decimal is rounded to a value of its
own sign that no other value is nearer to, and of two equally near ones to that
with the even pattern. Infinity takes part in this as the number at which the
next binade would begin, so a decimal overflows from half a step above the
greatest finite value on.
-/

namespace NCBlock

/-- A number with its sign put before it. -/
def withSign (negative : Bool) (x : ℚ) : ℚ := if negative then -x else x

theorem abs_withSign {x : ℚ} (hx : 0 ≤ x) (negative : Bool) : |withSign negative x| = x := by
  cases negative with
  | false => exact abs_of_nonneg hx
  | true => exact (abs_neg x).trans (abs_of_nonneg hx)

theorem abs_withSign_sub (negative : Bool) (x y : ℚ) :
    |withSign negative x - withSign negative y| = |x - y| := by
  cases negative with
  | false => rfl
  | true =>
      show |-x - -y| = |x - y|
      rw [neg_sub_neg, abs_sub_comm]

/-- The number that a decimal stands for. -/
def Decimal.value (d : Decimal) : ℚ := withSign d.negative (d.digits * 10 ^ d.exponent)

namespace Binary32

/-- The number that a pattern stands for. Infinity counts as `2 ^ 128`. -/
def value (v : Binary32) : ℚ := withSign v.negative (v.units / 2 ^ 149)

/-- Rounding to nearest, with ties to even. -/
structure IsNearest (v : Binary32) (d : Decimal) : Prop where
  sign : v.negative = d.negative
  number : v.isNaN = false
  nearest : ∀ w : Binary32, w.isNaN = false → |d.value - v.value| ≤ |d.value - w.value|
  even : ∀ w : Binary32, w.isNaN = false → w.value ≠ v.value →
    |d.value - w.value| = |d.value - v.value| → v.magnitude % 2 = 0

/-! ### Units of a magnitude -/

/-- The units that a magnitude counts. -/
def unitsAt (magnitude : Nat) : Nat :=
  if magnitude / 2 ^ 23 = 0 then magnitude % 2 ^ 23
  else (2 ^ 23 + magnitude % 2 ^ 23) * 2 ^ (magnitude / 2 ^ 23 - 1)

theorem units_eq (v : Binary32) : v.units = unitsAt v.magnitude := rfl

/-- A binade counts in equal steps, up to the point where the next one begins. -/
theorem unitsAt_binade {binade steps : Nat} (hlow : binade = 0 ∨ 2 ^ 23 ≤ steps)
    (hhigh : steps ≤ 2 ^ 24) : unitsAt (binade * 2 ^ 23 + steps) = steps * 2 ^ binade := by
  rw [unitsAt]
  by_cases hsmall : steps < 2 ^ 23
  · obtain rfl : binade = 0 := by omega
    rw [if_pos (by omega)]
    omega
  · rcases Nat.lt_or_ge steps (2 ^ 24) with hlt | hge
    · have hfield : (binade * 2 ^ 23 + steps) / 2 ^ 23 = binade + 1 := by omega
      have hfraction : 2 ^ 23 + (binade * 2 ^ 23 + steps) % 2 ^ 23 = steps := by omega
      rw [hfield, if_neg (by omega), hfraction, Nat.add_sub_cancel]
    · -- the carry: twice the first step of the next binade
      have hfield : (binade * 2 ^ 23 + steps) / 2 ^ 23 = binade + 2 := by omega
      have hfraction : (binade * 2 ^ 23 + steps) % 2 ^ 23 = 0 := by omega
      have hsteps : steps = 2 ^ 23 * 2 := by omega
      rw [hfield, if_neg (by omega), hfraction, hsteps, Nat.add_zero, Nat.mul_assoc,
        ← Nat.pow_succ']
      rfl

theorem exists_binade (magnitude : Nat) : ∃ binade steps,
    magnitude = binade * 2 ^ 23 + steps ∧ (binade = 0 ∨ 2 ^ 23 ≤ steps) ∧ steps < 2 ^ 24 :=
  ⟨magnitude / 2 ^ 23 - 1, magnitude - (magnitude / 2 ^ 23 - 1) * 2 ^ 23, by omega, by omega,
    by omega⟩

theorem unitsAt_lt_succ (magnitude : Nat) : unitsAt magnitude < unitsAt (magnitude + 1) := by
  obtain ⟨binade, steps, rfl, hlow, hhigh⟩ := exists_binade magnitude
  rw [Nat.add_assoc, unitsAt_binade hlow (by omega), unitsAt_binade (by omega) (by omega)]
  exact Nat.mul_lt_mul_of_pos_right (Nat.lt_succ_self steps) (Nat.two_pow_pos binade)

theorem strictMono_unitsAt : StrictMono unitsAt := strictMono_nat_of_lt_succ unitsAt_lt_succ

/-! ### Rounding to a grid -/

theorem roundToEven_le_succ (num den : Nat) : roundToEven num den ≤ num / den + 1 := by
  rw [roundToEven]
  split <;> omega

theorem le_roundToEven (num den : Nat) : num / den ≤ roundToEven num den := by
  rw [roundToEven]
  split <;> omega

/-- The quotient is at most half a step away, and half a step only from an even
result. -/
theorem roundToEven_spec (num : Nat) {den : Nat} (hden : 0 < den) :
    (2 * num ≤ 2 * (roundToEven num den * den) + den ∧
        (2 * num = 2 * (roundToEven num den * den) + den → roundToEven num den % 2 = 0)) ∧
      (2 * (roundToEven num den * den) ≤ 2 * num + den ∧
        (2 * (roundToEven num den * den) = 2 * num + den → roundToEven num den % 2 = 0)) := by
  have hsplit := Nat.div_add_mod' num den
  have hrest := Nat.mod_lt num hden
  simp only [roundToEven]
  split
  next => omega
  next =>
    rw [Nat.add_mul, Nat.one_mul]
    omega

/-! ### Rounding to a magnitude -/

/-- A number of units is no nearer to any other magnitude, and as near to another
one only if this one is even. -/
structure Rounds (x : ℚ) (magnitude : Nat) : Prop where
  bound : magnitude ≤ infinity
  above : ∀ k, magnitude < k → k ≤ infinity → 2 * x ≤ unitsAt magnitude + unitsAt k
  below : ∀ k, k < magnitude → (unitsAt k + unitsAt magnitude : ℚ) ≤ 2 * x
  tie : ∀ k, k ≤ infinity → k ≠ magnitude → 2 * x = unitsAt magnitude + unitsAt k →
    magnitude % 2 = 0

/-- The binade in which a quotient lies. -/
theorem log2_cases (units : Nat) :
    (units.log2 - 23 = 0 ∨ 2 ^ 23 * 2 ^ (units.log2 - 23) ≤ units) ∧
      units < 2 ^ 24 * 2 ^ (units.log2 - 23) := by
  rw [← Nat.pow_add, ← Nat.pow_add]
  by_cases hzero : units = 0
  · rw [hzero]
    decide
  · have hlog := (Nat.log2_eq_iff hzero).1 rfl
    refine ⟨?_, hlog.2.trans_le (Nat.pow_le_pow_right (by decide) (by omega))⟩
    by_cases hlow : units.log2 - 23 = 0
    · exact .inl hlow
    · exact .inr ((Nat.pow_le_pow_right (by decide) (by omega)).trans hlog.1)

theorem succ_steps_le_unitsAt {binade steps k : Nat} (hlow : binade = 0 ∨ 2 ^ 23 ≤ steps)
    (hhigh : steps ≤ 2 ^ 24) (hk : binade * 2 ^ 23 + steps < k) :
    (steps + 1) * 2 ^ binade ≤ unitsAt k := by
  refine Nat.le_trans ?_ (strictMono_unitsAt.monotone (Nat.succ_le_of_lt hk))
  rcases Nat.lt_or_ge steps (2 ^ 24) with hlt | hge
  · rw [Nat.succ_eq_add_one, Nat.add_assoc, unitsAt_binade (by omega) (by omega)]
  · -- the next magnitude lies in the next binade, where a step is twice as long
    have hcarry : (binade * 2 ^ 23 + steps).succ = (binade + 1) * 2 ^ 23 + (2 ^ 23 + 1) := by omega
    rw [hcarry, unitsAt_binade (.inr (by decide)) (by decide)]
    calc (steps + 1) * 2 ^ binade ≤ (2 ^ 23 + 1) * 2 * 2 ^ binade :=
          Nat.mul_le_mul_right _ (by omega)
      _ = (2 ^ 23 + 1) * 2 ^ (binade + 1) := by rw [Nat.mul_assoc, ← Nat.pow_succ']

/-- Within a binade, and up to the first step of the next one, a number of units
is rounded to a whole number of steps. -/
theorem rounds_of_steps {x : ℚ} {binade steps : Nat} (hbinade : binade ≤ 253)
    (hlow : binade = 0 ∨ 2 ^ 23 ≤ steps) (hhigh : steps ≤ 2 ^ 24)
    (hx : binade = 0 ∨ (2 ^ 23 * 2 ^ binade : ℚ) ≤ x)
    (hle : 2 * x ≤ 2 * (steps * 2 ^ binade) + 2 ^ binade)
    (hge : (2 * (steps * 2 ^ binade) : ℚ) ≤ 2 * x + 2 ^ binade)
    (heven : 2 * x = 2 * (steps * 2 ^ binade) + 2 ^ binade ∨
      (2 * (steps * 2 ^ binade) : ℚ) = 2 * x + 2 ^ binade → steps % 2 = 0) :
    Rounds x (binade * 2 ^ 23 + steps) := by
  have hunits : (unitsAt (binade * 2 ^ 23 + steps) : ℚ) = steps * 2 ^ binade := by
    rw [unitsAt_binade hlow hhigh]
    push_cast
    rfl
  have hnext (k : Nat) (hk : binade * 2 ^ 23 + steps < k) :
      (steps * 2 ^ binade + 2 ^ binade : ℚ) ≤ unitsAt k := by
    have hstep : ((steps + 1) * 2 ^ binade : ℚ) ≤ unitsAt k := by
      exact_mod_cast succ_steps_le_unitsAt hlow hhigh hk
    linarith
  -- the magnitude before the first one of a binade is nearer, but then `x` lies above both
  have hprevious (k : Nat) (hk : k < binade * 2 ^ 23 + steps) :
      (unitsAt k + 2 ^ binade : ℚ) ≤ steps * 2 ^ binade ∨
        (unitsAt k : ℚ) < steps * 2 ^ binade ∧ (steps * 2 ^ binade : ℚ) ≤ x := by
    by_cases hfirst : binade = 0 ∨ 2 ^ 23 < steps
    · have hbefore : unitsAt k ≤ (steps - 1) * 2 ^ binade := by
        rw [← unitsAt_binade (by omega) (by omega)]
        exact strictMono_unitsAt.monotone (by omega)
      have hstep : (unitsAt k + 1 * 2 ^ binade : ℚ) ≤ steps * 2 ^ binade := by
        have hsteps : steps = steps - 1 + 1 := by omega
        rw [hsteps, Nat.cast_add, add_mul, Nat.cast_one]
        have := (Nat.cast_le (α := ℚ)).2 hbefore
        push_cast at this ⊢
        linarith
      exact .inl (by linarith)
    · have hsteps : (steps : ℚ) = 2 ^ 23 := by
        have : steps = 2 ^ 23 := by omega
        rw [this]
        norm_num
      refine .inr ⟨hunits ▸ Nat.cast_lt.2 (strictMono_unitsAt hk), ?_⟩
      rw [hsteps]
      exact hx.resolve_left (by omega)
  have hodd : steps % 2 = 0 → (binade * 2 ^ 23 + steps) % 2 = 0 := by omega
  refine ⟨?_, ?_, ?_, ?_⟩
  · show _ ≤ 0x7F800000
    omega
  · intro k hk _
    have := hnext k hk
    linarith
  · intro k hk
    rcases hprevious k hk with h | ⟨h, hx⟩ <;> linarith
  · intro k _ hne heq
    rw [hunits] at heq
    rcases Nat.lt_or_gt_of_ne hne with hk | hk
    · rcases hprevious k hk with h | ⟨h, hx⟩
      · exact hodd (heven (.inr (by linarith)))
      · linarith
    · have := hnext k hk
      exact hodd (heven (.inl (by linarith)))

theorem rounds_infinity {x : ℚ} (hx : (2 ^ 23 * 2 ^ 254 : ℚ) ≤ x) : Rounds x infinity := by
  have hunits : (unitsAt infinity : ℚ) = 2 ^ 23 * 2 ^ 254 := by
    have : unitsAt infinity = 2 ^ 23 * 2 ^ 254 := rfl
    rw [this, Nat.cast_mul, Nat.cast_pow, Nat.cast_pow, Nat.cast_ofNat]
  refine ⟨le_rfl, fun k hk hle => absurd hk (Nat.not_lt.2 hle), fun k hk => ?_,
    fun _ _ _ _ => rfl⟩
  have hlt : (unitsAt k : ℚ) < unitsAt infinity := Nat.cast_lt.2 (strictMono_unitsAt hk)
  linarith

/-- Rounding to steps of `2 ^ binade` units, told of the quotient itself. -/
theorem roundToEven_steps (num : Nat) {den : Nat} (hden : 0 < den) (binade : Nat) {x : ℚ}
    (hx : (num : ℚ) = x * den) {steps : Nat}
    (hsteps : roundToEven num (den * 2 ^ binade) = steps) :
    2 * x ≤ 2 * (steps * 2 ^ binade) + 2 ^ binade ∧
      (2 * (steps * 2 ^ binade) : ℚ) ≤ 2 * x + 2 ^ binade ∧
      (2 * x = 2 * (steps * 2 ^ binade) + 2 ^ binade ∨
        (2 * (steps * 2 ^ binade) : ℚ) = 2 * x + 2 ^ binade → steps % 2 = 0) := by
  have hden' : (0 : ℚ) < den := Nat.cast_pos.2 hden
  obtain ⟨⟨habove, htieAbove⟩, hbelow, htieBelow⟩ :=
    roundToEven_spec num (Nat.mul_pos hden (Nat.two_pow_pos binade))
  rw [hsteps] at habove htieAbove hbelow htieBelow
  rw [← Nat.cast_inj (R := ℚ)] at htieAbove htieBelow
  rw [← Nat.cast_le (α := ℚ)] at habove hbelow
  push_cast [hx] at habove htieAbove hbelow htieBelow
  refine ⟨le_of_mul_le_mul_right (by linarith) hden', le_of_mul_le_mul_right (by linarith) hden',
    ?_⟩
  rintro (h | h)
  · have hscaled := congrArg (· * (den : ℚ)) h
    exact htieAbove (by linarith)
  · have hscaled := congrArg (· * (den : ℚ)) h
    exact htieBelow (by linarith)

theorem rounds_roundedMagnitude (num : Nat) {den : Nat} (hden : 0 < den) :
    Rounds (num * 2 ^ 149 / den) (roundedMagnitude num den) := by
  have hden' : (0 : ℚ) < den := Nat.cast_pos.2 hden
  obtain ⟨hlow, hhigh⟩ := log2_cases (num * 2 ^ 149 / den)
  rw [roundedMagnitude_eq]
  generalize (num * 2 ^ 149 / den).log2 - 23 = binade at hlow hhigh
  have hx : binade = 0 ∨ (2 ^ 23 * 2 ^ binade : ℚ) ≤ num * 2 ^ 149 / den := by
    refine hlow.imp_right fun h => ?_
    rw [le_div_iff₀ hden']
    exact_mod_cast (Nat.le_div_iff_mul_le hden).1 h
  split
  next hbinade =>
    have hle := roundToEven_le_succ (num * 2 ^ 149) (den * 2 ^ binade)
    have hge := le_roundToEven (num * 2 ^ 149) (den * 2 ^ binade)
    rw [← Nat.div_div_eq_div_mul] at hle hge
    have hstepsLow : binade = 0 ∨ 2 ^ 23 ≤ roundToEven (num * 2 ^ 149) (den * 2 ^ binade) := by
      refine hlow.imp_right fun h => Nat.le_trans ?_ hge
      exact (Nat.le_div_iff_mul_le (Nat.two_pow_pos binade)).2 h
    have hstepsHigh : roundToEven (num * 2 ^ 149) (den * 2 ^ binade) ≤ 2 ^ 24 :=
      hle.trans ((Nat.div_lt_iff_lt_mul (Nat.two_pow_pos binade)).2 hhigh)
    have hscale : ((num * 2 ^ 149 : ℕ) : ℚ) = num * 2 ^ 149 / den * den := by
      rw [div_mul_cancel₀ _ hden'.ne', Nat.cast_mul, Nat.cast_pow, Nat.cast_ofNat]
    obtain ⟨habove, hbelow, htie⟩ := roundToEven_steps _ hden binade hscale rfl
    exact rounds_of_steps hbinade hstepsLow hstepsHigh hx habove hbelow htie
  next hbinade =>
    refine rounds_infinity (le_trans ?_ (hx.resolve_left (by omega)))
    have hpow : (2 ^ 254 : ℚ) ≤ 2 ^ binade := pow_le_pow_right₀ (by norm_num) (by omega)
    linarith

/-! ### Distances -/

theorem abs_sub_le_of_midpoint {a b x : ℚ}
    (h : a ≤ b ∧ 2 * x ≤ a + b ∨ b ≤ a ∧ b + a ≤ 2 * x) : |x - a| ≤ |x - b| := by
  have hright := le_abs_self (x - b)
  have hleft := neg_le_abs (x - b)
  rw [abs_le]
  rcases h with ⟨hab, hx⟩ | ⟨hab, hx⟩ <;> constructor <;> linarith

theorem Rounds.abs_sub_le {x : ℚ} {m k : Nat} (h : Rounds x m) (hk : k ≤ infinity) :
    |x - unitsAt m| ≤ |x - unitsAt k| := by
  rcases Nat.lt_trichotomy k m with hlt | rfl | hgt
  · have hunits := (Nat.cast_lt (α := ℚ)).2 (strictMono_unitsAt hlt)
    exact abs_sub_le_of_midpoint (.inr ⟨hunits.le, h.below k hlt⟩)
  · exact le_rfl
  · have hunits := (Nat.cast_lt (α := ℚ)).2 (strictMono_unitsAt hgt)
    exact abs_sub_le_of_midpoint (.inl ⟨hunits.le, h.above k hgt hk⟩)

theorem Rounds.eq_zero {m : Nat} (h : Rounds 0 m) : m = 0 := by
  by_contra hne
  have hbelow := h.below 0 (Nat.pos_of_ne_zero hne)
  have hlt := (Nat.cast_lt (α := ℚ)).2 (strictMono_unitsAt (Nat.pos_of_ne_zero hne))
  have hnonneg := Nat.cast_nonneg (α := ℚ) (unitsAt 0)
  linarith

theorem two_mul_eq_of_abs_sub_eq {x : ℚ} {m k : Nat} (hne : k ≠ m)
    (heq : |x - unitsAt k| = |x - unitsAt m|) : 2 * x = unitsAt m + unitsAt k := by
  rcases abs_eq_abs.1 heq with hsame | hopposite
  · exact absurd (strictMono_unitsAt.injective (Nat.cast_inj.1 (sub_right_injective hsame))) hne
  · linarith

end Binary32

theorem Decimal.abs_value (d : Decimal) : |d.value| = d.digits * 10 ^ d.exponent :=
  abs_withSign (by positivity) d.negative

/-- The exponent goes to the numerator or to the denominator. -/
theorem Decimal.abs_value_eq_div (d : Decimal) : |d.value| =
    ((d.digits * 10 ^ d.exponent.toNat : ℕ) : ℚ) / ((10 ^ (-d.exponent).toNat : ℕ) : ℚ) := by
  have hexponent : (10 ^ d.exponent : ℚ) = 10 ^ d.exponent.toNat / 10 ^ (-d.exponent).toNat := by
    rw [← zpow_natCast, ← zpow_natCast, ← zpow_sub₀ (by norm_num)]
    congr 1
    omega
  rw [d.abs_value, hexponent, ← mul_div_assoc]
  push_cast
  rfl

namespace Binary32

theorem abs_value (v : Binary32) : |v.value| = unitsAt v.magnitude / 2 ^ 149 :=
  abs_withSign (by positivity) v.negative

/-! ### The nearest value -/

theorem toNat_bits_ofMagnitude {magnitude : Nat} (h : magnitude ≤ infinity) (negative : Bool) :
    (ofMagnitude negative magnitude).bits.toNat =
      if negative then 0x80000000 + magnitude else magnitude := by
  have hbound : magnitude ≤ 0x7F800000 := h
  refine UInt32.toNat_ofNat_of_lt' ?_
  show _ < 0x100000000
  split <;> omega

theorem negative_ofMagnitude {magnitude : Nat} (h : magnitude ≤ infinity) (negative : Bool) :
    (ofMagnitude negative magnitude).negative = negative := by
  have hbound : magnitude ≤ 0x7F800000 := h
  rw [Binary32.negative, toNat_bits_ofMagnitude h]
  cases negative with
  | false => exact decide_eq_false (by simp; omega)
  | true => exact decide_eq_true (by simp)

theorem magnitude_ofMagnitude {magnitude : Nat} (h : magnitude ≤ infinity) (negative : Bool) :
    (ofMagnitude negative magnitude).magnitude = magnitude := by
  have hbound : magnitude ≤ 0x7F800000 := h
  rw [Binary32.magnitude, toNat_bits_ofMagnitude h]
  split <;> omega

theorem isNaN_eq_false_iff {v : Binary32} : v.isNaN = false ↔ v.magnitude ≤ infinity := by
  rw [isNaN, decide_eq_false_iff_not, Nat.not_lt]

variable {d : Decimal} {v w : Binary32}

theorem abs_sub_value (h : v.negative = d.negative) :
    |d.value - v.value| = |(|d.value| - |v.value|)| := by
  rw [d.abs_value, v.abs_value, Decimal.value, value, h, abs_withSign_sub, units_eq]

theorem abs_sub_abs_value (d : Decimal) (w : Binary32) :
    |(|d.value| - |w.value|)| = |(|d.value| * 2 ^ 149) - unitsAt w.magnitude| / 2 ^ 149 := by
  have hpos : (0 : ℚ) < 2 ^ 149 := by positivity
  rw [w.abs_value, eq_div_iff hpos.ne', ← abs_of_pos hpos, ← abs_mul, abs_of_pos hpos, sub_mul,
    div_mul_cancel₀ _ hpos.ne']

theorem abs_value_inj : |v.value| = |w.value| ↔ v.magnitude = w.magnitude := by
  rw [abs_value, abs_value, div_left_inj' (by positivity), Nat.cast_inj,
    strictMono_unitsAt.injective.eq_iff]

theorem rounds_ofDecimal (d : Decimal) :
    Rounds (|d.value| * 2 ^ 149) (ofDecimal d).magnitude := by
  have hden : 0 < 10 ^ (-d.exponent).toNat := Nat.pow_pos (by decide)
  have hrounds := rounds_roundedMagnitude (d.digits * 10 ^ d.exponent.toNat) hden
  rw [ofDecimal_eq, magnitude_ofMagnitude hrounds.bound, d.abs_value_eq_div, div_mul_eq_mul_div]
  exact hrounds

theorem negative_ofDecimal (d : Decimal) : (ofDecimal d).negative = d.negative :=
  negative_ofMagnitude (rounds_roundedMagnitude _ (Nat.pow_pos (by decide))).bound d.negative

theorem isNearest_ofDecimal (d : Decimal) : (ofDecimal d).IsNearest d := by
  have hrounds := rounds_ofDecimal d
  have hsame := abs_sub_value (negative_ofDecimal d)
  have hpos : (0 : ℚ) < 2 ^ 149 := by positivity
  have hnearest {w : Binary32} (hw : w.isNaN = false) :
      |d.value - (ofDecimal d).value| ≤ |(|d.value| - |w.value|)| := by
    rw [hsame, abs_sub_abs_value, abs_sub_abs_value, div_le_div_iff_of_pos_right hpos]
    exact hrounds.abs_sub_le (isNaN_eq_false_iff.1 hw)
  refine ⟨negative_ofDecimal d, isNaN_eq_false_iff.2 hrounds.bound, fun w hw => ?_,
    fun w hw hne heq => ?_⟩
  · exact (hnearest hw).trans (abs_abs_sub_abs_le_abs_sub _ _)
  · by_cases hmagnitude : w.magnitude = (ofDecimal d).magnitude
    · -- the two differ in their sign, so they are as near only to zero
      have hopposite : w.value = -(ofDecimal d).value :=
        (abs_eq_abs.1 (abs_value_inj.2 hmagnitude)).resolve_left hne
      have hzero : d.value = 0 := by
        rw [hopposite] at heq hne
        rcases abs_eq_abs.1 heq with h | h
        · exact absurd (by linarith) hne
        · linarith
      rw [hzero, abs_zero, zero_mul] at hrounds
      rw [hrounds.eq_zero]
    · have hle : |(|d.value| - |w.value|)| ≤ |(|d.value| - |(ofDecimal d).value|)| :=
        hsame ▸ heq ▸ abs_abs_sub_abs_le_abs_sub _ _
      have heq' := le_antisymm hle (hsame ▸ hnearest hw)
      rw [abs_sub_abs_value, abs_sub_abs_value, div_left_inj' hpos.ne'] at heq'
      exact hrounds.tie _ (isNaN_eq_false_iff.1 hw) hmagnitude
        (two_mul_eq_of_abs_sub_eq hmagnitude heq')

/-- The nearest value is the one that rounding finds, with its sign and its last bit. -/
theorem isNearest_iff : v.IsNearest d ↔ v = ofDecimal d := by
  refine ⟨fun h => ?_, fun h => h ▸ isNearest_ofDecimal d⟩
  have hrounds := rounds_ofDecimal d
  have hother := isNearest_ofDecimal d
  have hdistance := le_antisymm (h.nearest _ hother.number) (hother.nearest _ h.number)
  by_cases hmagnitude : v.magnitude = (ofDecimal d).magnitude
  · rw [← ofMagnitude_magnitude v, ← ofMagnitude_magnitude (ofDecimal d), hmagnitude, h.sign,
      hother.sign]
  · -- two even magnitudes have an odd one between them, which would be nearer than both
    have hne : v.value ≠ (ofDecimal d).value :=
      fun heq => hmagnitude (abs_value_inj.1 (congrArg abs heq))
    have heven := h.even _ hother.number hne.symm hdistance.symm
    have heven' := hother.even _ h.number hne hdistance
    have hpos : (0 : ℚ) < 2 ^ 149 := by positivity
    rw [abs_sub_value h.sign, abs_sub_value hother.sign, abs_sub_abs_value, abs_sub_abs_value,
      div_left_inj' hpos.ne'] at hdistance
    have hmiddle := two_mul_eq_of_abs_sub_eq hmagnitude hdistance
    have hbound := isNaN_eq_false_iff.1 h.number
    rcases Nat.lt_or_gt_of_ne hmagnitude with hlt | hgt
    · have hbelow := hrounds.below (v.magnitude + 1) (by omega)
      have hstep := (Nat.cast_lt (α := ℚ)).2 (unitsAt_lt_succ v.magnitude)
      linarith
    · have habove := hrounds.above ((ofDecimal d).magnitude + 1) (by omega) (by omega)
      have hstep := (Nat.cast_lt (α := ℚ)).2
        (strictMono_unitsAt (show (ofDecimal d).magnitude + 1 < v.magnitude by omega))
      linarith

theorem IsNearest.unique (hv : v.IsNearest d) (hw : w.IsNearest d) : v = w :=
  (isNearest_iff.1 hv).trans (isNearest_iff.1 hw).symm

end Binary32
end NCBlock
