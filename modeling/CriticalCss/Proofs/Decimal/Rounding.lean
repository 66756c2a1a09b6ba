import CriticalCss.Decimal.Binary
import Mathlib.Algebra.Order.Field.Power
import Mathlib.Algebra.Order.Field.Rat
import Mathlib.Data.Nat.Cast.Order.Field
import Mathlib.Tactic.FieldSimp
import Mathlib.Tactic.Linarith
import Mathlib.Tactic.NormNum
import Mathlib.Tactic.Positivity
import Mathlib.Tactic.Ring

/-! Rounding does not pass a number that needs none. What is at most the value of some binary number
is still at most that value once it is rounded itself, and so it is with decimals and with products
by powers of two.
-/

namespace CriticalCss.Decimal

--------------------------------------------------------------------------------
-- Powers
--------------------------------------------------------------------------------

/-- A power with an exponent of any sign is a quotient of two powers of whole numbers. -/
theorem zpow_eq_div {base : Nat} (positive : 0 < base) (exponent : Int)
    : (base : ℚ) ^ exponent
      = (Nat.pow base exponent.toNat : Nat) / (Nat.pow base (-exponent).toNat : Nat) := by
  have nonzero : (base : ℚ) ≠ 0 := by positivity
  obtain ⟨n, rfl | rfl⟩ := exponent.eq_nat_or_neg
  · simp
  · simp

/-- A whole number times a power of two is a quotient of whole numbers. -/
theorem mul_zpow_eq_div (n : Nat) (exponent : Int)
    : (n : ℚ) * 2 ^ exponent
      = (n * twoTo exponent.toNat : Nat) / (twoTo (-exponent).toNat : Nat) := by
  have power : (2 : ℚ) ^ exponent = _ := zpow_eq_div (by decide : 0 < 2) exponent
  rw [power, Nat.cast_mul, mul_div_assoc]
  rfl

theorem twoTo_pos (exponent : Nat) : 0 < twoTo exponent :=
  Nat.pow_pos (by decide)

--------------------------------------------------------------------------------
-- Values of binary numbers
--------------------------------------------------------------------------------

/-- The value of a positive finite binary number, or zero. -/
def IsBinary (value : ℚ) : Prop :=
  ∃ (mantissa : Nat) (exponent : Int),
    mantissa < 2 ^ 53 ∧ -1074 ≤ exponent ∧ exponent ≤ 971 ∧ value = mantissa * 2 ^ exponent

/-- A whole number that is the value of a binary number, and not negative. -/
def IsWholeBinary (n : Int) : Prop :=
  ∃ mantissa exponent : Nat, mantissa < 2 ^ 53 ∧ exponent ≤ 971 ∧ n = mantissa * 2 ^ exponent

/-- Every whole number that is not beyond the longest mantissa is a binary number. -/
theorem isWholeBinary_of_le {n : Int} (notNegative : 0 ≤ n) (small : n ≤ 2 ^ 53)
    : IsWholeBinary n := by
  obtain ⟨n, rfl⟩ := Int.eq_ofNat_of_zero_le notNegative
  by_cases largest : n = 2 ^ 53
  · exact ⟨2 ^ 52, 1, by decide, by decide, by simp [largest]⟩
  · exact ⟨n, 0, by omega, by decide, by simp⟩

/-- A whole binary number stays one that needs no rounding when it is halved several times. -/
theorem IsWholeBinary.isBinary_div {n : Int} (is : IsWholeBinary n) {power : Nat}
    (few : power ≤ 1074)
    : IsBinary (n / 2 ^ power) := by
  obtain ⟨mantissa, exponent, small, top, rfl⟩ := is
  refine ⟨mantissa, exponent - power, small, by omega, by omega, ?_⟩
  rw [zpow_sub₀ (by norm_num), zpow_natCast, zpow_natCast]
  push_cast
  ring

theorem IsWholeBinary.isBinary {n : Int} (is : IsWholeBinary n) : IsBinary n := by
  simpa using is.isBinary_div (Nat.zero_le 1074)

/-- A finite binary number of at most a given value, and not a negative one. -/
def Binary.IsWithin (number : Binary) (bound : ℚ) : Prop :=
  ∃ (mantissa : Nat) (exponent : Int),
    number = .finite false mantissa exponent ∧ (mantissa : ℚ) * 2 ^ exponent ≤ bound

theorem Binary.isWithin_zero {bound : ℚ} (notNegative : 0 ≤ bound)
    : (finite false 0 0).IsWithin bound :=
  ⟨0, 0, rfl, by simpa using notNegative⟩

theorem IsBinary.lt {value : ℚ} (is : IsBinary value) : value < 10 ^ 400 := by
  obtain ⟨mantissa, exponent, small, -, top, rfl⟩ := is
  have factor : (mantissa : ℚ) < 2 ^ 53 := by exact_mod_cast small
  have power : (2 : ℚ) ^ exponent ≤ 2 ^ 971 := by
    rw [← zpow_natCast]
    exact zpow_le_zpow_right₀ (by norm_num) top
  have largest : 2 ^ 53 * 2 ^ 971 < 10 ^ 400 := by decide +kernel
  calc (mantissa : ℚ) * 2 ^ exponent
      ≤ 2 ^ 53 * 2 ^ 971 := by gcongr
    _ < 10 ^ 400 := by exact_mod_cast largest

/-- A number in range stays within no whole bound that it exceeds. -/
theorem Binary.IsWithin.exceeds_eq_false {number : Binary} {bound : Int}
    (within : number.IsWithin bound)
    : number.exceeds bound = false := by
  obtain ⟨mantissa, exponent, rfl, le⟩ := within
  have positive : (0 : ℚ) < (twoTo (-exponent).toNat : Nat) := by exact_mod_cast twoTo_pos _
  rw [mul_zpow_eq_div, div_le_iff₀ positive] at le
  have whole
      : ((mantissa * twoTo exponent.toNat : Nat) : Int)
        ≤ bound * (twoTo (-exponent).toNat : Nat) := by
    exact_mod_cast le
  simpa [exceeds] using whole

/-- A finite binary number that has a given value, and not a negative one. -/
def Binary.IsExactly (number : Binary) (value : ℚ) : Prop :=
  ∃ (mantissa : Nat) (exponent : Int),
    number = .finite false mantissa exponent ∧ (mantissa : ℚ) * 2 ^ exponent = value

/-- A number in range exceeds the bounds that its value exceeds. -/
theorem Binary.IsExactly.exceeds_iff {number : Binary} {value : ℚ} (is : number.IsExactly value)
    (bound : Int)
    : number.exceeds bound = true ↔ bound < value := by
  obtain ⟨mantissa, exponent, rfl, rfl⟩ := is
  have positive : (0 : ℚ) < (twoTo (-exponent).toNat : Nat) := by exact_mod_cast twoTo_pos _
  rw [mul_zpow_eq_div, lt_div_iff₀ positive]
  simp only [exceeds, decide_eq_true_eq, Bool.false_eq_true, if_false]
  norm_cast

--------------------------------------------------------------------------------
-- Rounding quotients
--------------------------------------------------------------------------------

theorem roundDiv_le {num den bound : Nat} (positive : 0 < den) (le : num ≤ bound * den)
    : roundDiv num den ≤ bound := by
  have quotient : num / den ≤ bound := Nat.div_le_of_le_mul (by rwa [Nat.mul_comm])
  unfold roundDiv
  dsimp only
  split
  · exact quotient
  · rename_i above
    refine Nat.lt_of_le_of_ne quotient fun reached => above ?_
    -- at the bound itself nothing is left to round up
    have nothingLeft : num % den = 0 := by
      have parts := Nat.div_add_mod num den
      rw [reached, Nat.mul_comm] at parts
      omega
    simp [nothingLeft, positive]

/-- A quotient without a remainder needs no rounding. -/
theorem roundDiv_mul {den : Nat} (positive : 0 < den) (multiple : Nat)
    : roundDiv (multiple * den) den = multiple := by
  simp [roundDiv, Nat.mul_div_cancel _ positive, positive]

/-- A quotient in units of a power of two, as numerator and denominator. -/
def inUnits (num den : Nat) (exponent : Int) : Nat × Nat :=
  (num * twoTo (-exponent).toNat, den * twoTo exponent.toNat)

/-- The power of two whose multiples a quotient is rounded to. -/
def unitOf (num den : Nat) : Int :=
  let first : Int := (num.log2 : Int) - den.log2 - 52
  let reached := (inUnits num den first).1 / (inUnits num den first).2
  max (if reached < twoTo 52 then first - 1 else first) (-1074)

/-- A mantissa that has become too long is halved. -/
def carried (mantissa : Nat) (exponent : Int) : Nat × Int :=
  if mantissa = twoTo 53 then (twoTo 52, exponent + 1) else (mantissa, exponent)

theorem ofRatio_eq {num : Nat} (nonzero : num ≠ 0) (negative : Bool) (den : Nat)
    : ofRatio negative num den
      = (let unit := unitOf num den
        let quotient := inUnits num den unit
        let rounded := carried (roundDiv quotient.1 quotient.2) unit
        if 971 < rounded.2 then .infinite negative
        else .finite negative rounded.1 rounded.2) := by
  rw [ofRatio, if_neg nonzero]
  rfl

section Quotients

variable {num den : Nat} {bound : ℚ}

theorem inUnits_div (positive : 0 < den) (exponent : Int)
    : ((inUnits num den exponent).1 : ℚ) / (inUnits num den exponent).2
      = num / den / 2 ^ exponent := by
  have power : (2 : ℚ) ^ exponent = _ := zpow_eq_div (by decide : 0 < 2) exponent
  have up : (0 : ℚ) < (Nat.pow 2 exponent.toNat : Nat) := by exact_mod_cast twoTo_pos _
  have down : (0 : ℚ) < (Nat.pow 2 (-exponent).toNat : Nat) := by exact_mod_cast twoTo_pos _
  have own : (0 : ℚ) < den := by exact_mod_cast positive
  rw [power, inUnits]
  simp only [Nat.cast_mul, twoTo]
  field_simp

/-- Above the smallest unit a quotient has all the digits that a mantissa has room for. -/
theorem le_of_unitOf (some : num ≠ 0) (positive : 0 < den) (above : -1074 < unitOf num den)
    : (2 : ℚ) ^ 52 * 2 ^ unitOf num den ≤ num / den := by
  have own : (0 : ℚ) < den := by exact_mod_cast positive
  have low : (2 : ℚ) ^ num.log2 ≤ num := by exact_mod_cast Nat.log2_self_le some
  have high : (den : ℚ) ≤ 2 ^ (den.log2 + 1) := by exact_mod_cast Nat.lt_log2_self.le
  let first : Int := (num.log2 : Int) - den.log2 - 52
  let reached := (inUnits num den first).1 / (inUnits num den first).2
  have unit : unitOf num den = max (if reached < twoTo 52 then first - 1 else first) (-1074) := rfl
  by_cases short : reached < twoTo 52
  · have is : unitOf num den = first - 1 := by
      rw [unit, if_pos short] at above ⊢
      omega
    rw [is, le_div_iff₀ own]
    calc (2 : ℚ) ^ 52 * 2 ^ (first - 1) * den
        ≤ 2 ^ 52 * 2 ^ (first - 1) * 2 ^ (den.log2 + 1) := by gcongr
      _ = 2 ^ num.log2 := by
        rw [← zpow_natCast, ← zpow_natCast, ← zpow_natCast, ← zpow_add₀ (by norm_num),
          ← zpow_add₀ (by norm_num)]
        refine congrArg ((2 : ℚ) ^ ·) ?_
        simp only [first]
        push_cast
        ring
      _ ≤ num := low
  · have is : unitOf num den = first := by
      rw [unit, if_neg short] at above ⊢
      omega
    have floor : (reached : ℚ) ≤ num / den / 2 ^ first := by
      rw [← inUnits_div positive]
      exact Nat.cast_div_le
    have long : (2 : ℚ) ^ 52 ≤ reached := by exact_mod_cast Nat.le_of_not_lt short
    rw [is]
    exact (le_div_iff₀ (by positivity)).mp (long.trans floor)

/-- A quotient is rounded to no coarser multiples than those that a bound of it needs: otherwise it
would have too many digits for the bound. -/
theorem unitOf_le {mantissa : Nat} {exponent : Int} (some : num ≠ 0) (positive : 0 < den)
    (small : mantissa < 2 ^ 53) (bottom : -1074 ≤ exponent)
    (le : (num : ℚ) / den ≤ mantissa * 2 ^ exponent)
    : unitOf num den ≤ exponent := by
  by_contra fine
  have digits := le_of_unitOf some positive (by omega)
  have factor : (mantissa : ℚ) < 2 ^ 53 := by exact_mod_cast small
  have power : (2 : ℚ) ^ (exponent + 1) ≤ 2 ^ unitOf num den :=
    zpow_le_zpow_right₀ (by norm_num) (by omega)
  have more : (2 : ℚ) ^ 53 * 2 ^ exponent ≤ 2 ^ 52 * 2 ^ unitOf num den := by
    calc (2 : ℚ) ^ 53 * 2 ^ exponent
        = 2 ^ 52 * 2 ^ (exponent + 1) := by rw [zpow_add_one₀ (by norm_num)]; ring
      _ ≤ 2 ^ 52 * 2 ^ unitOf num den := by gcongr
  have less : (mantissa : ℚ) * 2 ^ exponent < 2 ^ 53 * 2 ^ exponent := by gcongr
  linarith

/-- Rounding to multiples of a unit does not pass such a multiple. -/
theorem roundDiv_inUnits_le {multiple : Nat} {unit : Int} (positive : 0 < den)
    (le : (num : ℚ) / den ≤ multiple * 2 ^ unit)
    : roundDiv (inUnits num den unit).1 (inUnits num den unit).2 ≤ multiple := by
  have below : 0 < (inUnits num den unit).2 := Nat.mul_pos positive (twoTo_pos _)
  have bounded : (num : ℚ) / den / 2 ^ unit ≤ multiple := by rwa [div_le_iff₀ (by positivity)]
  rw [← inUnits_div positive, div_le_iff₀ (by exact_mod_cast below)] at bounded
  exact roundDiv_le below (by exact_mod_cast bounded)

/-- Rounding to multiples of a unit does not change such a multiple. -/
theorem roundDiv_inUnits_eq {multiple : Nat} {unit : Int} (positive : 0 < den)
    (same : (num : ℚ) / den = multiple * 2 ^ unit)
    : roundDiv (inUnits num den unit).1 (inUnits num den unit).2 = multiple := by
  have below : 0 < (inUnits num den unit).2 := Nat.mul_pos positive (twoTo_pos _)
  have whole : (num : ℚ) / den / 2 ^ unit = multiple := by rw [same]; field_simp
  rw [← inUnits_div positive, div_eq_iff (by exact_mod_cast below.ne')] at whole
  have product : (inUnits num den unit).1 = multiple * (inUnits num den unit).2 := by
    exact_mod_cast whole
  rw [product]
  exact roundDiv_mul below multiple

/-- A multiple of a power of two in finer units. -/
theorem multiple_eq {mantissa steps : Nat} {exponent unit : Int} (sum : exponent = steps + unit)
    : (mantissa : ℚ) * 2 ^ exponent = (mantissa * 2 ^ steps : Nat) * 2 ^ unit := by
  rw [sum, zpow_add₀ (by norm_num), zpow_natCast]
  push_cast
  ring

/-- A carry changes the form of a number, and not its value. -/
theorem carried_mul_zpow (mantissa : Nat) (exponent : Int)
    : ((carried mantissa exponent).1 : ℚ) * 2 ^ (carried mantissa exponent).2
      = mantissa * 2 ^ exponent := by
  unfold carried
  split
  · rename_i long
    have halves : (twoTo 53 : ℚ) = twoTo 52 * 2 := by norm_num [twoTo]
    rw [long, halves, zpow_add_one₀ (by norm_num)]
    ring
  · rfl

/-- A quotient that is at most a binary number is rounded to a finite one: to multiples of a unit
that is no coarser than that of the bound.
-/
theorem exists_ofRatio (some : num ≠ 0) (positive : 0 < den) {mantissa : Nat} {exponent : Int}
    (small : mantissa < 2 ^ 53) (bottom : -1074 ≤ exponent) (top : exponent ≤ 971)
    (le : (num : ℚ) / den ≤ mantissa * 2 ^ exponent)
    : ∃ (unit : Int) (steps : Nat) (number : Nat × Int),
        exponent = steps + unit
        ∧ ofRatio false num den = .finite false number.1 number.2
        ∧ (number.1 : ℚ) * 2 ^ number.2
          = roundDiv (inUnits num den unit).1 (inUnits num den unit).2 * 2 ^ unit := by
  have coarse := unitOf_le some positive small bottom le
  obtain ⟨steps, exponent_eq⟩ := Int.eq_ofNat_of_zero_le (Int.sub_nonneg_of_le coarse)
  have sum : exponent = steps + unitOf num den := by omega
  have rounded := roundDiv_inUnits_le positive (le.trans_eq (multiple_eq sum))
  -- a carry out of the largest unit would be beyond the bound
  have room {reached : Nat} (rounded : reached ≤ mantissa * 2 ^ steps)
      : (carried reached (unitOf num den)).2 ≤ 971 := by
    unfold carried
    split
    · rename_i long
      refine lt_of_le_of_ne (coarse.trans top) fun largest => ?_
      have none : steps = 0 := by omega
      subst none
      have reachedLess : twoTo 53 ≤ mantissa := by simpa [long] using rounded
      exact absurd small (Nat.not_lt.mpr reachedLess)
    · exact coarse.trans top
  refine ⟨unitOf num den, steps, _, sum, ?_, carried_mul_zpow _ _⟩
  rw [ofRatio_eq some]
  exact if_neg (not_lt.mpr (room rounded))

/-- A quotient that is at most a binary number is rounded to one that is. -/
theorem isWithin_ofRatio (positive : 0 < den) (is : IsBinary bound) (le : (num : ℚ) / den ≤ bound)
    : (ofRatio false num den).IsWithin bound := by
  by_cases some : num = 0
  · subst some
    exact Binary.isWithin_zero (by simpa using le)
  obtain ⟨mantissa, exponent, small, bottom, top, rfl⟩ := is
  obtain ⟨unit, steps, number, sum, finite, value⟩ :=
    exists_ofRatio some positive small bottom top le
  have multiple : (mantissa : ℚ) * 2 ^ exponent = (mantissa * 2 ^ steps : Nat) * 2 ^ unit :=
    multiple_eq sum
  refine ⟨_, _, finite, ?_⟩
  rw [multiple] at le ⊢
  rw [value]
  gcongr
  exact roundDiv_inUnits_le positive le

/-- A quotient that is a binary number is not changed by rounding. -/
theorem isExactly_ofRatio (positive : 0 < den) (is : IsBinary bound)
    (same : (num : ℚ) / den = bound)
    : (ofRatio false num den).IsExactly bound := by
  by_cases some : num = 0
  · subst some
    exact ⟨0, 0, rfl, by simpa using same⟩
  obtain ⟨mantissa, exponent, small, bottom, top, rfl⟩ := is
  obtain ⟨unit, steps, number, sum, finite, value⟩ :=
    exists_ofRatio some positive small bottom top same.le
  have multiple : (mantissa : ℚ) * 2 ^ exponent = (mantissa * 2 ^ steps : Nat) * 2 ^ unit :=
    multiple_eq sum
  refine ⟨_, _, finite, value.trans ?_⟩
  rw [multiple] at same ⊢
  rw [roundDiv_inUnits_eq positive same]

end Quotients

--------------------------------------------------------------------------------
-- Rounding decimals and products
--------------------------------------------------------------------------------

/-- A number is at least the power of ten that has as many digits. -/
theorem pow_digitCount_le {n : Nat} (some : n ≠ 0) : 10 ^ (digitCount n - 1) ≤ n := by
  by_contra less
  have few : digitCount n - 1 ≠ 0 := fun none => by
    rw [none] at less
    omega
  have shorter := (Nat.length_toDigits_le_iff (by decide) (Nat.pos_of_ne_zero few)).mpr
    (Nat.lt_of_not_le less)
  have counted : 0 < digitCount n := Nat.length_toDigits_pos
  unfold digitCount at shorter counted
  omega

/-- A decimal that is at most a binary number is rounded to one that is. -/
theorem isWithin_ofDecimal {digits : Nat} {exponent : Int} {bound : ℚ} (is : IsBinary bound)
    (le : (digits : ℚ) * 10 ^ exponent ≤ bound)
    : (ofDecimal false digits exponent).IsWithin bound := by
  have notNegative : 0 ≤ bound := le_trans (by positivity) le
  unfold ofDecimal
  split
  · exact Binary.isWithin_zero notNegative
  rename_i some
  split
  · rename_i huge
    -- so many digits in front of the point would be beyond every binary number
    have leading : (10 : ℚ) ^ (digitCount digits - 1) ≤ digits := by
      exact_mod_cast pow_digitCount_le some
    have counted : 0 < digitCount digits := Nat.length_toDigits_pos
    have many : (10 : ℚ) ^ 400 ≤ digits * 10 ^ exponent := by
      calc (10 : ℚ) ^ 400
          = 10 ^ (400 : Int) := (zpow_natCast 10 400).symm
        _ ≤ 10 ^ (((digitCount digits - 1 : Nat) : Int) + exponent) :=
          zpow_le_zpow_right₀ (by norm_num) (by omega)
        _ = 10 ^ (digitCount digits - 1) * 10 ^ exponent := by
          rw [zpow_add₀ (by norm_num), zpow_natCast]
        _ ≤ digits * 10 ^ exponent := by gcongr
    exact absurd (many.trans le) (not_le.mpr is.lt)
  split
  · exact Binary.isWithin_zero notNegative
  · have power : (10 : ℚ) ^ exponent = _ := zpow_eq_div (by decide : 0 < 10) exponent
    refine isWithin_ofRatio (Nat.pow_pos (by decide)) is ?_
    rw [power, ← mul_div_assoc] at le
    simpa [tenTo] using le

/-- A whole number with few digits is read as itself. -/
theorem isExactly_ofDecimal {n : Nat} (small : n < 2 ^ 53) : (ofDecimal false n 0).IsExactly n := by
  unfold ofDecimal
  split
  · rename_i none
    exact ⟨0, 0, rfl, by simp [none]⟩
  rename_i some
  have few : digitCount n ≤ 16 :=
    (Nat.length_toDigits_le_iff (by decide) (by decide)).mpr (by omega)
  rw [if_neg (by omega), if_neg (by omega)]
  have is : IsBinary n := ⟨n, 0, small, by omega, by omega, by simp⟩
  exact isExactly_ofRatio (Nat.pow_pos (by decide)) is (by simp [tenTo])

/-- A product by a power of two that is a binary number is not changed by rounding. -/
theorem Binary.IsExactly.scale {number : Binary} {value : ℚ} (is : number.IsExactly value)
    {power : Nat} (product : IsBinary (value * 2 ^ power))
    : (number.scale power).IsExactly (value * 2 ^ power) := by
  obtain ⟨mantissa, exponent, rfl, rfl⟩ := is
  refine isExactly_ofRatio (twoTo_pos _) product ?_
  rw [← mul_zpow_eq_div, zpow_add₀ (by norm_num), zpow_natCast, ← mul_assoc]

/-- A product by a power of two that is at most a binary number is rounded to one that is. -/
theorem isWithin_scale {mantissa power : Nat} {exponent : Int} {bound : ℚ} (is : IsBinary bound)
    (le : (mantissa : ℚ) * 2 ^ exponent * 2 ^ power ≤ bound)
    : ((Binary.finite false mantissa exponent).scale power).IsWithin bound := by
  refine isWithin_ofRatio (twoTo_pos _) is ?_
  rw [← mul_zpow_eq_div, zpow_add₀ (by norm_num), zpow_natCast, ← mul_assoc]
  exact le

end CriticalCss.Decimal
