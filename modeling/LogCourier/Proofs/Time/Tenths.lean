import LogCourier.Time.Span
import Mathlib.Algebra.Order.Field.Power
import Mathlib.Data.Rat.Cast.Order
import Mathlib.Tactic.FieldSimp
import Mathlib.Tactic.Linarith
import Mathlib.Tactic.NormNum
import Mathlib.Tactic.Positivity
import Mathlib.Tactic.Ring

/-! Nine tenths of a span, computed in double precision, are right to the nearest nanosecond. -/

namespace LogCourier

/-- A rounded quotient is at most half away from the exact one. -/
theorem roundDiv_near (num : Nat) {den : Nat} (positive : 0 < den) :
    2 * (roundDiv num den * den) ≤ 2 * num + den ∧
      2 * num ≤ 2 * (roundDiv num den * den) + den := by
  have parts := Nat.div_add_mod num den
  have below := Nat.mod_lt num positive
  have product : den * (num / den) = num / den * den := Nat.mul_comm _ _
  -- Off the tie, the neighbour that is chosen is the one nearer to the quotient.
  simp only [roundDiv]
  split
  · omega
  · split
    · rw [Nat.add_mul]
      omega
    · -- The remainder is exactly half, so either neighbour will do.
      have tied := Tie.settle_bounds .toEven (num / den)
      have low := Nat.mul_le_mul_right den tied.1
      have high := Nat.mul_le_mul_right den tied.2
      rw [Nat.add_mul] at high
      omega

/-- A rounded quotient is within a half of the exact one. -/
theorem abs_roundDiv_sub_le (num : Nat) {den : Nat} (positive : 0 < den) :
    |(roundDiv num den : ℚ) - num / den| ≤ 1 / 2 := by
  obtain ⟨high, low⟩ := roundDiv_near num positive
  have above : (0 : ℚ) < den := by exact_mod_cast positive
  have upper : 2 * ((roundDiv num den : ℚ) * den) ≤ 2 * num + den := by exact_mod_cast high
  have lower : 2 * (num : ℚ) ≤ 2 * (roundDiv num den * den) + den := by exact_mod_cast low
  -- Over the common denominator the difference is at most half of it.
  have joined : (roundDiv num den : ℚ) - num / den = (roundDiv num den * den - num) / den := by
    field_simp
  rw [joined, abs_le, le_div_iff₀ above, div_le_iff₀ above]
  constructor <;> linarith

namespace Binary

/-- The number that a significand and an exponent stand for. -/
def value (number : Binary) : ℚ :=
  number.significand * 2 ^ number.exponent

/-- A power of two is the quotient of the powers of the two parts of its exponent. -/
theorem two_zpow_eq (exponent : Int) :
    (2 : ℚ) ^ exponent = 2 ^ exponent.toNat / 2 ^ (-exponent).toNat := by
  -- One of the two parts is zero.
  cases exponent with
  | ofNat up => simp
  | negSucc down => simp [zpow_negSucc]

/-- The numerator and the denominator of a binary number make up its value. -/
theorem num_div_den (number : Binary) : (number.num : ℚ) / number.den = number.value := by
  -- A negative exponent goes into the denominator and a positive one into the numerator.
  have up : Nat.pow 2 number.exponent.toNat = 2 ^ number.exponent.toNat := rfl
  have down : Nat.pow 2 (-number.exponent).toNat = 2 ^ (-number.exponent).toNat := rfl
  rw [value, two_zpow_eq, num, den, up, down]
  push_cast
  ring

/-- The denominator of a binary number is positive. -/
theorem den_pos (number : Binary) : 0 < number.den :=
  Nat.two_pow_pos _

/-- The fraction that stands for a sum. -/
theorem value_add (left right : Binary) :
    ((left.num * right.den + right.num * left.den : Nat) : ℚ) / (left.den * right.den : Nat) =
      left.value + right.value := by
  -- Neither denominator is zero, as both are powers of two.
  have above : (left.den : ℚ) ≠ 0 := by exact_mod_cast left.den_pos.ne'
  have beyond : (right.den : ℚ) ≠ 0 := by exact_mod_cast right.den_pos.ne'
  rw [← num_div_den, ← num_div_den]
  push_cast
  field_simp

/-- The fraction that stands for a product. -/
theorem value_mul (left right : Binary) :
    ((left.num * right.num : Nat) : ℚ) / (left.den * right.den : Nat) =
      left.value * right.value := by
  -- Numerators and denominators are multiplied each with each.
  rw [← num_div_den, ← num_div_den]
  push_cast
  ring

/-- Rounding at a binary place moves a quotient by at most half of that place. -/
theorem abs_roundedAt_sub_le (num : Nat) {den : Nat} (positive : 0 < den) (place : Int) :
    |(roundedAt num den place).value - num / den| ≤ 2 ^ place / 2 := by
  have unit : (0 : ℚ) < 2 ^ place := by positivity
  have scaled : 0 < den * Nat.pow 2 place.toNat := Nat.mul_pos positive (Nat.two_pow_pos _)
  have near := abs_roundDiv_sub_le (num * Nat.pow 2 (-place).toNat) scaled
  -- The scaled quotient counts how many units of the place make up the quotient.
  have count : ((num * Nat.pow 2 (-place).toNat : Nat) : ℚ) / (den * Nat.pow 2 place.toNat : Nat) =
      num / den / 2 ^ place := by
    have up : Nat.pow 2 place.toNat = 2 ^ place.toNat := rfl
    have down : Nat.pow 2 (-place).toNat = 2 ^ (-place).toNat := rfl
    rw [two_zpow_eq, up, down]
    push_cast
    field_simp
  rw [count] at near
  calc |(roundedAt num den place).value - num / den|
      = |((roundDiv (num * Nat.pow 2 (-place).toNat) (den * Nat.pow 2 place.toNat) : ℚ) -
          num / den / 2 ^ place) * 2 ^ place| := by
        rw [sub_mul, div_mul_cancel₀ _ unit.ne']
        rfl
    _ ≤ 1 / 2 * 2 ^ place := by
        rw [abs_mul, abs_of_pos unit]
        exact mul_le_mul_of_nonneg_right near unit.le
    _ = 2 ^ place / 2 := by ring

/-- The difference of the binary logarithms estimates the leading place of a quotient. -/
theorem two_zpow_log2_le {num den : Nat} (nonzero : num ≠ 0) (positive : 0 < den) :
    (2 : ℚ) ^ ((num.log2 : Int) - den.log2 - 1) ≤ num / den := by
  have above : (0 : ℚ) < den := by exact_mod_cast positive
  -- A number is at least the power of its logarithm and below the next one.
  have low : (2 : ℚ) ^ num.log2 ≤ num := by exact_mod_cast Nat.log2_self_le nonzero
  have high : (den : ℚ) ≤ 2 ^ (den.log2 + 1) := by
    exact_mod_cast (Nat.lt_log2_self (n := den)).le
  calc (2 : ℚ) ^ ((num.log2 : Int) - den.log2 - 1) = 2 ^ num.log2 / 2 ^ (den.log2 + 1) := by
        rw [← zpow_natCast, ← zpow_natCast, ← zpow_sub₀ two_ne_zero]
        congr 1
        push_cast
        ring
    _ ≤ num / den := by gcongr

/-- A place that fits a quotient is within it. -/
theorem two_zpow_le_of_fits {num den : Nat} (positive : 0 < den) {place : Int}
    (fits : den * Nat.pow 2 place.toNat ≤ num * Nat.pow 2 (-place).toNat) :
    (2 : ℚ) ^ place ≤ num / den := by
  -- The comparison in natural numbers is one of cross products.
  have above : (0 : ℚ) < den := by exact_mod_cast positive
  have cross : (den : ℚ) * 2 ^ place.toNat ≤ num * 2 ^ (-place).toNat := by exact_mod_cast fits
  rw [two_zpow_eq, div_le_div_iff₀ (by positivity) above]
  linarith

/-- The nearest double is off by at most one part in two to the fifty-third. -/
theorem abs_nearest_sub_le (num : Nat) {den : Nat} (positive : 0 < den) :
    |(nearest num den).value - num / den| ≤ num / den / 2 ^ 53 := by
  unfold nearest
  split
  · next none => simp [value, none]
  · next nonzero =>
    dsimp only
    -- Whichever way the estimate is corrected, the leading place is within the quotient.
    generalize estimate : (num.log2 : Int) - den.log2 = leading
    have within : (2 : ℚ) ^ (if den * Nat.pow 2 leading.toNat ≤
        num * Nat.pow 2 (-leading).toNat then leading else leading - 1) ≤ num / den := by
      split
      · next fits => exact two_zpow_le_of_fits positive fits
      · exact estimate ▸ two_zpow_log2_le nonzero positive
    generalize (if den * Nat.pow 2 leading.toNat ≤
        num * Nat.pow 2 (-leading).toNat then leading else leading - 1) = leading at within ⊢
    -- The last of the 53 places is 52 places behind the leading one, and half of it may be lost.
    calc |(roundedAt num den (leading - 52)).value - num / den| ≤ 2 ^ (leading - 52) / 2 :=
          abs_roundedAt_sub_le num positive _
      _ = 2 ^ leading / 2 ^ 53 := by
          rw [zpow_sub₀ two_ne_zero]
          norm_num
          ring
      _ ≤ num / den / 2 ^ 53 := by gcongr

end Binary

namespace Span

/-- An approximation that a number of roundings to doubles have moved. -/
def WithinRoundings (roundings : Nat) (exact approximate : ℚ) : Prop :=
  exact * (1 - 1 / 2 ^ 53) ^ roundings ≤ approximate ∧
    approximate ≤ exact * (1 + 1 / 2 ^ 53) ^ roundings

/-- Rounding a quotient to a double is one more rounding. -/
theorem WithinRoundings.nearest {roundings num den : Nat} {exact : ℚ} (positive : 0 < den)
    (drifted : WithinRoundings roundings exact (num / den : ℚ)) :
    WithinRoundings (roundings + 1) exact (Binary.nearest num den).value := by
  have near := abs_le.1 (Binary.abs_nearest_sub_le num positive)
  obtain ⟨low, high⟩ := drifted
  -- The rounding moves the quotient by its part of it, and the quotient has drifted already.
  constructor
  · calc exact * (1 - 1 / 2 ^ 53) ^ (roundings + 1)
        = exact * (1 - 1 / 2 ^ 53) ^ roundings * (1 - 1 / 2 ^ 53) := by
          rw [pow_succ _ roundings, mul_assoc]
      _ ≤ (num / den : ℚ) * (1 - 1 / 2 ^ 53) := mul_le_mul_of_nonneg_right low (by norm_num)
      _ ≤ (Binary.nearest num den).value := by linarith [near.1]
  · calc (Binary.nearest num den).value ≤ (num / den : ℚ) * (1 + 1 / 2 ^ 53) := by
          linarith [near.2]
      _ ≤ exact * (1 + 1 / 2 ^ 53) ^ roundings * (1 + 1 / 2 ^ 53) :=
          mul_le_mul_of_nonneg_right high (by norm_num)
      _ = exact * (1 + 1 / 2 ^ 53) ^ (roundings + 1) := by rw [pow_succ _ roundings, mul_assoc]

/-- A sum drifts as its parts do. -/
theorem WithinRoundings.add {roundings : Nat} {first second near close : ℚ}
    (front : WithinRoundings roundings first near) (back : WithinRoundings roundings second close) :
    WithinRoundings roundings (first + second) (near + close) := by
  obtain ⟨low, high⟩ := front
  obtain ⟨lower, higher⟩ := back
  -- The bounds of the two parts add up.
  constructor <;> linarith

/-- The drifts of the factors add up in a product. -/
theorem WithinRoundings.mul {left right : Nat} {first second near close : ℚ} (nonneg : 0 ≤ first)
    (positive : 0 ≤ second) (front : WithinRoundings left first near)
    (back : WithinRoundings right second close) :
    WithinRoundings (left + right) (first * second) (near * close) := by
  have small : (0 : ℚ) ≤ 1 - 1 / 2 ^ 53 := by norm_num
  obtain ⟨low, high⟩ := front
  obtain ⟨lower, higher⟩ := back
  -- Bounds are multiplied, which takes that even the lower ones are not negative.
  have bottom : 0 ≤ first * (1 - 1 / 2 ^ 53) ^ left := by positivity
  have base : 0 ≤ second * (1 - 1 / 2 ^ 53) ^ right := by positivity
  constructor
  · calc first * second * (1 - 1 / 2 ^ 53) ^ (left + right)
        = first * (1 - 1 / 2 ^ 53) ^ left * (second * (1 - 1 / 2 ^ 53) ^ right) := by ring
      _ ≤ near * close := mul_le_mul low lower base (bottom.trans low)
  · calc near * close
        ≤ first * (1 + 1 / 2 ^ 53) ^ left * (second * (1 + 1 / 2 ^ 53) ^ right) :=
          mul_le_mul high higher (base.trans lower) (by positivity)
      _ = first * second * (1 + 1 / 2 ^ 53) ^ (left + right) := by ring

/-- A fraction is not drifted before it is rounded. -/
theorem WithinRoundings.exactly (exact : ℚ) : WithinRoundings 0 exact exact := by
  simp [WithinRoundings]

/-- Seconds in double precision have drifted by two roundings, of the parts and of their sum. -/
theorem drifted_inSeconds (span : Span) :
    WithinRoundings 2 (span.nanos / 10 ^ 9) span.inSeconds.value := by
  have whole : WithinRoundings 1 span.seconds (Binary.nearest span.seconds 1).value :=
    .nearest (by decide) (by simpa using WithinRoundings.exactly _)
  have fraction : WithinRoundings 1 (span.subseconds / perSecond)
      (Binary.nearest span.subseconds perSecond).value :=
    .nearest (by decide) (.exactly _)
  -- The parts make up the span again, and the fraction that is rounded is the sum of theirs.
  have parts : (span.nanos : ℚ) / 10 ^ 9 = span.seconds + span.subseconds / perSecond := by
    have joined : perSecond * span.seconds + span.subseconds = span.nanos := Nat.div_add_mod _ _
    rw [← joined, perSecond]
    push_cast
    ring
  refine WithinRoundings.nearest (Nat.mul_pos (Binary.den_pos _) (Binary.den_pos _)) ?_
  rw [parts, Binary.value_add]
  exact whole.add fraction

/-- Nine tenths in double precision have drifted by four roundings before the last one. -/
theorem drifted_nineTenths (span : Span) :
    WithinRoundings 4 (span.nanos / 10 ^ 9 * (9 / 10)) (Binary.nearest
      (span.inSeconds.num * nineTenthsFactor.num)
      (span.inSeconds.den * nineTenthsFactor.den)).value := by
  -- Two of them are in the seconds, one in the factor, and one in the product.
  have factor : WithinRoundings 1 (9 / 10) nineTenthsFactor.value :=
    .nearest (by decide) (WithinRoundings.exactly _)
  refine WithinRoundings.nearest (Nat.mul_pos (Binary.den_pos _) (Binary.den_pos _)) ?_
  rw [Binary.value_mul]
  exact (drifted_inSeconds span).mul (by positivity) (by norm_num) factor

/-- Nine tenths are a product that has drifted by four roundings, to the nearest nanosecond. -/
theorem nineTenths_rounded (span : Span) :
    ∃ product, WithinRoundings 4 (span.nanos / 10 ^ 9 * (9 / 10)) product ∧
      |(span.nineTenths.nanos : ℚ) - product * 10 ^ 9| ≤ 1 / 2 := by
  refine ⟨_, drifted_nineTenths span, ?_⟩
  generalize product : Binary.nearest (span.inSeconds.num * nineTenthsFactor.num)
    (span.inSeconds.den * nineTenthsFactor.den) = number
  have result : span.nineTenths.nanos = roundDiv (number.num * perSecond) number.den := by
    rw [← product]
    rfl
  -- The product is in seconds, and the last rounding is to whole nanoseconds.
  have near := abs_roundDiv_sub_le (number.num * perSecond) number.den_pos
  have scaled : ((number.num * perSecond : Nat) : ℚ) / number.den = number.value * 10 ^ 9 := by
    rw [← number.num_div_den, perSecond]
    push_cast
    ring
  rwa [← result, scaled] at near

/-- Nine tenths are right to the nearest nanosecond, up to a day. -/
theorem nineTenths_near {span : Span} (day : span.nanos ≤ 86400 * 10 ^ 9) :
    10 * span.nineTenths.nanos ≤ 9 * span.nanos + 5 ∧
      9 * span.nanos ≤ 10 * span.nineTenths.nanos + 5 := by
  obtain ⟨product, ⟨low, high⟩, rounded⟩ := nineTenths_rounded span
  have near := abs_le.1 rounded
  have short : (span.nanos : ℚ) ≤ 86400 * 10 ^ 9 := by exact_mod_cast day
  -- The drift of four roundings stays below a tenth of a nanosecond over a day.
  have upper : (10 * span.nineTenths.nanos : ℚ) < 9 * span.nanos + 6 := by
    norm_num at high
    linarith [near.2]
  have lower : (9 * span.nanos : ℚ) < 10 * span.nineTenths.nanos + 6 := by
    norm_num at low
    linarith [near.1]
  -- Between whole numbers, less than six tenths are no more than five.
  constructor
  · have whole : 10 * span.nineTenths.nanos < 9 * span.nanos + 6 := by exact_mod_cast upper
    omega
  · have whole : 9 * span.nanos < 10 * span.nineTenths.nanos + 6 := by exact_mod_cast lower
    omega

/-- Nine tenths of a span of any length are off by at most half a nanosecond and one part of the
    span in two to the fiftieth. -/
theorem abs_nineTenths_sub_le (span : Span) :
    |(span.nineTenths.nanos : ℚ) - span.nanos * (9 / 10)| ≤ span.nanos / 2 ^ 50 + 1 / 2 := by
  obtain ⟨product, ⟨low, high⟩, rounded⟩ := nineTenths_rounded span
  have near := abs_le.1 rounded
  have long : (0 : ℚ) ≤ span.nanos := by positivity
  -- Four roundings move the product by less than one part in two to the fiftieth.
  rw [abs_le]
  constructor
  · norm_num at low ⊢
    linarith [near.1]
  · norm_num at high ⊢
    linarith [near.2]

/-- Nine tenths of a span are no longer than the span itself. -/
theorem nineTenths_le (span : Span) : span.nineTenths.nanos ≤ span.nanos := by
  have near := (abs_le.1 (abs_nineTenths_sub_le span)).2
  have long : (0 : ℚ) ≤ span.nanos := by positivity
  -- They are longer by less than a whole nanosecond, and so not at all.
  have below : (span.nineTenths.nanos : ℚ) < span.nanos + 1 := by
    norm_num at near
    linarith
  have whole : span.nineTenths.nanos < span.nanos + 1 := by exact_mod_cast below
  omega

/-- Of every span that can be told, nine tenths can be told. -/
theorem nineTenths?_eq_some {span : Span} (fits : span.nanos ≤ longest.nanos) :
    span.nineTenths? = some span.nineTenths :=
  if_pos (span.nineTenths_le.trans fits)

end Span

end LogCourier
