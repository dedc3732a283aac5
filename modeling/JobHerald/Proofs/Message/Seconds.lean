import Mathlib
import JobHerald.Calendar.Timestamp

/-!
# Whole seconds of a span

The seconds of a span are a ratio that is rounded to a double before it is cut to a whole number.
The double may lie above the ratio.  But a ratio that is not whole lies at least one unit of its
denominator below the next whole number, and below `2 ^ 34` seconds the doubles are so dense that
half of their distance is less than a microsecond: no rounding reaches the next second.

## Main results

* `Binary64.roundDiv_div` — rounding on a fine grid keeps the whole part.
* `Binary64.exponentOf_le` — small ratios lie on a fine grid.
* `Binary64.truncate?_ofRatio` — **the double nearest to a small ratio has its whole part.**
* `Timestamp.seconds_eq_tdiv` — the same for spans of less than `2 ^ 34` seconds.
-/

namespace JobHerald

namespace Binary64

/-! ### Rounding on a grid -/

variable {num den p k : Nat}

/-- A quotient is rounded up by no more than a half, ties included. -/
theorem two_mul_roundDiv_le (num : Nat) {den : Nat} (h : 0 < den) :
    2 * (roundDiv num den * den) ≤ 2 * num + den := by
  have hsplit : num / den * den + num % den = num := Nat.div_add_mod' num den
  have hodd : num / den % 2 = 0 ∨ num / den % 2 = 1 := by omega
  simp only [roundDiv]
  split
  · omega
  · split
    · rw [Nat.add_mul]
      omega
    -- on a tie the even neighbour is taken
    · rcases hodd with heven | hodd
      · rw [heven, Nat.add_zero]
        omega
      · rw [hodd, Nat.add_mul]
        omega

/-- A quotient is not rounded down below a whole number. -/
theorem le_roundDiv {q : Nat} (hden : 0 < den) (h : q * den ≤ num) : q ≤ roundDiv num den := by
  have hq : q ≤ num / den := (Nat.le_div_iff_mul_le hden).mpr h
  simp only [roundDiv]
  split
  · exact hq
  · split <;> omega

/-- Rounding on a grid whose half distance is below one unit of the denominator keeps the whole
part. -/
theorem roundDiv_div (num : Nat) (hden : 0 < den) (hp : den < 2 * p) :
    roundDiv (num * p) den / p = num / den := by
  have hsplit : num / den * den + num % den = num := Nat.div_add_mod' num den
  have hrest : num % den < den := Nat.mod_lt num hden
  apply Nat.div_eq_of_lt_le
  · refine le_roundDiv hden ?_
    calc num / den * p * den = num / den * den * p := Nat.mul_right_comm _ p den
      _ ≤ num * p := Nat.mul_le_mul_right p (Nat.div_mul_le_self num den)
  · -- the ratio lies one unit of the denominator below the next whole number
    have hbelow : num * p + p ≤ (num / den + 1) * p * den := by
      calc num * p + p = (num + 1) * p := (Nat.succ_mul num p).symm
        _ ≤ (num / den + 1) * den * p := Nat.mul_le_mul_right p (by rw [Nat.add_mul]; omega)
        _ = (num / den + 1) * p * den := Nat.mul_right_comm _ den p
    have hround := two_mul_roundDiv_le (num * p) hden
    refine Nat.lt_of_mul_lt_mul_right (a := den) ?_
    omega

/-! ### The grid of a ratio -/

theorem scaled_of_neg {e : Int} (h : e < 0) (num den : Nat) :
    scaled num den e = (num * 2 ^ (-e).toNat, den) := if_neg (by omega)

/-- A positive ratio below `2 ^ (53 - k)` lies on the grid of the doubles whose last bit counts at
most `2 ^ -k`. -/
theorem exponentOf_le (hnum : 0 < num) (hk : 2 ≤ k) (hk' : k ≤ 1074)
    (h : num * 2 ^ k < 2 ^ 53 * den) : exponentOf num den ≤ -k := by
  -- the guess is off by one at most, since both logarithms are rounded down
  have hguess : (num.log2 : Int) - den.log2 - 52 ≤ 1 - k := by
    have hnum' : 2 ^ num.log2 ≤ num := Nat.log2_self_le (by omega)
    have hden' : den < 2 ^ (den.log2 + 1) := Nat.lt_log2_self
    have hpow : 2 ^ (num.log2 + k) < 2 ^ (53 + (den.log2 + 1)) := by
      calc 2 ^ (num.log2 + k) = 2 ^ num.log2 * 2 ^ k := Nat.pow_add 2 _ k
        _ ≤ num * 2 ^ k := Nat.mul_le_mul_right _ hnum'
        _ < 2 ^ 53 * den := h
        _ ≤ 2 ^ 53 * 2 ^ (den.log2 + 1) := Nat.mul_le_mul_left _ (by omega)
        _ = 2 ^ (53 + (den.log2 + 1)) := (Nat.pow_add 2 53 _).symm
    have hexponents := (Nat.pow_lt_pow_iff_right (by decide)).mp hpow
    omega
  simp only [exponentOf]
  generalize (num.log2 : Int) - den.log2 - 52 = guess at hguess
  have hcorrected : (if (scaled num den guess).1 < Nat.pow 2 52 * (scaled num den guess).2
      then guess - 1 else guess) ≤ -k := by
    split
    · omega
    · next hlarge =>
      refine Int.not_lt.mp fun hcoarse => hlarge ?_
      obtain rfl : guess = 1 - k := by omega
      -- one grid coarser, the ratio would have 53 bits
      have hpow : 2 ^ k = 2 ^ (-(1 - (k : Int))).toNat * 2 := by
        rw [← Nat.pow_succ]
        congr
        omega
      rw [scaled_of_neg (by omega)]
      rw [hpow, ← Nat.mul_assoc] at h
      show num * _ < 2 ^ 52 * den
      omega
  omega

theorem truncate?_finite (negative : Bool) (m : Nat) {j : Nat} (hj : 1 ≤ j) :
    (finite negative m (-(j : Int))).truncate?
      = some (if negative then -((m / 2 ^ j : Nat) : Int) else (m / 2 ^ j : Nat)) := by
  have hratio : ratio m (-(j : Int)) = (m, 2 ^ j) := by
    rw [ratio, if_neg (by omega), Int.neg_neg, Int.toNat_natCast]
    rfl
  rw [truncate?, hratio]

/-- **The double nearest to a small ratio has its whole part**, if half the distance of the doubles
there is below one unit of the denominator. -/
theorem truncate?_ofRatio (negative : Bool) (hden : 0 < den) (hk : 2 ≤ k) (hk' : k ≤ 1074)
    (hsmall : num * 2 ^ k < 2 ^ 53 * den) (hfine : den < 2 * 2 ^ k) :
    (ofRatio negative num den).truncate?
      = some (if negative then -((num / den : Nat) : Int) else (num / den : Nat)) := by
  rcases Nat.eq_zero_or_pos num with rfl | hnum
  · rw [ofRatio, if_pos rfl, Nat.zero_div]
    cases negative <;> rfl
  · have hexponent := exponentOf_le hnum hk hk' hsmall
    obtain ⟨j, hj⟩ : ∃ j : Nat, exponentOf num den = -((j + 1 : Nat) : Int) :=
      ⟨(-exponentOf num den).toNat - 1, by omega⟩
    have hfine' : den < 2 * 2 ^ (j + 1) := by
      have hpow : 2 ^ k ≤ 2 ^ (j + 1) := Nat.pow_le_pow_right (by decide) (by omega)
      omega
    have hwhole : roundDiv (num * 2 ^ (j + 1)) den / 2 ^ (j + 1) = num / den :=
      roundDiv_div num hden hfine'
    have hscaled : scaled num den (-((j + 1 : Nat) : Int)) = (num * 2 ^ (j + 1), den) := by
      rw [scaled_of_neg (by omega), Int.neg_neg, Int.toNat_natCast]
    simp only [ofRatio, hj, hscaled]
    rw [if_neg (by omega)]
    by_cases hcarry : roundDiv (num * 2 ^ (j + 1)) den = Nat.pow 2 53
    · -- the mantissa has become too long: it is halved, and the exponent grows by one
      have hhalf : Nat.pow 2 52 / 2 ^ j = num / den := by
        rw [← hwhole, hcarry, Nat.pow_succ 2 j]
        exact (Nat.mul_div_mul_right (2 ^ 52) (2 ^ j) Nat.zero_lt_two).symm
      simp only [if_pos hcarry]
      rw [if_neg (by omega)]
      have hcast : -((j + 1 : Nat) : Int) + 1 = -(j : Int) := by omega
      rw [hcast, truncate?_finite negative _ (by omega), hhalf]
    · simp only [if_neg hcarry]
      rw [if_neg (by omega), truncate?_finite negative _ (by omega), hwhole]

end Binary64

namespace Timestamp

/-! ### Spans -/

/-- **No rounding of a span of less than `2 ^ 34` seconds changes its whole seconds.** -/
theorem seconds_eq_tdiv {micros : Int} (h : micros.natAbs < 2 ^ 34 * 1000000) :
    seconds micros = micros.tdiv 1000000 := by
  rw [seconds, Binary64.truncate?_ofRatio (k := 19) _ (by decide) (by decide) (by decide)
    (by omega) (by decide), Option.getD_some]
  cases micros with
  | ofNat n => rfl
  | negSucc n =>
    rw [decide_eq_true (Int.negSucc_lt_zero n), if_pos rfl]
    rfl

end Timestamp

end JobHerald
