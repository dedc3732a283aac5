/-!
# Double-precision numbers

A finite double is `± m · 2 ^ e` with `m < 2 ^ 53` and `e ≥ -1074`.  Numbers are
read from exact ratios by rounding to the nearest double, ties to the even
mantissa, so that nothing here depends on machine arithmetic.

## Main definitions

* `Binary64` — doubles, the infinities and "not a number".
* `Binary64.ofRatio`, `Binary64.ofDecimal` — rounding to the nearest double.
* `Binary64.truncate?`, `Binary64.isIntegral` — the integer part.
* `Binary64.isBelow` — the order.
-/

namespace JobHerald

/-- A double-precision number. -/
inductive Binary64 where
  /-- The number `± mantissa · 2 ^ exponent`. -/
  | finite (negative : Bool) (mantissa : Nat) (exponent : Int)
  /-- An infinity. -/
  | infinite (negative : Bool)
  /-- Not a number. -/
  | nan
  deriving DecidableEq, Repr, Inhabited

namespace Binary64

/-! ### Rounding -/

/-- A quotient rounded to the nearest integer, a half to the even one. -/
def roundDiv (num den : Nat) : Nat :=
  let q := num / den
  let r := num % den
  if 2 * r < den then q
  else if den < 2 * r then q + 1
  else q + q % 2

/-- `num / den · 2 ^ -e`, as a numerator and a denominator. -/
def scaled (num den : Nat) (e : Int) : Nat × Nat :=
  if 0 ≤ e then (num, den * Nat.pow 2 e.toNat) else (num * Nat.pow 2 (-e).toNat, den)

/-- The exponent of the last mantissa bit of a positive ratio. -/
def exponentOf (num den : Nat) : Int :=
  let guess : Int := (num.log2 : Int) - (den.log2 : Int) - 52
  let (n, d) := scaled num den guess
  let e := if n < Nat.pow 2 52 * d then guess - 1 else guess
  max e (-1074)

/-- The double nearest to `± num / den`, for a nonzero denominator. -/
def ofRatio (negative : Bool) (num den : Nat) : Binary64 :=
  if num = 0 then .finite negative 0 0
  else
    let e := exponentOf num den
    let (n, d) := scaled num den e
    let m := roundDiv n d
    let (m, e) := if m = Nat.pow 2 53 then (Nat.pow 2 52, e + 1) else (m, e)
    if 971 < e then .infinite negative else .finite negative m e

/-- The double nearest to `± digits · 10 ^ power`. -/
def ofDecimal (negative : Bool) (digits : Nat) (power : Int) : Binary64 :=
  if digits = 0 then .finite negative 0 0
  else if 310 < power then .infinite negative
  else if power + (digits.log2 : Int) < -1200 then .finite negative 0 0
  else if 0 ≤ power then ofRatio negative (digits * Nat.pow 10 power.toNat) 1
  else ofRatio negative digits (Nat.pow 10 (-power).toNat)

/-! ### Integer parts -/

/-- The size of a finite number as a numerator and a denominator. -/
def ratio (mantissa : Nat) (exponent : Int) : Nat × Nat :=
  if 0 ≤ exponent then (mantissa * Nat.pow 2 exponent.toNat, 1)
  else (mantissa, Nat.pow 2 (-exponent).toNat)

/-- The integer part, toward zero; an infinity and "not a number" have none. -/
def truncate? : Binary64 → Option Int
  | .finite negative m e =>
      let (n, d) := ratio m e
      some (if negative then -((n / d : Nat) : Int) else ((n / d : Nat) : Int))
  | _ => none

/-- Whether the number is a whole number. -/
def isIntegral : Binary64 → Bool
  | .finite _ m e => let (n, d) := ratio m e; n % d == 0
  | _ => false

/-- Whether the number is less than a natural number; "not a number" is not. -/
def isBelow (x : Binary64) (k : Nat) : Bool :=
  match x with
  | .finite negative m e =>
      let (n, d) := ratio m e
      if negative then m != 0 || 0 < k else n < k * d
  | .infinite negative => negative
  | .nan => false

/-- Whether the number is zero, of either sign. -/
def isZero : Binary64 → Bool
  | .finite _ m _ => m == 0
  | _ => false

end Binary64

end JobHerald
