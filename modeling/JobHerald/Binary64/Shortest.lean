import JobHerald.Binary64.Basic
import JobHerald.Text.Digits

/-!
# The shortest decimal form of a double

A finite double is written with the fewest decimal digits that read back as the
same double, and among those with the digits nearest to it.  The search tests,
for one digit, two digits and so on, the two neighbours of the number on the
decimal grid of that size against the interval of reals that round to it.

## Main definitions

* `Binary64.shortest` — the digits and the decimal exponent.
* `Binary64.Layout`, `Binary64.render` — the decisions of a printed form, and the
  printed form.
-/

namespace JobHerald.Binary64

/-! ### The digits -/

/-- A power with an integer exponent as a numerator and a denominator. -/
def powRatio (base : Nat) (e : Int) : Nat × Nat :=
  if 0 ≤ e then (base.pow e.toNat, 1) else (1, base.pow (-e).toNat)

/-- The order of `a · 10 ^ k` and `b · 2 ^ e`. -/
def compareScaled (a : Nat) (k : Int) (b : Nat) (e : Int) : Ordering :=
  let (tn, td) := powRatio 10 k
  let (un, ud) := powRatio 2 e
  compare (a * tn * ud) (b * un * td)

/-- Whether `c · 10 ^ k` rounds to the positive double `m · 2 ^ e`.  The
neighbour below a power of two is half as far away; the ends of the interval
round to the even mantissa. -/
def readsBack (m : Nat) (e : Int) (c : Nat) (k : Int) : Bool :=
  let low := if m = Nat.pow 2 52 ∧ -1074 < e then 4 * m - 1 else 4 * m - 2
  let high := 4 * m + 2
  let even := m % 2 == 0
  (match compareScaled c k low (e - 2) with
    | .lt => false
    | .eq => even
    | .gt => true) &&
  (match compareScaled c k high (e - 2) with
    | .gt => false
    | .eq => even
    | .lt => true)

/-- The least `p ≤ fuel + p` with `num · 10 ^ p ≥ den`, counted up from `p`. -/
def leadingZeros (num den : Nat) : Nat → Nat → Nat
  | 0, p => p
  | fuel + 1, p => if den ≤ num * Nat.pow 10 p then p else leadingZeros num den fuel (p + 1)

/-- The decimal exponent of the leading digit of the positive double `m · 2 ^ e`. -/
def decimalExponent (m : Nat) (e : Int) : Int :=
  let (n, d) := ratio m e
  if d ≤ n then ((toString (n / d)).length : Int) - 1 else -(leadingZeros n d 400 1 : Int)

/-- The digits without the zeros at their end, and the exponent raised to match. -/
def dropZeros : Nat → Nat → Int → Nat × Int
  | 0, c, k => (c, k)
  | fuel + 1, c, k => if c ≠ 0 ∧ c % 10 = 0 then dropZeros fuel (c / 10) (k + 1) else (c, k)

/-- The grid point with `n` digits, if one reads back: of two the nearer one. -/
def gridPoint? (m : Nat) (e : Int) (p : Int) (n : Nat) : Option (Nat × Int) :=
  let k := p - ((n : Int) - 1)
  let (num, den) := ratio m e
  let (tn, td) := powRatio 10 k
  let below := num * td / (den * tn)
  let above := below + 1
  match readsBack m e below k, readsBack m e above k with
  | true, true =>
      -- twice the number against the sum of the two neighbours
      match compareScaled (below + above) k (2 * m) e with
      | .gt => some (below, k)
      | .lt => some (above, k)
      | .eq => some (if below % 2 = 0 then below else above, k)
  | true, false => some (below, k)
  | false, true => some (above, k)
  | false, false => none

/-- The shortest digits `c` and exponent `k` of the positive double `m · 2 ^ e`:
`c · 10 ^ k` reads back as it. -/
def shortest (m : Nat) (e : Int) : Nat × Int :=
  let p := decimalExponent m e
  match (List.range 17).findSome? fun n => gridPoint? m e p (n + 1) with
  | some (c, k) => dropZeros 20 c k
  | none => (m, e)

/-! ### The printed form -/

/-- The decisions of a printed form. -/
structure Layout where
  /-- The least exponent of the leading digit that is written positionally. -/
  leastPositional : Int
  /-- The first exponent that is no longer written positionally. -/
  firstScientific : Int
  /-- The least number of digits of an exponent. -/
  exponentWidth : Nat
  /-- The text of infinity. -/
  infinity : String
  /-- The text of "not a number". -/
  notANumber : String

/-- The digits `c` with the leading one at exponent `p`, written out in full. -/
def positional (digits : List Char) (p : Int) : List Char :=
  if p < 0 then
    '0' :: '.' :: (List.replicate ((-p).toNat - 1) '0' ++ digits)
  else
    let whole := p.toNat + 1
    if digits.length ≤ whole then
      digits ++ List.replicate (whole - digits.length) '0' ++ ['.', '0']
    else digits.take whole ++ '.' :: digits.drop whole

/-- The digits with an exponent. -/
def scientific (layout : Layout) (digits : List Char) (p : Int) : List Char :=
  let head := match digits with
    | [] => []
    | [d] => [d]
    | d :: rest => d :: '.' :: rest
  let sign := if p < 0 then '-' else '+'
  head ++ 'e' :: sign :: (Text.padded layout.exponentWidth p.natAbs).toList

/-- The printed form of a number. -/
def render (layout : Layout) : Binary64 → String
  | .nan => layout.notANumber
  | .infinite negative => (if negative then "-" else "") ++ layout.infinity
  | .finite negative m e =>
      let sign := if negative then "-" else ""
      if m = 0 then sign ++ "0.0"
      else
        let (c, k) := shortest m e
        let digits := (toString c).toList
        let p := k + ((digits.length : Int) - 1)
        sign ++ String.ofList
          (if layout.leastPositional ≤ p ∧ p < layout.firstScientific then positional digits p
           else scientific layout digits p)

end JobHerald.Binary64
