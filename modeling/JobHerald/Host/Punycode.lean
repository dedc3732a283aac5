/-!
# Encoded labels

A label of a host name can be encoded with ASCII characters: first come its ASCII
characters, and after a hyphen, as a row of numbers, where which other characters are
to be inserted.  A number is written with digits of base 36, least digit first; how far
a digit counts depends on its place and on a bias that follows the numbers before.

## Main definitions

* `Host.Punycode.writeNumber`, `Host.Punycode.readNumber` — numbers.
* `Host.Punycode.encode` — the encoding of a label.
* `Host.Punycode.decode?` — the label that an encoding stands for.
-/

namespace JobHerald.Host.Punycode

/-! ### Digits and numbers -/

/-- The digit of a value below 36: letters first. -/
def digit (v : Nat) : Nat := if v < 26 then 97 + v else 22 + v

/-- The value of a digit. -/
def digitValue? (n : Nat) : Option Nat :=
  if 97 ≤ n ∧ n ≤ 122 then some (n - 97)
  else if 48 ≤ n ∧ n ≤ 57 then some (n - 22)
  else none

/-- The bound of the digit in a place: a digit below it is the last one. -/
def bound (place bias : Nat) : Nat := max 1 (min 26 (36 * (place + 1) - bias))

theorem one_le_bound (place bias : Nat) : 1 ≤ bound place bias := Nat.le_max_left ..

/-- A number from a place on. -/
def writeNumber (bias place n : Nat) : List Nat :=
  let t := bound place bias
  if n < t then [digit n]
  else digit (t + (n - t) % (36 - t)) :: writeNumber bias (place + 1) ((n - t) / (36 - t))
termination_by n
decreasing_by
  have h := one_le_bound place bias
  exact Nat.lt_of_le_of_lt (Nat.div_le_self _ _) (by omega)

/-- A number at the front, from a place on, with what came before it and the weight of
the next digit; and the rest. -/
def readNumber (bias : Nat) : Nat → Nat → Nat → List Nat → Option (Nat × List Nat)
  | _, _, _, [] => none
  | place, weight, sum, n :: rest =>
      match digitValue? n with
      | none => none
      | some v =>
          let t := bound place bias
          if v < t then some (sum + v * weight, rest)
          else readNumber bias (place + 1) (weight * (36 - t)) (sum + v * weight) rest

/-! ### Bias -/

/-- How often a number is divided until it is small, and what is left of it. -/
def shrink (n : Nat) : Nat × Nat :=
  if n ≤ 455 then (0, n)
  else
    let (times, rest) := shrink (n / 35)
    (times + 1, rest)
termination_by n
decreasing_by exact Nat.div_lt_self (by omega) (by omega)

/-- The bias after a number, which may have been the first, for a label that has grown
to a length. -/
def nextBias (n : Nat) (isFirst : Bool) (length : Nat) : Nat :=
  let n := if isFirst then n / 700 else n / 2
  let (times, rest) := shrink (n + n / length)
  36 * times + 36 * rest / (rest + 38)

/-! ### Encoding -/

/-- The characters that are not ASCII, from the least on, each once. -/
def foreign (label : List Nat) : List Nat :=
  ((label.filter (0x80 ≤ ·)).mergeSort (· ≤ ·)).eraseDups

/-- The distances at which one character is inserted: each counts the smaller
characters that it passes; and the distance left at the end. -/
def distancesOf (point : Nat) : Nat → List Nat → List Nat × Nat
  | distance, [] => ([], distance)
  | distance, n :: rest =>
      if n < point then distancesOf point (distance + 1) rest
      else if n = point then
        let (ds, last) := distancesOf point 0 rest
        (distance :: ds, last)
      else distancesOf point distance rest

/-- The distances at which characters are inserted, given how many characters the label
has already, the next character, and the distance so far. -/
def distances (label : List Nat) : Nat → Nat → Nat → List Nat → List Nat
  | _, _, _, [] => []
  | length, next, distance, point :: rest =>
      let (ds, last) := distancesOf point (distance + (point - next) * (length + 1)) label
      ds ++ distances label (length + ds.length) (point + 1) (last + 1) rest

/-- Distances as numbers, one after the other. -/
def writeAll : Nat → Bool → Nat → List Nat → List Nat
  | _, _, _, [] => []
  | bias, isFirst, length, d :: ds =>
      writeNumber bias 0 d ++ writeAll (nextBias d isFirst (length + 1)) false (length + 1) ds

/-- The encoding of a label. -/
def encode (label : List Nat) : List Nat :=
  let plain := label.filter (· < 0x80)
  let numbers := writeAll 72 true plain.length
    (distances label plain.length 0x80 0 (foreign label))
  if plain.isEmpty then numbers else plain ++ 45 :: numbers

/-! ### Decoding -/

/-- Characters inserted into a label, given the place after the last one, its number,
the bias, and whether none was inserted before; the fuel bounds how many there are. -/
def insertAll : Nat → Nat → Nat → Nat → Bool → List Nat → List Nat → Option (List Nat)
  | _, _, _, _, _, label, [] => some label
  | 0, _, _, _, _, _, _ => none
  | fuel + 1, place, point, bias, isFirst, label, digits =>
      match readNumber bias 0 1 0 digits with
      | none => none
      | some (d, rest) =>
          let length := label.length + 1
          let point := point + (place + d) / length
          let at' := (place + d) % length
          if 0x10FFFF < point then none
          else
            insertAll fuel (at' + 1) point (nextBias d isFirst length) false
              (label.take at' ++ point :: label.drop at') rest

/-- The label that an encoding stands for. -/
def decode? (encoded : List Nat) : Option (List Nat) :=
  let digits := (encoded.reverse.takeWhile (· ≠ 45)).reverse
  let plain := encoded.take (encoded.length - digits.length - 1)
  insertAll digits.length 0 0x80 72 true plain digits

end JobHerald.Host.Punycode
