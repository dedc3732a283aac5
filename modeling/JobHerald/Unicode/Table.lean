import JobHerald.Text.Digits
import JobHerald.Text.Slice

/-!
# Tables of code points

A table about code points is written as lines of hexadecimal numbers with blanks between
them.  Code points come in order, and each is written as its distance from the one before.

## Main definitions

* `Unicode.numbers` — the numbers of some lines.
* `Unicode.ranges` — a table of ranges.
* `Unicode.runs` — a table of ranges with a number for each.
* `Unicode.entries` — a table of code points with a list of numbers for each.
-/

namespace JobHerald.Unicode

/-- The number written by hexadecimal digits. -/
def number (digits : List Char) : Nat := Text.ofDigits 16 (digits.filterMap Text.hexValue?)

/-- The numbers of some lines. -/
def numbers (lines : List String) : List Nat :=
  lines.flatMap fun line => (Text.splitOn ' ' line.toList).map number

/-- Ranges from the numbers of code points before each of them and in it. -/
def rangesFrom : Nat → List Nat → List (Nat × Nat)
  | start, gap :: count :: rest =>
      (start + gap, start + gap + count - 1) :: rangesFrom (start + gap + count) rest
  | _, _ => []

/-- The ranges of a table. -/
def ranges (lines : List String) : List (Nat × Nat) := rangesFrom 0 (numbers lines)

/-- A range whose code points share a number. -/
structure Run where
  /-- The first code point. -/
  first : Nat
  /-- How many code points there are. -/
  count : Nat
  /-- The number. -/
  value : Nat
  deriving Repr

/-- Runs from the distance of each from the first code point of the run before, the
number of its code points, and the number that they share. -/
def runsFrom : Nat → List Nat → List Run
  | start, gap :: count :: value :: rest =>
      ⟨start + gap, count, value⟩ :: runsFrom (start + gap) rest
  | _, _ => []

/-- The runs of a table. -/
def runs (lines : List String) : List Run := runsFrom 0 (numbers lines)

/-- Entries from the distance of each from the one before, how many numbers it has, and
these; the fuel bounds how many entries there are. -/
def entriesFrom : Nat → Nat → List Nat → List (Nat × List Nat)
  | fuel + 1, start, gap :: count :: rest =>
      (start + gap, rest.take count) :: entriesFrom fuel (start + gap) (rest.drop count)
  | _, _, _ => []

/-- The entries of a table. -/
def entries (lines : List String) : List (Nat × List Nat) :=
  let ns := numbers lines
  entriesFrom ns.length 0 ns

end JobHerald.Unicode
