import JobHerald.Text.Quoted

/-!
# Faults of host names

What can be wrong with the name of a host, with a sentence for each cause.

## Main definitions

* `Host.Fault`, `Host.Fault.message` — the causes, and their sentences.
* `Host.quoted` — a part of a name in quotes.
-/

namespace JobHerald.Host

/-- What can be wrong with the name of a host.  Positions count from one. -/
inductive Fault where
  /-- The name has too many characters. -/
  | longName
  /-- A label has too many characters. -/
  | longLabel
  /-- A label has no characters. -/
  | emptyLabel
  /-- A character is not allowed in names. -/
  | refusedInName (point position : Nat) (name : List Nat)
  /-- A label is not in composed form. -/
  | notComposed
  /-- A label has hyphens where encoded labels have them. -/
  | innerHyphens
  /-- A label has a hyphen at an end. -/
  | outerHyphen
  /-- A label begins with a mark. -/
  | leadingMark
  /-- A character is not allowed in labels. -/
  | refused (point position : Nat) (label : List Nat)
  /-- A joiner is not allowed where it is. -/
  | joiner (point position : Nat) (label : List Nat)
  /-- A character is not allowed beside its neighbours. -/
  | contextual (point position : Nat) (label : List Nat)
  /-- The direction of a character is not known. -/
  | strangeDirection (position : Nat) (label : List Nat)
  /-- The first character has no direction. -/
  | firstDirection (label : List Nat)
  /-- A character does not fit into a label from right to left. -/
  | notRightToLeft (position : Nat)
  /-- A character does not fit into a label from left to right. -/
  | notLeftToRight (position : Nat)
  /-- A label from right to left has two kinds of digits. -/
  | mixedDigits
  /-- The last character has no direction. -/
  | lastDirection
  /-- An encoded label encodes nothing. -/
  | nothingEncoded
  /-- An encoded label ends with a hyphen. -/
  | encodedHyphen
  /-- A label is no encoding. -/
  | notEncoded
  /-- A label is not the only encoding of what it encodes. -/
  | otherEncoding
  deriving DecidableEq, Repr

/-- A part of a name in quotes. -/
def quoted (ns : List Nat) : String :=
  let q := Text.quoteFor (ns.map Char.ofNat)
  let piece (n : Nat) : List Char :=
    if (Char.ofNat n).toNat = n then Text.quotedChar q (Char.ofNat n) else Text.codeEscape n
  String.ofList (q :: (ns.flatMap piece ++ [q]))

/-- The number of a character, in at least four digits. -/
def code (n : Nat) : String :=
  let width := if n < 0x10000 then 4 else if n < 0x100000 then 5 else 6
  "U+" ++ String.ofList ((Text.hexPadded width n).map Char.toUpper)

namespace Fault

/-- A fault in a sentence. -/
def message : Fault → String
  | longName => "Domain too long"
  | longLabel => "Label too long"
  | emptyLabel => "Empty Label"
  | refusedInName point position name =>
      "Codepoint " ++ code point ++ " not allowed at position " ++ toString position ++ " in "
        ++ quoted name
  | notComposed => "Label must be in Normalization Form C"
  | innerHyphens => "Label has disallowed hyphens in 3rd and 4th position"
  | outerHyphen => "Label must not start or end with a hyphen"
  | leadingMark => "Label begins with an illegal combining character"
  | refused point position label =>
      "Codepoint " ++ code point ++ " at position " ++ toString position ++ " of "
        ++ quoted label ++ " not allowed"
  | joiner point position label =>
      "Unknown codepoint adjacent to joiner " ++ code point ++ " at position "
        ++ toString position ++ " in " ++ quoted label
  | contextual point position label =>
      "Codepoint " ++ code point ++ " not allowed at position " ++ toString position ++ " in "
        ++ quoted label
  | strangeDirection position label =>
      "Unknown directionality in label " ++ quoted label ++ " at position " ++ toString position
  | firstDirection label =>
      "First codepoint in label " ++ quoted label ++ " must be directionality L, R or AL"
  | notRightToLeft position =>
      "Invalid direction for codepoint at position " ++ toString position
        ++ " in a right-to-left label"
  | notLeftToRight position =>
      "Invalid direction for codepoint at position " ++ toString position
        ++ " in a left-to-right label"
  | mixedDigits => "Can not mix numeral types in a right-to-left label"
  | lastDirection => "Label ends with illegal codepoint directionality"
  | nothingEncoded => "Malformed A-label, no Punycode eligible content found"
  | encodedHyphen => "A-label must not end with a hyphen"
  | notEncoded => "Invalid A-label"
  | otherEncoding => "A-label is not the canonical Punycode encoding of its U-label"

end Fault

end JobHerald.Host
