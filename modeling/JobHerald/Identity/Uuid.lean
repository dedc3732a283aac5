import JobHerald.Text.Blank
import JobHerald.Text.Digits
import JobHerald.Text.Slice

/-!
# Universally unique identifiers

An identifier is a number of 128 bits, written as 32 hexadecimal digits in five
groups.  Records take the four standard spellings; identifiers that are given as
plain text go through a more generous reader, which drops hyphens and braces and
then reads a number in base 16.

## Main definitions

* `Uuid`, `Uuid.render` — identifiers and their standard form.
* `Uuid.ofSpelling?` — the standard spellings.
* `Uuid.ofText` — the generous reader, with its two faults.
-/

namespace JobHerald

/-- An identifier of 128 bits. -/
structure Uuid where
  /-- The bits, as a number. -/
  bits : BitVec 128
  deriving DecidableEq, Repr, Inhabited

namespace Uuid

/-! ### Writing -/

/-- The standard form: lower-case digits in groups of 8, 4, 4, 4 and 12. -/
def render (u : Uuid) : String :=
  let ds := Text.hexPadded 32 u.bits.toNat
  String.ofList (ds.take 8 ++ '-' :: (ds.drop 8).take 4 ++ '-' :: (ds.drop 12).take 4
    ++ '-' :: (ds.drop 16).take 4 ++ '-' :: ds.drop 20)

/-! ### Standard spellings -/

/-- The identifier of 32 hexadecimal digits. -/
def ofDigits? (cs : List Char) : Option Uuid :=
  if cs.length = 32 then
    (cs.mapM Text.hexValue?).map fun ds => ⟨BitVec.ofNat 128 (Text.ofDigits 16 ds)⟩
  else none

/-- The identifier of digits in five groups. -/
def ofGroups? (cs : List Char) : Option Uuid :=
  let groups := Text.splitOn '-' cs
  if groups.map List.length = [8, 4, 4, 4, 12] then ofDigits? groups.flatten else none

/-- The identifier of a text in a standard spelling: plain digits, groups, groups
in braces, or groups after the name-space marker. -/
def ofSpelling? (s : String) : Option Uuid :=
  let cs := s.toList
  let marker := "urn:uuid:".toList
  if cs.length = 32 then ofDigits? cs
  else if cs.length = 36 then ofGroups? cs
  else if cs.length = 38 ∧ cs.head? = some '{' ∧ cs.getLast? = some '}' then
    ofGroups? (cs.drop 1).dropLast
  else if cs.length = 45 ∧ marker.isPrefixOf cs then ofGroups? (cs.drop 9)
  else none

/-! ### The generous reader -/

/-- What can be wrong with a text that should be an identifier. -/
inductive Fault where
  /-- There are not 32 characters. -/
  | length
  /-- The characters do not write a number in base 16. -/
  | digits (text : String)
  deriving DecidableEq, Repr

/-- A character with its decimal digit, of any script, replaced by the ASCII digit. -/
def asciiDigit (c : Char) : Char :=
  match Text.decimalValue? c with
  | some d => Char.ofNat (48 + d)
  | none => c

/-- Hexadecimal digits with single underscores between them. -/
def readSpaced : List Char → Option (List Nat)
  | [] => none
  | [c] => (Text.hexValue? c).map fun d => [d]
  | c :: '_' :: rest => do
      let d ← Text.hexValue? c
      let ds ← readSpaced rest
      return d :: ds
  | c :: rest => do
      let d ← Text.hexValue? c
      let ds ← readSpaced rest
      return d :: ds

/-- Digits after the base marker, one underscore allowed before them. -/
def readMarked : List Char → Option (List Nat)
  | '0' :: x :: '_' :: rest =>
      if x = 'x' ∨ x = 'X' then readSpaced rest else readSpaced ('0' :: x :: '_' :: rest)
  | '0' :: x :: rest =>
      if x = 'x' ∨ x = 'X' then readSpaced rest else readSpaced ('0' :: x :: rest)
  | cs => readSpaced cs

/-- A number in base 16: blanks around it, a plus sign and a base marker are allowed. -/
def readNumber (s : String) : Option Nat :=
  let cs := (Text.trim Text.isBlank s).toList.map asciiDigit
  let cs := match cs with
    | '+' :: rest => rest
    | cs => cs
  (readMarked cs).map (Text.ofDigits 16)

/-- The text without name-space markers, braces at the ends and hyphens. -/
def stripped (s : String) : String :=
  let s := Text.eraseAll "uuid:" (Text.eraseAll "urn:" s)
  let s := Text.trim (fun c => c = '{' ∨ c = '}') s
  String.ofList (s.toList.filter (· ≠ '-'))

/-- The identifier that a text writes. -/
def ofText (s : String) : Except Fault Uuid :=
  let t := stripped s
  if t.length ≠ 32 then .error .length
  else
    match readNumber t with
    | some n => .ok ⟨BitVec.ofNat 128 n⟩
    | none => .error (.digits t)

end Uuid

end JobHerald
