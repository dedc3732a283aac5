import JobHerald.Binary64.Shortest
import JobHerald.Json.Basic
import JobHerald.Text.Digits

/-!
# Printing JSON

The printed form consists of visible ASCII characters and spaces: any other character
is written as one or two UTF-16 escapes.  Objects keep the order of their members.

## Main definitions

* `Json.Style` — the separators between items and after names.
* `Json.escape` — one character of a string.
* `Json.isWithinLimit` — whether all integers of a value are within the limit of digits.
* `Json.print` — the printed form, with `Json.spaced` and `Json.compact` for the two
  styles in use.
-/

namespace JobHerald.Json

/-- The separators of a printed form. -/
structure Style where
  /-- The text between items and between members. -/
  item : String
  /-- The text between a name and its value. -/
  name : String

/-- A space after each separator. -/
def Style.spaced : Style := ⟨", ", ": "⟩

/-- No spaces. -/
def Style.compact : Style := ⟨",", ":"⟩

/-- Numbers are positional from `0.0001` up to `10 ^ 16`, and exponents have two digits. -/
def numberLayout : Binary64.Layout := ⟨-4, 16, 2, "Infinity", "NaN"⟩

/-! ### Strings -/

/-- A UTF-16 unit as an escape. -/
def unitEscape (n : Nat) : List Char := '\\' :: 'u' :: Text.hexPadded 4 n

/-- The UTF-16 escapes of a code point. -/
def codeEscape (n : Nat) : List Char :=
  if n < 0x10000 then unitEscape n
  else
    let rest := n - 0x10000
    unitEscape (0xD800 + rest / 0x400) ++ unitEscape (0xDC00 + rest % 0x400)

/-- One character inside a string. -/
def escape (c : Char) : List Char :=
  if c = '"' then ['\\', '"']
  else if c = '\\' then ['\\', '\\']
  else if c = '\n' then ['\\', 'n']
  else if c = '\r' then ['\\', 'r']
  else if c = '\t' then ['\\', 't']
  else if c = Char.ofNat 8 then ['\\', 'b']
  else if c = Char.ofNat 12 then ['\\', 'f']
  else if 0x20 ≤ c.toNat ∧ c.toNat ≤ 0x7E then [c]
  else codeEscape c.toNat

/-- A string with its quotes. -/
def printString (s : String) : List Char := '"' :: (s.toList.flatMap escape ++ ['"'])

/-! ### Values -/

mutual

/-- The printed characters of a value. -/
def chars (style : Style) : Json → List Char
  | null => ['n', 'u', 'l', 'l']
  | bool true => ['t', 'r', 'u', 'e']
  | bool false => ['f', 'a', 'l', 's', 'e']
  | int n => (Text.decimal n).toList
  | real x => (Binary64.render numberLayout x).toList
  | str s => printString s
  | arr items => '[' :: (itemChars style items ++ [']'])
  | obj members => '{' :: (memberChars style members ++ ['}'])

/-- The printed characters of items. -/
def itemChars (style : Style) : List Json → List Char
  | [] => []
  | [v] => chars style v
  | v :: rest => chars style v ++ style.item.toList ++ itemChars style rest

/-- The printed characters of members. -/
def memberChars (style : Style) : List (String × Json) → List Char
  | [] => []
  | [(k, v)] => printString k ++ style.name.toList ++ chars style v
  | (k, v) :: rest =>
      printString k ++ style.name.toList ++ chars style v ++ style.item.toList
        ++ memberChars style rest

end

mutual

/-- Whether all integers of a value have no more digits than are written. -/
def isWithinLimit : Json → Bool
  | int n => Text.isWithinLimit n
  | arr items => itemsWithinLimit items
  | obj members => membersWithinLimit members
  | _ => true

/-- Whether all integers of some items have no more digits than are written. -/
def itemsWithinLimit : List Json → Bool
  | [] => true
  | v :: rest => isWithinLimit v && itemsWithinLimit rest

/-- Whether all integers of some members have no more digits than are written. -/
def membersWithinLimit : List (String × Json) → Bool
  | [] => true
  | (_, v) :: rest => isWithinLimit v && membersWithinLimit rest

end

/-- The printed form of a value. -/
def print (style : Style) (v : Json) : String := String.ofList (chars style v)

/-- The printed form with spaces after the separators. -/
def spaced (v : Json) : String := print .spaced v

/-- The printed form without spaces. -/
def compact (v : Json) : String := print .compact v

end JobHerald.Json
