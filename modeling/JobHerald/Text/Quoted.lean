import JobHerald.Text.Digits
import JobHerald.Text.Printable

/-!
# Text in quotes

A text in quotes stands on one line: the quote is a single one unless the text
holds single quotes and no double ones; the backslash, the chosen quote and the
non-printable characters are escaped.

## Main definitions

* `Text.quoted` — the quoted form.
-/

namespace JobHerald.Text

/-- The escape of a non-printable character: two, four or eight hexadecimal
digits, as few as suffice. -/
def codeEscape (n : Nat) : List Char :=
  if n < 0x100 then '\\' :: 'x' :: hexPadded 2 n
  else if n < 0x10000 then '\\' :: 'u' :: hexPadded 4 n
  else '\\' :: 'U' :: hexPadded 8 n

/-- One character of a text in the quote `q`. -/
def quotedChar (q c : Char) : List Char :=
  if c = q ∨ c = '\\' then ['\\', c]
  else if c = '\n' then ['\\', 'n']
  else if c = '\r' then ['\\', 'r']
  else if c = '\t' then ['\\', 't']
  else if isPrintable c then [c]
  else codeEscape c.toNat

/-- The quote for a text. -/
def quoteFor (cs : List Char) : Char :=
  if cs.contains '\'' && !cs.contains '"' then '"' else '\''

/-- The text in quotes. -/
def quoted (s : String) : String :=
  let q := quoteFor s.toList
  String.ofList (q :: (s.toList.flatMap (quotedChar q) ++ [q]))

end JobHerald.Text
