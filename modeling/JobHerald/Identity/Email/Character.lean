import JobHerald.Identity.Email.Fault
import JobHerald.Text.Slice

/-!
# Characters of email addresses

Each place of an address has a class of characters of its own.  Beside these, characters
are refused that cannot be seen, and marks that would go with a character outside of the
address.

## Main definitions

* `Email.isAtom`, `Email.isWideAtom`, `Email.isQuotable`, `Email.isDomainChar`,
  `Email.isLiteralChar` — the classes.
* `Email.refuse`, `Email.checkVisible` — the two checks.
* `Email.checkPeriods`, `Email.checkEdges` — the rules of separators.
-/

namespace JobHerald.Email

/-! ### Classes -/

/-- The ASCII characters of a word of a mailbox. -/
def isAtom (c : Char) : Bool :=
  c.isAlpha || c.isDigit || "_!#$%&'*+-/=?^`\x7b|\x7d~".toList.contains c

/-- The characters beyond ASCII. -/
def isForeign (c : Char) : Bool := 0x80 ≤ c.toNat

/-- The characters of a word of a mailbox. -/
def isWideAtom (c : Char) : Bool := isAtom c || isForeign c

/-- The characters of a mailbox in quotes. -/
def isQuotable (c : Char) : Bool := (0x20 ≤ c.toNat && c.toNat ≤ 0x7E) || isForeign c

/-- The characters of a domain. -/
def isDomainChar (c : Char) : Bool :=
  c.isAlpha || c.isDigit || c = '-' || c = '.' || isForeign c

/-- The characters of a domain in brackets. -/
def isLiteralChar (c : Char) : Bool := 0x21 ≤ c.toNat && c.toNat ≤ 0xFA

/-! ### Checks -/

/-- Only characters of a class are allowed in a place. -/
def refuse (place : Place) (allowed : Char → Bool) (cs : List Char) : Except Fault Unit :=
  if cs.all allowed then .ok () else .error (.refused place (cs.filter fun c => !allowed c))

/-- Whether a character cannot be seen, or is a mark without a character before it. -/
def isStrange (spaces isFirst : Bool) (c : Char) : Bool :=
  match Unicode.category c.toNat with
  | .visible => false
  | .mark => isFirst
  | .space => !spaces
  | .lineEnd | .other => true

/-- All characters can be seen; `spaces` tells whether spaces count as seen. -/
def checkVisible (spaces : Bool) (cs : List Char) : Except Fault Unit :=
  let strange := (cs.take 1).filter (isStrange spaces true)
    ++ (cs.drop 1).filter (isStrange spaces false)
  if strange.isEmpty then .ok () else .error (.strange strange)

/-! ### Separators -/

/-- A separator stands at neither edge; the back is looked at first. -/
def checkEdges (s : Separator) (first last : Edge) (cs : List Char) : Except Fault Unit :=
  if cs.getLast? = some s.char then .error (.atEdge s last)
  else if cs.head? = some s.char then .error (.atEdge s first)
  else .ok ()

/-- Periods stand alone, and between other characters. -/
def checkPeriods (first last : Edge) (cs : List Char) : Except Fault Unit := do
  checkEdges .period first last cs
  if Text.occurs ['.', '.'] cs then .error .twoPeriods else .ok ()

end JobHerald.Email
