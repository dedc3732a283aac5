import JobHerald.Identity.Email.Domain
import JobHerald.Identity.Email.Mailbox
import JobHerald.Identity.Email.Parts

/-!
# Email addresses

An address is a mailbox and a domain.  Reading one removes blanks around it, takes the
address out of a form with a display name, checks both parts, and normalises them.

## Main definitions

* `Email`, `Email.read` — addresses, and the address that a text writes.
* `Email.checkLength` — the limit on the length of an address.
-/

namespace JobHerald

/-- A normalised email address. -/
structure Email where
  /-- The address. -/
  address : String
  deriving DecidableEq, Repr, Inhabited

namespace Email

/-- The most characters of a text that is read. -/
def textLimit : Nat := 2048

/-- The most bytes of an address. -/
def addressLimit : Nat := 254

/-- The bytes of a text beyond the limit. -/
def excess (s : String) : Nat := s.utf8ByteSize - addressLimit

/-- The bytes of the widest character of a text. -/
def widest (s : String) : Nat := s.toList.foldl (fun n c => max n c.utf8Size) 1

/-- The fewest characters that have as many bytes as a text has beyond the limit, counted
as if all of them were the widest of the text. -/
def fewestExcess (s : String) : Nat := max 1 (excess s / widest s)

/-- An address is short enough as it is written, in its normal form, and with its domain in
ASCII characters.  Of the characters that are too many, at most one goes for each byte. -/
def checkLength (written mailbox : String) (domain : Domain) : Except Fault Unit :=
  let normal := mailbox ++ "@" ++ domain.text
  let encoded := mailbox ++ "@" ++ domain.encoded
  if 0 < excess written then
    .error (.long (fewestExcess written) (excess written))
  else if 0 < excess normal then .error (.longNormal (excess normal))
  else if 0 < excess encoded then .error (.longEncoded (excess encoded))
  else .ok ()

/-- The address that a text writes. -/
def read (s : String) : Except Fault Email := do
  if textLimit < s.length then .error .longText
  else if s.toList.any fun c => c = '\n' || c = '\r' then .error .lineBreak
  else
    let parts ← Parts.read (bracketed s.toList)
    let mailbox ← normalMailbox parts.isQuoted parts.mailbox
    let domain ← Domain.read parts.domain
    checkLength (String.ofList (parts.mailbox ++ '@' :: parts.domain)) mailbox domain
    if parts.isNamed then .error .named else return ⟨mailbox ++ "@" ++ domain.text⟩

end Email

end JobHerald
