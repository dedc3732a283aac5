import JobHerald.Identity.Email.Character
import JobHerald.Text.Casing
import JobHerald.Unicode.Normal

/-!
# Mailboxes

The part of an address before the at sign consists of words with periods between them, or
is in quotes.  Mailboxes in quotes are checked, too, but no address may have one.

## Main definitions

* `Email.checkMailbox` — what a mailbox has to meet.
* `Email.normalMailbox` — the normal form of a mailbox.
-/

namespace JobHerald.Email

/-- Whether a text consists of words with single periods between them. -/
def isDotted (cs : List Char) : Bool :=
  (Text.splitOn '.' cs).all fun word => !word.isEmpty && word.all isWideAtom

/-- A text in quotes, with a backslash before each quote and backslash. -/
def requoted (cs : List Char) : List Char :=
  '"' :: (cs.flatMap fun c => if c = '"' ∨ c = '\\' then ['\\', c] else [c]) ++ ['"']

/-- The written form of a mailbox, in quotes only if it needs them and had them. -/
def checkMailbox (isQuoted : Bool) (cs : List Char) : Except Fault (List Char) := do
  if cs.isEmpty then .error .noMailbox
  else if isQuoted && !isDotted cs then
    refuse .quotedMailbox isQuotable cs
    checkVisible true cs
    return requoted cs
  else
    refuse .mailbox (fun c => isWideAtom c || c = '.') cs
    checkPeriods .front .beforeAt cs
    checkVisible false cs
    return cs

/-- Mailboxes that are the same in every spelling. -/
def reservedMailboxes : List String :=
  ["info", "marketing", "sales", "support", "abuse", "noc", "security", "postmaster",
    "hostmaster", "usenet", "news", "webmaster", "www", "uucp", "ftp"]

/-- The composed form of a mailbox, which is checked again if it is not the same. -/
def composedMailbox (isQuoted : Bool) (cs : List Char) : Except Fault (List Char) :=
  let normal := Unicode.ofPoints (Unicode.composed (Unicode.points cs))
  if normal = cs then .ok cs
  else
    match checkMailbox isQuoted normal with
    | .ok _ => .ok normal
    | .error f => .error (.composed f)

/-- The normal form of a mailbox. -/
def normalMailbox (isQuoted : Bool) (cs : List Char) : Except Fault String := do
  let written ← checkMailbox isQuoted cs
  let normal ← composedMailbox isQuoted written
  let lower := Text.lower (String.ofList normal)
  if isQuoted then .error .quotedMailbox
  else if !normal.any isForeign && reservedMailboxes.contains lower then .ok lower
  else .ok (String.ofList normal)

end JobHerald.Email
