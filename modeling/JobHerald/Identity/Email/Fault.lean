import JobHerald.Host.Address
import JobHerald.Host.Fault
import JobHerald.Unicode.Category
import JobHerald.Unicode.Name

/-!
# Faults of email addresses

What can be wrong with a text that is read as an email address, with a sentence for each
cause.  The part of an address before its at sign is the mailbox, the one after it the
domain.

## Main definitions

* `Email.Place`, `Email.Edge`, `Email.Separator` — where characters are not allowed.
* `Email.Fault`, `Email.Fault.message` — the causes, and their sentences.
* `Email.shown` — a character in a sentence.
-/

namespace JobHerald.Email

/-! ### Places -/

/-- A place with a class of characters of its own. -/
inductive Place where
  /-- A display name without quotes. -/
  | name
  /-- A mailbox. -/
  | mailbox
  /-- A mailbox in quotes. -/
  | quotedMailbox
  /-- A domain. -/
  | domain
  /-- A domain in the form that is compared. -/
  | mappedDomain
  /-- A domain in brackets. -/
  | literal
  deriving DecidableEq, Repr

/-- The end of a mailbox or of a domain. -/
inductive Edge where
  /-- The front of the mailbox. -/
  | front
  /-- The back of the mailbox. -/
  | beforeAt
  /-- The front of the domain. -/
  | afterAt
  /-- The back of the domain. -/
  | back
  deriving DecidableEq, Repr

/-- A character that has to stand between others. -/
inductive Separator where
  /-- A period. -/
  | period
  /-- A hyphen. -/
  | hyphen
  deriving DecidableEq, Repr

/-- The character. -/
def Separator.char : Separator → Char
  | period => '.'
  | hyphen => '-'

/-- The word for the character. -/
def Separator.word : Separator → String
  | period => "period"
  | hyphen => "hyphen"

/-! ### Faults -/

/-- What can be wrong with an email address. -/
inductive Fault where
  /-- The text has too many characters. -/
  | longText
  /-- The text has a break of lines. -/
  | lineBreak
  /-- There is no at sign. -/
  | noAt
  /-- A wide at sign stands for the at sign. -/
  | wideAt
  /-- A small at sign stands for the at sign. -/
  | smallAt
  /-- Characters follow a closing quote. -/
  | afterQuote (tail : List Char)
  /-- Characters are not allowed in a place. -/
  | refused (place : Place) (cs : List Char)
  /-- Characters cannot be seen, or change others. -/
  | strange (cs : List Char)
  /-- A bracket is not closed. -/
  | openBracket
  /-- Characters follow a closing bracket. -/
  | afterBracket
  /-- There is a display name. -/
  | named
  /-- There is no mailbox. -/
  | noMailbox
  /-- There is a mailbox in quotes. -/
  | quotedMailbox
  /-- The fault is one of the composed form. -/
  | composed (f : Fault)
  /-- There is no domain. -/
  | noDomain
  /-- A separator stands at an edge. -/
  | atEdge (s : Separator) (e : Edge)
  /-- A period follows another. -/
  | twoPeriods
  /-- A period and a hyphen stand side by side. -/
  | periodAndHyphen
  /-- A label has hyphens where encoded labels have them. -/
  | innerHyphens
  /-- The domain cannot be mapped. -/
  | unmapped (f : Host.Fault)
  /-- A label cannot be encoded. -/
  | unencoded (f : Host.Fault)
  /-- A label cannot be decoded. -/
  | undecoded (f : Host.Fault)
  /-- The domain has too many characters. -/
  | longDomain (excess : Nat)
  /-- The domain has too many characters in its mapped form, or when it is encoded. -/
  | longMappedDomain
  /-- The encoded domain has too many bytes. -/
  | longEncodedDomain (excess : Nat)
  /-- A label has too many characters. -/
  | longLabel (excess : Nat)
  /-- The domain has one label only. -/
  | oneLabel
  /-- The domain does not end in a letter. -/
  | noTopLevel
  /-- The domain is set aside for other uses. -/
  | reservedDomain
  /-- The domain is a wrong short address of a host. -/
  | shortAddress (f : Host.Address.Fault)
  /-- The domain is a wrong long address of a host. -/
  | longAddress (f : Host.Address.Fault)
  /-- The domain is a long address of a host with a zone. -/
  | zonedAddress
  /-- A domain in brackets does not tell its kind. -/
  | noKind
  /-- A domain in brackets is of an unknown kind. -/
  | unknownKind
  /-- The domain is an address of a host. -/
  | hostAddress
  /-- The address has too many characters, a number between two bounds. -/
  | long (fewest most : Nat)
  /-- The normal form of the address has too many bytes. -/
  | longNormal (excess : Nat)
  /-- The address has too many bytes when its domain is encoded. -/
  | longEncoded (excess : Nat)
  deriving DecidableEq, Repr

/-! ### Sentences -/

/-- A character in a sentence: in quotes if it can be seen, and by its name otherwise. -/
def shown (c : Char) : String :=
  if c = '\\' then "\"\\\""
  else if Unicode.category c.toNat = .visible then Text.quoted (String.ofList [c])
  else (Unicode.name? c.toNat).getD (Unicode.codeName c.toNat)

/-- Characters in a sentence, in the order of what is shown. -/
def shownSorted (cs : List Char) : String :=
  Text.joined ", " ((cs.map shown).eraseDups.mergeSort fun a b => decide (a ≤ b))

/-- A number of characters or bytes that are too many. -/
def tooMany (n : Nat) (unit : String) : String :=
  toString n ++ " " ++ unit ++ (if n = 1 then "" else "s") ++ " too many"

/-- The opening of a sentence about characters that are not allowed in a place. -/
def Place.opening : Place → String
  | name => "The display name contains invalid characters when not quoted: "
  | mailbox => "The email address contains invalid characters before the @-sign: "
  | quotedMailbox => "The email address contains invalid characters in quotes before the @-sign: "
  | domain => "The part after the @-sign contains invalid characters: "
  | mappedDomain =>
      "The part after the @-sign contains invalid characters after Unicode normalization: "
  | literal => "The part after the @-sign contains invalid characters in brackets: "

/-- A sentence about a separator at an edge. -/
def Edge.message (s : Separator) : Edge → String
  | front => "An email address cannot start with a " ++ s.word ++ "."
  | beforeAt => "An email address cannot have a " ++ s.word ++ " immediately before the @-sign."
  | afterAt => "An email address cannot have a " ++ s.word ++ " immediately after the @-sign."
  | back => "An email address cannot end with a " ++ s.word ++ "."

namespace Fault

/-- A fault in a sentence. -/
def message : Fault → String
  | longText => "Length must not exceed 2048 characters"
  | lineBreak => "Carriage return and line feed characters are not allowed"
  | noAt => "An email address must have an @-sign."
  | wideAt =>
      "The email address has the \"full-width\" at-sign (@) character instead of a regular "
        ++ "at-sign."
  | smallAt =>
      "The email address has the \"small commercial at\" character instead of a regular at-sign."
  | afterQuote tail =>
      "Extra character(s) found after close quote: " ++ Text.joined ", " (tail.map shown)
  | refused place cs => place.opening ++ shownSorted cs ++ "."
  | strange cs =>
      let ordered := cs.eraseDups.mergeSort fun a b => decide (a ≤ b)
      "The email address contains unsafe characters: " ++ Text.joined ", " (ordered.map shown)
        ++ "."
  | openBracket =>
      "An open angle bracket at the start of the email address has to be followed by a close "
        ++ "angle bracket at the end."
  | afterBracket => "There can't be anything after the email address."
  | named =>
      "A display name and angle brackets around the email address are not permitted here."
  | noMailbox => "There must be something before the @-sign."
  | quotedMailbox => "Quoting the part before the @-sign is not allowed here."
  | composed f => "After Unicode normalization: " ++ f.message
  | noDomain => "There must be something after the @-sign."
  | atEdge s e => e.message s
  | twoPeriods => "An email address cannot have two periods in a row."
  | periodAndHyphen =>
      "An email address cannot have a period and a hyphen next to each other."
  | innerHyphens =>
      "An email address cannot have two letters followed by two dashes immediately after the "
        ++ "@-sign or after a period, except Punycode."
  | unmapped f => "The part after the @-sign contains invalid characters (" ++ f.message ++ ")."
  | unencoded f => "The part after the @-sign is invalid (" ++ f.message ++ ")."
  | undecoded f => "The part after the @-sign is not valid IDNA (" ++ f.message ++ ")."
  | longDomain excess =>
      "The email address is too long after the @-sign (" ++ tooMany excess "character" ++ ")."
  | longMappedDomain => "The email address is too long after the @-sign."
  | longEncodedDomain excess =>
      "The email address is too long after the @-sign (" ++ tooMany excess "byte"
        ++ " after IDNA encoding)."
  | longLabel excess =>
      "After the @-sign, periods cannot be separated by so many characters ("
        ++ tooMany excess "character" ++ ")."
  | oneLabel => "The part after the @-sign is not valid. It should have a period."
  | noTopLevel =>
      "The part after the @-sign is not valid. It is not within a valid top-level domain."
  | reservedDomain =>
      "The part after the @-sign is a special-use or reserved name that cannot be used with "
        ++ "email."
  | shortAddress f =>
      "The address in brackets after the @-sign is not valid: It is not an IPv4 address ("
        ++ f.message ++ ") or is missing an address literal tag."
  | longAddress f =>
      "The IPv6 address in brackets after the @-sign is not valid (" ++ f.message ++ ")."
  | zonedAddress =>
      "The IPv6 address in brackets after the @-sign is not valid (It has a zone index)."
  | noKind =>
      "The part after the @-sign in brackets is not an IPv4 address and has no address literal "
        ++ "tag."
  | unknownKind =>
      "The part after the @-sign contains an invalid address literal tag in brackets."
  | hostAddress => "A bracketed IP address after the @-sign is not allowed here."
  | long fewest most =>
      "The email address is too long ("
        ++ (if fewest = most then tooMany most "character"
            else toString fewest ++ "-" ++ toString most ++ " characters too many")
        ++ ")."
  | longNormal excess =>
      "The email address is too long after normalization (" ++ tooMany excess "byte" ++ ")."
  | longEncoded excess =>
      "The email address is too long when the part after the @-sign is converted to IDNA ASCII ("
        ++ tooMany excess "byte" ++ ")."

end Fault

end JobHerald.Email
