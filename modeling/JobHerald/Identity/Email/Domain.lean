import JobHerald.Host.Label
import JobHerald.Identity.Email.Character

/-!
# Domains

The part of an address after the at sign is the name of a host: labels with periods between
them, the last of which names a top-level domain.  Addresses of hosts in brackets are
recognised, but no email address may have one.

## Main definitions

* `Email.literalFault` — the fault of a domain in brackets.
* `Email.Domain`, `Email.Domain.read` — the domain in its two forms.
-/

namespace JobHerald.Email

/-! ### Addresses of hosts -/

/-- The text after the mark of a long address, which may have capitals. -/
def longAddress? (cs : List Char) : Option (List Char) :=
  if (cs.take 5).map Char.toLower = "ipv6:".toList then some (cs.drop 5) else none

/-- Whether a text has digits and periods only. -/
def isShortAddress (cs : List Char) : Bool :=
  !cs.isEmpty && cs.all fun c => c.isDigit || c = '.'

/-- The fault of a domain in brackets. -/
def literalFault (cs : List Char) : Fault :=
  if isShortAddress cs then
    match Host.Address.shortFault? cs with
    | some f => .shortAddress f
    | none => .hostAddress
  else
    match longAddress? cs with
    | some rest =>
        match Host.Address.longFault? rest with
        | some f => .longAddress f
        | none => if rest.contains '%' then .zonedAddress else .hostAddress
    | none =>
        if !cs.contains ':' then .noKind
        else
          match refuse .literal isLiteralChar cs with
          | .error f => f
          | .ok _ => .unknownKind

/-! ### Names of hosts -/

/-- A domain in its two forms. -/
structure Domain where
  /-- The domain in its own characters. -/
  text : String
  /-- The domain in ASCII characters. -/
  encoded : String
  deriving Repr

/-- The most characters of an encoded domain. -/
def domainLimit : Nat := 253

/-- The most characters of an encoded label. -/
def labelLimit : Nat := 63

/-- Domains that are set aside for other uses, with all those below them. -/
def reservedDomains : List String := ["arpa", "invalid", "local", "localhost", "onion", "test"]

/-- Whether a label has hyphens where encoded labels have them, and is none of these. -/
def hasInnerHyphens : List Char → Bool
  | a :: b :: '-' :: '-' :: _ => !(a.toLower = 'x' && b.toLower = 'n')
  | _ => false

/-- The characters whose plain forms have periods in them, but do not end a label. -/
def isNearPeriod (c : Char) : Bool :=
  Text.inRanges c.toNat
    [(0x2024, 0x2026), (0x2488, 0x249B), (0x33C2, 0x33C2), (0x33C7, 0x33C7), (0x33D8, 0x33D8),
      (0xFE19, 0xFE19), (0xFE30, 0xFE30), (0xFE52, 0xFE52), (0x1F100, 0x1F100)]

/-- The mapped form of a domain. -/
def mappedDomain (cs : List Char) : Except Fault (List Char) := do
  refuse .domain isDomainChar cs
  checkVisible false cs
  refuse .domain (fun c => !isNearPeriod c) cs
  match Host.mapped (Unicode.points cs) with
  | .error f => .error (.unmapped f)
  | .ok ns =>
      let mapped := Unicode.ofPoints ns
      refuse .mappedDomain isDomainChar mapped
      return mapped

/-- The rules for periods and hyphens of a domain. -/
def checkSeparators (cs : List Char) : Except Fault Unit := do
  checkPeriods .afterAt .back cs
  checkEdges .hyphen .afterAt .back cs
  if Text.occurs ['.', '-'] cs || Text.occurs ['-', '.'] cs then .error .periodAndHyphen
  else if (Text.splitOn '.' cs).any hasInnerHyphens then .error .innerHyphens
  else .ok ()

/-- The labels of a domain, each of them changed. -/
def eachLabel (change : List Nat → Except Host.Fault (List Nat)) (cs : List Char) :
    Except Host.Fault (List (List Nat)) :=
  (Text.splitOn '.' cs).mapM fun label => change (Unicode.points label)

/-- A domain of some labels. -/
def ofLabels (labels : List (List Nat)) : List Char :=
  List.intercalate ['.'] (labels.map Unicode.ofPoints)

/-- The ASCII form of a mapped domain. -/
def encodedDomain (cs : List Char) : Except Fault (List Char) := do
  if !cs.any isForeign then return cs
  else if domainLimit + 1 < cs.length then .error .longMappedDomain
  else
    let encoded := ofLabels (← (eachLabel Host.encodeLabel cs).mapError .unencoded)
    if domainLimit < encoded.length then .error .longMappedDomain else return encoded

/-- The domain in its own characters, from its ASCII form. -/
def decodedDomain (encoded : List Char) : Except Fault (List Char) := do
  let labels ← (eachLabel Host.decodeLabel encoded).mapError .undecoded
  (Host.checkNameDirections labels).mapError .undecoded
  let decoded := ofLabels labels
  checkVisible false decoded
  return decoded

/-- The rules for the ASCII form of a domain. -/
def checkEncoded (encoded : List Char) : Except Fault Unit :=
  let labels := Text.splitOn '.' encoded
  let isReserved (name : String) : Bool :=
    encoded == name.toList || ('.' :: name.toList).isSuffixOf encoded
  if domainLimit < encoded.length then
    .error (.longEncodedDomain (encoded.length - domainLimit))
  else
    match labels.find? fun label => labelLimit < label.length with
    | some label => .error (.longLabel (label.length - labelLimit))
    | none =>
        if labels.length < 2 then .error .oneLabel
        else if !(encoded.getLast?.any Char.isAlpha) then .error .noTopLevel
        else if reservedDomains.any isReserved then .error .reservedDomain
        else .ok ()

/-- The domain that a name of a host writes. -/
def Domain.ofName (cs : List Char) : Except Fault Domain := do
  if domainLimit < cs.length then .error (.longDomain (cs.length - domainLimit))
  else
    let mapped ← mappedDomain cs
    checkSeparators mapped
    let encoded ← encodedDomain mapped
    checkEncoded encoded
    let text ← decodedDomain encoded
    return ⟨String.ofList text, String.ofList encoded⟩

/-- The domain that a text writes. -/
def Domain.read (cs : List Char) : Except Fault Domain :=
  if cs.isEmpty then .error .noDomain
  else if cs.head? = some '[' ∧ cs.getLast? = some ']' then
    .error (literalFault (cs.drop 1).dropLast)
  else Domain.ofName cs

end JobHerald.Email
