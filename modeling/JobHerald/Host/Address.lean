import JobHerald.Text.Digits
import JobHerald.Text.Quoted
import JobHerald.Text.Slice

/-!
# Numeric addresses of hosts

A host can be named by a number instead.  A short address is written as four decimal
numbers with periods between them, a long one as eight hexadecimal numbers with colons
between them, where a row of zeros may be left out, and where the last two numbers may
be written as a short address.

## Main definitions

* `Host.Address.Fault`, `Host.Address.Fault.message` — what can be wrong with an address.
* `Host.Address.shortFault?`, `Host.Address.longFault?` — the two forms.
-/

namespace JobHerald.Host.Address

/-! ### Faults -/

/-- What can be wrong with a number of an address. -/
inductive NumberFault where
  /-- It has no digits. -/
  | empty
  /-- It has characters that are no decimal digits. -/
  | decimal (text : String)
  /-- It has characters that are no hexadecimal digits. -/
  | hexadecimal (text : String)
  /-- It has more digits than there can be. -/
  | long (limit : Nat) (text : String)
  /-- It has zeros in front. -/
  | zeros (text : String)
  /-- It is too large. -/
  | large (value : Nat)
  deriving DecidableEq, Repr

/-- A fault of a number in a sentence. -/
def NumberFault.message : NumberFault → String
  | empty => "Empty octet not permitted"
  | decimal text => "Only decimal digits permitted in " ++ Text.quoted text
  | hexadecimal text => "Only hex digits permitted in " ++ Text.quoted text
  | long limit text =>
      "At most " ++ toString limit ++ " characters permitted in " ++ Text.quoted text
  | zeros text => "Leading zeros are not permitted in " ++ Text.quoted text
  | large value => "Octet " ++ toString value ++ " (> 255) not permitted"

/-- What can be wrong with an address. -/
inductive Fault where
  /-- There is none. -/
  | empty
  /-- It has a slash. -/
  | slash (text : String)
  /-- It does not have four numbers. -/
  | octets (text : String)
  /-- One of its numbers is wrong. -/
  | number (f : NumberFault) (text : String)
  /-- It has a zone without a name. -/
  | zone (text : String)
  /-- It has too few numbers. -/
  | fewParts (text : String)
  /-- The short address at its end is wrong. -/
  | embedded (f : Fault) (text : String)
  /-- It has too many colons. -/
  | colons (text : String)
  /-- More than one row of zeros is left out. -/
  | gaps (text : String)
  /-- It begins with a colon. -/
  | leading (text : String)
  /-- It ends with a colon. -/
  | trailing (text : String)
  /-- It has too many numbers beside those that are left out. -/
  | manyParts (text : String)
  /-- It does not have eight numbers. -/
  | parts (text : String)
  deriving DecidableEq, Repr

/-- A fault in a sentence. -/
def Fault.message : Fault → String
  | empty => "Address cannot be empty"
  | slash text => "Unexpected '/' in " ++ Text.quoted text
  | octets text => "Expected 4 octets in " ++ Text.quoted text
  | number f text => f.message ++ " in " ++ Text.quoted text
  | zone text => "Invalid IPv6 address: \"" ++ Text.quoted text ++ "\""
  | fewParts text => "At least 3 parts expected in " ++ Text.quoted text
  | embedded f text => f.message ++ " in " ++ Text.quoted text
  | colons text => "At most 8 colons permitted in " ++ Text.quoted text
  | gaps text => "At most one '::' permitted in " ++ Text.quoted text
  | leading text => "Leading ':' only permitted as part of '::' in " ++ Text.quoted text
  | trailing text => "Trailing ':' only permitted as part of '::' in " ++ Text.quoted text
  | manyParts text => "Expected at most 7 other parts with '::' in " ++ Text.quoted text
  | parts text => "Exactly 8 parts expected without '::' in " ++ Text.quoted text

/-! ### Short addresses -/

/-- The fault of a decimal number. -/
def octetFault? (cs : List Char) : Option NumberFault :=
  let text := String.ofList cs
  match cs, Text.readNat? cs with
  | [], _ => some .empty
  | _, none => some (.decimal text)
  | first :: rest, some n =>
      if 3 < cs.length then some (.long 3 text)
      else if first = '0' ∧ !rest.isEmpty then some (.zeros text)
      else if 255 < n then some (.large n)
      else none

/-- The fault of a short address. -/
def shortFault? (cs : List Char) : Option Fault :=
  let text := String.ofList cs
  let octets := Text.splitOn '.' cs
  if cs.isEmpty then some .empty
  else if octets.length ≠ 4 then some (.octets text)
  else (octets.findSome? octetFault?).map fun f => .number f text

/-! ### Long addresses -/

/-- The fault of a hexadecimal number. -/
def hextetFault? (cs : List Char) : Option NumberFault :=
  if cs.any fun c => (Text.hexValue? c).isNone then some (.hexadecimal (String.ofList cs))
  else if 4 < cs.length then some (.long 4 (String.ofList cs))
  else none

/-- The fault of the numbers of a long address, with a row of zeros left out after some
of them. -/
def gapFault? (text : String) (front back : List (List Char)) : Option Fault :=
  let before := if front.head? = some [] then front.drop 1 else front
  let after := if back.getLast? = some [] then back.dropLast else back
  if before.length < front.length ∧ !before.isEmpty then some (.leading text)
  else if after.length < back.length ∧ !after.isEmpty then some (.trailing text)
  else if 8 ≤ before.length + after.length then some (.manyParts text)
  else ((before ++ after).findSome? hextetFault?).map fun f => .number f text

/-- The fault of the numbers of a long address. -/
def partsFault? (text : String) (parts : List (List Char)) : Option Fault :=
  let inner := (parts.drop 1).dropLast
  if 9 < parts.length then some (.colons text)
  else if 1 < (inner.filter (·.isEmpty)).length then some (.gaps text)
  else if inner.any (·.isEmpty) then
    let front := parts.take 1 ++ inner.takeWhile fun p => !p.isEmpty
    gapFault? text front (parts.drop (front.length + 1))
  else if parts.length ≠ 8 then some (.parts text)
  else if parts.head? = some [] then some (.leading text)
  else if parts.getLast? = some [] then some (.trailing text)
  else (parts.findSome? hextetFault?).map fun f => .number f text

/-- The fault of a long address without a zone. -/
def plainFault? (cs : List Char) : Option Fault :=
  let text := String.ofList cs
  let parts := Text.splitOn ':' cs
  let last := (parts.getLast?).getD []
  if cs.isEmpty then some .empty
  else if parts.length < 3 then some (.fewParts text)
  else if last.contains '.' then
    match shortFault? last with
    | some f => some (.embedded f text)
    | none => partsFault? text (parts.dropLast ++ [['0'], ['0']])
  else partsFault? text parts

/-- The fault of a long address; a percent sign and the name of a zone may follow it. -/
def longFault? (cs : List Char) : Option Fault :=
  let text := String.ofList cs
  if cs.contains '/' then some (.slash text)
  else
    match Text.cutAt '%' cs with
    | none => plainFault? cs
    | some (front, zone) =>
        if zone.isEmpty || zone.contains '%' then some (.zone text) else plainFault? front

end JobHerald.Host.Address
