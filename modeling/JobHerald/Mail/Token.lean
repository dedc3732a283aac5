import JobHerald.Action
import JobHerald.Crypto.Base64Url
import JobHerald.Crypto.Hmac
import JobHerald.Json.Printer
import JobHerald.Text.Slice
import JobHerald.Text.Wide

/-!
# Signed tokens

The email service takes tokens that name the account and the time, signed with the
account's secret.  A text that looks like a key of a key pair, or like a key written as
an object, cannot be a secret.

## Main definitions

* `Token.looksAsymmetric`, `Token.looksWritten` — whether a text looks like such a key.
* `Token.signed`, `Token.create` — the token for an account at a time.
* `Token.issue` — the same as an action, which fails without credentials.
-/

namespace JobHerald.Token

/-! ### Keys of key pairs -/

/-- The titles of armoured keys. -/
def armourTitles : List String :=
  ["CERTIFICATE", "TRUSTED CERTIFICATE", "PRIVATE KEY", "PUBLIC KEY", "ENCRYPTED PRIVATE KEY",
    "OPENSSH PRIVATE KEY", "DSA PRIVATE KEY", "RSA PRIVATE KEY", "RSA PUBLIC KEY",
    "EC PRIVATE KEY", "DH PARAMETERS", "NEW CERTIFICATE REQUEST", "CERTIFICATE REQUEST",
    "SSH2 PUBLIC KEY", "SSH2 ENCRYPTED PRIVATE KEY", "X509 CRL"]

/-- The rest after one of two characters. -/
def takeEither (a b : Char) : List Char → Option (List Char)
  | c :: rest => if c = a || c = b then some rest else none
  | [] => none

/-- The rest after a text. -/
def takeText (text : String) (cs : List Char) : Option (List Char) :=
  if text.toList.isPrefixOf cs then some (cs.drop text.length) else none

/-- The rest after an armour line of a title, from its first four hyphens to its last. -/
def armourLine? (word title : String) (cs : List Char) : Option (List Char) := do
  let cs ← takeText "----" cs
  let cs ← takeEither '-' ' ' cs
  let cs ← takeText (word ++ " " ++ title) cs
  let cs ← takeEither '-' ' ' cs
  takeText "----" cs

/-- An armour line. -/
structure ArmourLine where
  /-- Whether it opens a key. -/
  isOpening : Bool
  /-- The title. -/
  title : String
  /-- How many characters are left from its beginning on. -/
  fromStart : Nat
  /-- How many characters are left behind it. -/
  fromEnd : Nat

/-- The armour line at the front. -/
def armourFront? (cs : List Char) : Option ArmourLine :=
  armourTitles.findSome? fun title =>
    ((armourLine? "BEGIN" title cs).map fun rest => ⟨true, title, cs.length, rest.length⟩) <|>
      (armourLine? "END" title cs).map fun rest => ⟨false, title, cs.length, rest.length⟩

/-- The armour lines of a text after some characters that are passed over; no two lines
share a character. -/
def armourLines : Nat → List Char → List ArmourLine
  | _, [] => []
  | passed + 1, _ :: rest => armourLines passed rest
  | 0, c :: rest =>
      match armourFront? (c :: rest) with
      | some line => line :: armourLines (rest.length - line.fromEnd) rest
      | none => armourLines 0 rest

/-- Whether some line opens a key that a later one closes, with something between them. -/
def encloses : List ArmourLine → Bool
  | [] => false
  | line :: later =>
      (line.isOpening && later.any fun l =>
        !l.isOpening && l.title == line.title && l.fromStart < line.fromEnd) || encloses later

/-- Whether a text has an armoured key in it. -/
def hasArmour (cs : List Char) : Bool := encloses (armourLines 0 cs)

/-- The formats of public keys for remote shells. -/
def shellFormats : List String :=
  ["ssh-ed25519", "ssh-rsa", "ssh-dss", "ecdsa-sha2-nistp256", "ecdsa-sha2-nistp384",
    "ecdsa-sha2-nistp521"]

/-- Whether a text looks like a key of a key pair. -/
def looksAsymmetric (s : String) : Bool :=
  hasArmour s.toList || shellFormats.any (Text.startsWith s)

/-! ### Keys written as objects -/

mutual

/-- Whether a value is an object that says what type of key it is, or has such an
object inside. -/
def namesKeyType : Json → Bool
  | .arr items => itemsNameKeyType items
  | .obj members => membersNameKeyType members
  | _ => false

/-- Whether some item names a type of key. -/
def itemsNameKeyType : List Json → Bool
  | [] => false
  | v :: rest => namesKeyType v || itemsNameKeyType rest

/-- Whether some member is a type of key, or has one inside. -/
def membersNameKeyType : List (String × Json) → Bool
  | [] => false
  | (k, v) :: rest => k == "kty" || namesKeyType v || membersNameKeyType rest

end

/-- The blanks between the name of a member and its colon. -/
def isGap (c : Char) : Bool := c = ' ' || (9 ≤ c.toNat && c.toNat ≤ 13)

/-- Whether a text mentions a type of key as the name of a member, whose first quote is
not escaped. -/
def mentionsKeyType (isEscaped : Bool) : List Char → Bool
  | [] => false
  | c :: rest =>
      let named := (takeText "\"kty\"" (c :: rest)).any fun rest =>
        (rest.dropWhile isGap).head? == some ':'
      (!isEscaped && named) || mentionsKeyType (c = '\\') rest

/-- The text that a secret writes when its bytes are read in the encoding that they show. -/
def decoded? (s : String) : Option String :=
  let bytes := s.toUTF8.toList
  match Text.Wide.ofBytes? bytes with
  | some w => w.decode? bytes
  | none => some (String.ofList (Text.dropMark s.toList))

/-- Whether a text writes an object that is a key.  One that is too large to be read is
judged by what it mentions. -/
def looksWritten (s : String) : Bool :=
  match (decoded? s).map Json.ofText with
  | none | some (.error .form) => false
  | some (.ok v) => namesKeyType v
  | some (.error _) => mentionsKeyType false s.toList

/-- Why a text cannot be a secret. -/
def secretFault? (s : String) : Option Failure :=
  if looksAsymmetric s then some .asymmetricKey
  else if looksWritten s then some .objectKey
  else none

/-! ### Tokens -/

/-- The header of every token. -/
def header : Json := .obj [("alg", .str "HS256"), ("typ", .str "JWT")]

/-- What a token says: the account and the time. -/
def claims (client : String) (time : Int) : Json := .obj [("iss", .str client), ("iat", .int time)]

/-- A value as a part of a token. -/
def part (v : Json) : String := Base64Url.encode v.compact.toUTF8.toList

/-- The text that is signed. -/
def unsigned (client : String) (time : Int) : String :=
  part header ++ "." ++ part (claims client time)

/-- The token for an account at a time. -/
def signed (secret client : String) (time : Int) : String :=
  let text := unsigned client time
  text ++ "." ++ Base64Url.encode (Hmac.digest secret.toUTF8.toList text.toUTF8.toList)

/-- A log entry about missing credentials, and the failure. -/
def refuse {α : Type} (event : String) (f : CredentialFault) : Action α := do
  Action.log .error event [("error", .str f.message)]
  Action.fail (.credential f)

/-- The token for an account at a time, if its secret can be used. -/
def create (secret client : Json) (time : Int) : Except Failure String :=
  match client, secret with
  | .str client, .str secret =>
      match secretFault? secret with
      | some f => .error f
      | none => .ok (signed secret client time)
  | .str _, _ => .error .strangeSecret
  | _, _ => .error .strangeClient

/-- The token for an account now; a secret and a client that are empty are missing. -/
def issue (secret client : Json) : Action String := do
  if !secret.isTruthy then refuse "jwt_token_creation_failed" .secret
  else if !client.isTruthy then refuse "jwt_token_creation_failed" .client
  else
    let time ← Action.clock
    Action.ofExcept (create secret client time)

end JobHerald.Token
