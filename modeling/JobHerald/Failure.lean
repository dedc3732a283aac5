import JobHerald.Calendar.Timestamp
import JobHerald.Identity.Uuid
import JobHerald.Json.Plain
import JobHerald.Settings.Basic
import JobHerald.Validation.Record

/-!
# Failures

A failure is a cause.  Its family says which handlers catch it, and its message is
a sentence made from the cause.

## Main definitions

* `Family` — the families, and which of them belong together.
* `OperationFailure` — failures that know how they are to be classified.
* `Failure`, `Failure.family`, `Failure.message` — all causes.
-/

namespace JobHerald

/-! ### Statuses -/

/-- How an operation ended. -/
inductive Status where
  /-- It was done. -/
  | success
  /-- There was nothing to do. -/
  | skipped
  /-- It failed in a way that may pass. -/
  | transient
  /-- It failed in a way that will not pass. -/
  | permanent
  /-- The target does not implement it. -/
  | unsupported
  deriving DecidableEq, Repr, Inhabited

instance : Vocabulary Status where
  name := "OperationStatus"
  all := [.success, .skipped, .transient, .permanent, .unsupported]
  word
    | .success => "success"
    | .skipped => "skipped"
    | .transient => "transient_error"
    | .permanent => "permanent_error"
    | .unsupported => "unsupported"

/-- The word of a status. -/
abbrev Status.word (s : Status) : String := Vocabulary.word s

/-! ### Families -/

/-- The families of failures. -/
inductive Family where
  /-- A value that cannot be used. -/
  | value
  /-- A name that is not in a table. -/
  | key
  /-- Trouble at run time. -/
  | runtime
  /-- Too many steps inside each other. -/
  | recursion
  /-- A failed look-up. -/
  | lookup
  /-- A deadline that passed. -/
  | timeout
  /-- Trouble with the operating system. -/
  | system
  /-- A refused connection. -/
  | refused
  /-- Trouble with a request. -/
  | request
  /-- A request that could not connect. -/
  | requestConnection
  /-- A request whose deadline passed. -/
  | requestTimeout
  /-- A request with a bad status. -/
  | requestStatus
  /-- A request to an invalid address. -/
  | requestAddress
  /-- An address that could not be opened. -/
  | opening
  /-- A bad status met when opening an address. -/
  | openingStatus
  /-- A block that does not have the required form. -/
  | blockForm
  /-- An address that the message client refuses. -/
  | messageRequest
  /-- A result outside the range of its type. -/
  | overflow
  /-- An operation on values of the wrong type. -/
  | type
  /-- A member that a value does not have. -/
  | member
  /-- A key that cannot sign. -/
  | signingKey
  /-- A record with issues. -/
  | validation
  /-- Settings that cannot be read. -/
  | settings
  /-- A failure that knows its status. -/
  | operation
  /-- A workspace that is not there. -/
  | workspace
  /-- A notification that was not delivered. -/
  | delivery
  /-- An operation that a channel does not implement. -/
  | unsupported
  /-- A family of its own, known by its name, and by whether it is also trouble with a
  request, trouble with the operating system, or a value that cannot be used. -/
  | other (name : String) (isRequest isSystem isValue : Bool)
  deriving DecidableEq, Repr

namespace Family

/-- The name of a family. -/
def name : Family → String
  | value => "ValueError"
  | key => "KeyError"
  | runtime => "RuntimeError"
  | recursion => "RecursionError"
  | lookup => "LookupError"
  | timeout => "TimeoutError"
  | system => "OSError"
  | refused => "ConnectionRefusedError"
  | request => "RequestException"
  | requestConnection => "ConnectionError"
  | requestTimeout => "Timeout"
  | requestStatus => "HTTPError"
  | requestAddress => "InvalidURL"
  | opening => "URLError"
  | openingStatus => "HTTPError"
  | blockForm => "SlackObjectFormationError"
  | messageRequest => "SlackRequestError"
  | overflow => "OverflowError"
  | type => "TypeError"
  | member => "AttributeError"
  | signingKey => "InvalidKeyError"
  | validation => "ValidationError"
  | settings => "SettingsError"
  | operation => "OperationError"
  | workspace => "WorkspaceNotFoundError"
  | delivery => "NotificationDeliveryError"
  | unsupported => "UnsupportedNotificationError"
  | other name .. => name

/-- The families of failed requests. -/
def isRequest : Family → Bool
  | request | requestConnection | requestTimeout | requestStatus | requestAddress => true
  | other _ isRequest _ _ => isRequest
  | _ => false

/-- The families of addresses that could not be opened. -/
def isOpening : Family → Bool
  | opening | openingStatus => true
  | _ => false

/-- The families of trouble with the operating system; failed requests, openings,
deadlines and refused connections are among them. -/
def isSystem : Family → Bool
  | system | timeout | refused => true
  | other _ isRequest isSystem _ => isRequest || isSystem
  | f => f.isRequest || f.isOpening

/-- The families of values that cannot be used; rejected records, unreadable settings
and invalid addresses are among them. -/
def isValue : Family → Bool
  | value | validation | settings | requestAddress => true
  | other _ _ _ isValue => isValue
  | _ => false

end Family

/-! ### Failures that know their status -/

/-- What an operation failure is about. -/
inductive OperationFault where
  /-- Nothing in particular. -/
  | general
  /-- A workspace that is not there. -/
  | workspace
  /-- A delivery, with the status and body of the response if there was one. -/
  | delivery (status : Option Int) (body : Option String)
  /-- An operation that a channel does not implement. -/
  | unsupported (channel operation : String)
  deriving DecidableEq, Repr

/-- A failure that knows how it is to be classified. -/
structure OperationFailure where
  /-- What it is about. -/
  about : OperationFault
  /-- The message. -/
  message : String
  /-- The machine-readable code. -/
  code : String
  deriving DecidableEq, Repr

namespace OperationFailure

/-- The code that is used when none is given. -/
def defaultCode : OperationFault → String
  | .general => "OPERATION_ERROR"
  | .workspace => "WORKSPACE_NOT_FOUND"
  | .delivery .. => "DELIVERY_FAILED"
  | .unsupported .. => "UNSUPPORTED_OPERATION"

/-- A failure with a code, where an absent or empty code stands for the default. -/
def withCode (about : OperationFault) (message : String) (code : Option String) :
    OperationFailure :=
  match code with
  | some c => ⟨about, message, if c = "" then defaultCode about else c⟩
  | none => ⟨about, message, defaultCode about⟩

/-- A failed delivery: a response's status is the code if no other is given. -/
def delivery (message : String) (status : Option Int) (body : Option String)
    (code : Option String) : OperationFailure :=
  let code := match code, status with
    | none, some s => some ("HTTP_" ++ Text.decimal s)
    | code, _ => code
  withCode (.delivery status body) message code

/-- An operation that a channel does not implement. -/
def unsupported (channel operation : String) : OperationFailure :=
  withCode (.unsupported channel operation)
    (channel ++ " notification is not supported for " ++ operation) none

/-- The status of a failure. -/
def status (o : OperationFailure) : Status :=
  match o.about with
  | .general | .workspace => .permanent
  | .delivery .. => .transient
  | .unsupported .. => .unsupported

/-- The family of a failure. -/
def family (o : OperationFailure) : Family :=
  match o.about with
  | .general => .operation
  | .workspace => .workspace
  | .delivery .. => .delivery
  | .unsupported .. => .unsupported

end OperationFailure

/-! ### Causes -/

/-- What can be missing from credentials. -/
inductive CredentialFault where
  /-- No secret was given. -/
  | secret
  /-- No client was given. -/
  | client
  /-- The settings have no client. -/
  | clientSetting
  /-- The settings have no secret. -/
  | secretSetting
  deriving DecidableEq, Repr

/-- The message of a credential fault. -/
def CredentialFault.message : CredentialFault → String
  | secret => "Missing secret key"
  | client => "Missing client id"
  | clientSetting => "NOTIFY_CLIENT_ID is missing"
  | secretSetting => "NOTIFY_CLIENT_SECRET is missing"

/-- What can be wrong with a section block. -/
inductive BlockFault where
  /-- It has more than ten fields. -/
  | tooManyFields
  /-- It has neither text nor fields. -/
  | empty
  /-- Its text is too long. -/
  | longText
  deriving DecidableEq, Repr

/-- The message of a block fault. -/
def BlockFault.message : BlockFault → String
  | tooManyFields => "fields attribute cannot exceed 10 items"
  | empty => "text or fields attribute must be specified"
  | longText => "text attribute cannot exceed 3000 characters"

/-- A failure.  Each one has a message: a cause that comes from outside is given with the text
that it tells of itself, and one that fails when it is asked for a text is no failure here. -/
inductive Failure where
  /-- A failure raised by a collaborator, known by family and text. -/
  | outside (family : Family) (text : String)
  /-- A bad status met when opening an address, with the body that came with it. -/
  | badStatus (status : Int) (reason body : String)
  /-- A failure that knows its status. -/
  | operation (o : OperationFailure)
  /-- A record with issues. -/
  | rejected (r : Rejection)
  /-- A variable that does not write the value of its section. -/
  | unreadableSection (section' : String) (source : Settings.Source)
  /-- A text with lists or objects that are nested too deep. -/
  | tooDeep (container : String)
  /-- An integer with more digits than are written. -/
  | longInteger
  /-- Trouble with a date or time. -/
  | calendar (f : CalendarFault)
  /-- A text that writes no identifier. -/
  | identifier (f : Uuid.Fault)
  /-- A value that is no word of a vocabulary. -/
  | unknownWord (vocabulary : String) (value : Json)
  /-- A template that does not exist. -/
  | unknownTemplate (name : String)
  /-- A value that a table does not have. -/
  | missingValue (name : String)
  /-- A channel kind that does not exist. -/
  | unknownChannel (kind : String)
  /-- Missing credentials. -/
  | credential (f : CredentialFault)
  /-- A client that is no text. -/
  | strangeClient
  /-- A secret that is no text. -/
  | strangeSecret
  /-- A secret that looks like a key of a key pair. -/
  | asymmetricKey
  /-- A secret that looks like a key written as an object. -/
  | objectKey
  /-- An address without a scheme. -/
  | unknownScheme (url : String)
  /-- An address that the message client refuses. -/
  | refusedAddress (url : String)
  /-- A block that does not have the required form. -/
  | block (f : BlockFault)
  /-- A value that has no length. -/
  | noLength (kind : String)
  /-- A value that is written like a text, but is none. -/
  | notText (kind : String)
  /-- A value that is not put in order with numbers by a relation. -/
  | notOrdered (relation kind : String)
  /-- A value that does not number a character. -/
  | notAnIndex
  /-- A value that is joined to a text like a text, but is none. -/
  | notJoined (kind : String)
  /-- A value that is called, but is no callee. -/
  | notCallable (kind : String)
  /-- A name that is given twice to a call. -/
  | repeatedArgument (callee name : String)
  /-- A name of an argument that a call has already. -/
  | filledArgument (callee name : String)
  /-- A name that a callee has no argument of. -/
  | unexpectedArgument (callee name : String)
  /-- An argument beside the only one that a callee takes. -/
  | furtherArgument (callee : String)
  /-- Arguments that a call lacks. -/
  | missingArguments (callee : String) (names : List String)
  /-- The name of a log level that stands for something else. -/
  | thresholdKind (shown : String)
  /-- The name of a log level that stands for a text. -/
  | thresholdText (name : String)
  /-- A value that is no key of a table. -/
  | unknownKey (value : Json)
  /-- A value that cannot be looked up. -/
  | notAKey (kind : String)
  /-- A record's kind that is set to something else. -/
  | recordKind (kind : String)
  /-- A record's members that are set to something else. -/
  | recordMembers (kind : String)
  /-- A name that is kept by the runtime. -/
  | keptMember (record member : String)
  /-- A maker that a type does not have. -/
  | absentMaker (type maker : String)
  /-- A member read from something that does not have it. -/
  | absent (holder member : String)
  /-- A computed name that cannot be set. -/
  | computedMember (record member : String)
  /-- A name that a record does not have. -/
  | unknownMember (record member : String)
  deriving Repr

namespace Failure

/-- The family of a calendar fault. -/
def calendarFamily : CalendarFault → Family
  | .mixedClocks => .type
  | .range | .clockWord => .overflow
  | .clockYear => .system
  | _ => .value

/-- A span of minutes in days and seconds, for one that is not shorter than a day. -/
def spanText (minutes : Int) : String :=
  let seconds := minutes * 60 % 86400
  "datetime.timedelta(days=" ++ Text.decimal (minutes * 60 / 86400)
    ++ (if seconds = 0 then "" else ", seconds=" ++ Text.decimal seconds) ++ ")"

/-- The message of a calendar fault. -/
def calendarMessage : CalendarFault → String
  | .malformed text => "Invalid isoformat string: " ++ Text.quoted text
  | .year value => "year " ++ Text.decimal value ++ " is out of range"
  | .month => "month must be in 1..12"
  | .day => "day is out of range for month"
  | .hour => "hour must be in 0..23"
  | .minute => "minute must be in 0..59"
  | .second => "second must be in 0..59"
  | .mixedClocks => "can't subtract offset-naive and offset-aware datetimes"
  | .range => "date value out of range"
  | .offset minutes =>
      "offset must be a timedelta strictly between -timedelta(hours=24) and timedelta(hours=24), "
        ++ "not " ++ spanText minutes ++ "."
  | .clockWord => "timestamp out of range for platform time_t"
  | .clockYear => "[Errno 75] Value too large for defined data type"

/-- The message of a text that writes no identifier; a long quotation is cut. -/
def identifierMessage : Uuid.Fault → String
  | .length => "badly formed hexadecimal UUID string"
  | .digits text =>
      "invalid literal for int() with base 16: " ++ Text.take 200 (Text.quoted text)

/-- The family of a failure. -/
def family : Failure → Family
  | outside f _ => f
  | badStatus .. => .openingStatus
  | operation o => o.family
  | rejected _ => .validation
  | unreadableSection .. => .settings
  | calendar f => calendarFamily f
  | tooDeep _ => .recursion
  | longInteger | identifier _ | unknownWord .. | unknownTemplate _ | unknownChannel _ |
    credential _ | unknownScheme _ | unknownMember .. | thresholdText _ => .value
  | missingValue _ | unknownKey _ => .key
  | asymmetricKey | objectKey => .signingKey
  | refusedAddress _ => .messageRequest
  | block _ => .blockForm
  | strangeClient | strangeSecret | noLength _ | notText _ | notOrdered .. | notAnIndex |
    notJoined _ | notCallable _ | repeatedArgument .. | filledArgument .. |
    unexpectedArgument .. | furtherArgument _ | missingArguments .. | thresholdKind _ |
    notAKey _ | recordKind _ | recordMembers _ => .type
  | absent .. | computedMember .. | keptMember .. | absentMaker .. => .member

/-- The name of a failure's family. -/
def name (f : Failure) : String := f.family.name

/-- The text of a failure that came from outside. -/
def outsideMessage (f : Family) (text : String) : String :=
  match f with
  | .key => Text.quoted text
  | .opening => "<urlopen error " ++ text ++ ">"
  | _ => text

/-- The name of a source of settings. -/
def sourceName : Settings.Source → String
  | .environment => "EnvSettingsSource"
  | .file => "DotEnvSettingsSource"

/-- Names in quotes, with a word before the last one, and commas if there are more than two. -/
def enumerated : List String → String
  | [] => ""
  | [name] => "'" ++ name ++ "'"
  | [first, last] => "'" ++ first ++ "' and '" ++ last ++ "'"
  | [first, second, last] => "'" ++ first ++ "', '" ++ second ++ "', and '" ++ last ++ "'"
  | name :: names => "'" ++ name ++ "', " ++ enumerated names

/-- The message of a call that lacks arguments. -/
def missingMessage (callee : String) (names : List String) : String :=
  callee ++ "() missing " ++ toString names.length ++ " required positional argument"
    ++ (if names.length = 1 then ": " else "s: ") ++ enumerated names

/-- The message of a failure. -/
def message : Failure → String
  | outside f text => outsideMessage f text
  | badStatus status reason _ => "HTTP Error " ++ Text.decimal status ++ ": " ++ reason
  | operation o => o.message
  | rejected r => r.report
  | unreadableSection name source =>
      "error parsing value for field \"" ++ name ++ "\" from source \""
        ++ sourceName source ++ "\""
  | tooDeep container =>
      "maximum recursion depth exceeded while decoding a JSON " ++ container
        ++ " from a unicode string"
  | longInteger =>
      "Exceeds the limit (4300 digits) for integer string conversion; use "
        ++ "sys.set_int_max_str_digits() to increase the limit"
  | calendar f => calendarMessage f
  | identifier f => identifierMessage f
  | unknownWord vocabulary value => value.nested ++ " is not a valid " ++ vocabulary
  | unknownTemplate name => "Unknown notification template: " ++ name
  | missingValue name => Text.quoted name
  | unknownChannel kind => "Unknown notification channel kind: " ++ kind
  | credential f => f.message
  | strangeClient => "Issuer (iss) must be a string."
  | strangeSecret => "Expected string value"
  | asymmetricKey =>
      "The specified key is an asymmetric key or x509 certificate and should not be used "
        ++ "as an HMAC secret."
  | objectKey =>
      "The specified key looks like a JWK and should not be used directly as an HMAC secret. "
        ++ "Load it via PyJWK / HMACAlgorithm.from_jwk first."
  | unknownScheme url => "unknown url type: " ++ Text.quoted url
  | refusedAddress url => "Invalid URL detected: " ++ url
  | block f => f.message
  | noLength kind => "object of type '" ++ kind ++ "' has no len()"
  | notText kind => "can only concatenate str (not \"" ++ kind ++ "\") to str"
  | notOrdered relation kind =>
      "'" ++ relation ++ "' not supported between instances of 'int' and '" ++ kind ++ "'"
  | notAnIndex => "slice indices must be integers or None or have an __index__ method"
  | notJoined kind => "sequence item 1: expected str instance, " ++ kind ++ " found"
  | notCallable kind => "'" ++ kind ++ "' object is not callable"
  | repeatedArgument callee name =>
      callee ++ "() got multiple values for keyword argument '" ++ name ++ "'"
  | filledArgument callee name =>
      callee ++ "() got multiple values for argument '" ++ name ++ "'"
  | unexpectedArgument callee name =>
      callee ++ "() got an unexpected keyword argument '" ++ name ++ "'"
  | furtherArgument callee => callee ++ "() takes 1 positional argument but 2 were given"
  | missingArguments callee names => missingMessage callee names
  | thresholdKind shown => "Level not an integer or a valid string: " ++ shown
  | thresholdText name => "Unknown level: " ++ Text.quoted name
  | unknownKey value => value.nested
  | notAKey kind => "unhashable type: '" ++ kind ++ "'"
  | recordKind kind => "__class__ must be set to a class, not '" ++ kind ++ "' object"
  | recordMembers kind => "__dict__ must be set to a dictionary, not a '" ++ kind ++ "'"
  | keptMember record member =>
      "attribute '" ++ member ++ "' of '" ++ record ++ "' objects is not writable"
  | absentMaker type maker =>
      "type object '" ++ type ++ "' has no attribute '" ++ maker ++ "'"
  | absent holder member => "'" ++ holder ++ "' object has no attribute '" ++ member ++ "'"
  | computedMember record member =>
      "property '" ++ member ++ "' of '" ++ record ++ "' object has no setter"
  | unknownMember record member =>
      "\"" ++ record ++ "\" object has no field \"" ++ member ++ "\""

/-- The failure of settings that cannot be loaded. -/
def ofSettings : Settings.Fault → Failure
  | .rejected r => .rejected r
  | .unreadable name source => .unreadableSection name source
  | .tooDeep container => .tooDeep container

/-- The failure of reading a member of nothing. -/
def nothingHas (member : String) : Failure := .absent Json.null.typeName member

/-- The failure of setting a member of a record. -/
def ofAssign (record : String) : Record.AssignFault → Failure
  | .frozen member value => .rejected ⟨record, [⟨[member], .frozen, value⟩]⟩
  | .derived member => .computedMember record member
  | .unknown member => .unknownMember record member
  | .kept member => .keptMember record member
  | .kind value => .recordKind value.typeName
  | .members value => .recordMembers value.typeName
  | .writer value => .absent value.typeName "to_python"

end Failure

end JobHerald
