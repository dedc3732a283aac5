import JobHerald.Action
import JobHerald.Event

/-!
# Channels

A channel announces notices through one transport.  It declares what it can announce;
to ask it for anything else is a failure, and nothing is sent.

## Main definitions

* `Notice`, `Notice.capability` — what can be announced, and what a channel needs for it.
* `Declaration` — what a channel says about itself.
* `Channel`, `Channel.invoke` — channels, and an announcement through one.
* `delivered`, `declined` — the two answers of the channels of this library.
-/

namespace JobHerald

/-! ### Notices -/

/-- A notice. -/
inductive Notice where
  /-- A job failed; a receiver may be named. -/
  | jobFailure (summary : EventSummary) (receiver : Option String)
  /-- A job succeeded; a receiver may be named. -/
  | jobSuccess (summary : EventSummary) (receiver : Option String)
  /-- A connection was disabled. -/
  | connectionDisabled (event : ConnectionEvent)
  /-- A connection is about to be disabled. -/
  | connectionDisableWarning (event : ConnectionEvent)
  /-- A schema changed; the summary tells how. -/
  | schemaPropagated (summary : String) (update : SchemaUpdate)
  /-- A breaking change is to come. -/
  | breakingChangeWarning (change : BreakingChange)
  /-- A breaking change disabled syncs. -/
  | breakingChangeSyncsDisabled (change : BreakingChange)
  /-- A test. -/
  | test (message : String)

/-- What a channel needs to announce a notice. -/
def Notice.capability : Notice → Capability
  | jobFailure .. => .jobFailure
  | jobSuccess .. => .jobSuccess
  | connectionDisabled _ => .connectionDisabled
  | connectionDisableWarning _ => .connectionDisableWarning
  | schemaPropagated .. => .schemaPropagated
  | breakingChangeWarning _ => .breakingChangeWarning
  | breakingChangeSyncsDisabled _ => .breakingChangeSyncsDisabled
  | test _ => .test

/-! ### Declarations -/

/-- What a channel says about itself. -/
structure Declaration where
  /-- The name of its kind. -/
  kind : String
  /-- What it can announce. -/
  capabilities : List Capability
  deriving DecidableEq, Repr

namespace Declaration

/-- Whether a capability is declared. -/
def supports (d : Declaration) (c : Capability) : Bool := d.capabilities.contains c

/-- The words of the declared capabilities, each once and in order. -/
def words (d : Declaration) : List String :=
  ((Vocabulary.all (α := Capability)).filter d.supports).map Capability.word
    |>.mergeSort (· ≤ ·)

end Declaration

/-! ### Channels -/

/-- A channel. -/
structure Channel extends Declaration where
  /-- The announcement of a notice.  The value false says that nothing was done. -/
  deliver : Notice → Action Json
  /-- The label of the channel in analytics. -/
  label : Action Json

/-- The answer of a channel that delivered. -/
def delivered : Json := .bool true

/-- The answer of a channel that is not configured and did nothing. -/
def declined : Json := .bool false

namespace Channel

/-- An announcement through a channel, which fails if the channel does not declare it. -/
def invoke (c : Channel) (n : Notice) : Action Json :=
  if c.supports n.capability then c.deliver n
  else .fail (.operation (.unsupported c.kind n.capability.word))

end Channel

/-! ### Shared failures -/

/-- A channel that cannot announce breaking changes. -/
def refuseWarning (kind : String) : Action Json :=
  .fail (.operation (.unsupported kind "breaking change warning"))

/-- A channel that cannot announce that a breaking change disabled syncs. -/
def refuseSyncsDisabled (kind : String) : Action Json :=
  .fail (.operation (.unsupported kind "breaking change syncs disabled notification"))

/-- A delivery that did not get as far as a response. -/
def undelivered (message code : String) : Failure :=
  .operation (.delivery message none none (some code))

/-- A delivery whose response was a refusal. -/
def refused (what : String) (r : Response) : Failure :=
  .operation (.delivery (what ++ " (" ++ Text.decimal r.status ++ "): " ++ r.body) (some r.status)
    (some r.body) none)

/-- The log fields of a response that was a refusal. -/
def refusalFields (r : Response) : Fields :=
  [("status_code", .int r.status), ("body", .str r.body)]

end JobHerald
