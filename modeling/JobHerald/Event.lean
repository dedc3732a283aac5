import JobHerald.Catalog.Basic
import JobHerald.Trigger

/-!
# Events

What notifications tell: the summary of a finished job, and the contexts of the
other announcements.

## Main definitions

* `Resource` — a workspace, connection or connector, with its address.
* `EventSummary` — a finished job.
* `ConnectionEvent`, `SchemaUpdate`, `BreakingChange` — the other announcements.
-/

namespace JobHerald

/-! ### Resources -/

/-- An identifier as a value. -/
def Uuid.toJson (u : Uuid) : Json := .str u.render

/-- A workspace, connection or connector. -/
structure Resource where
  /-- Its name. -/
  name : String
  /-- Its identifier. -/
  id : Uuid
  /-- Its address in the web application. -/
  url : String
  deriving DecidableEq, Repr

instance : Record Resource where
  name := "ResourceInfo"
  frozen := true
  derived := []
  read := Read.object fun fs =>
    Resource.mk
      <$> Read.required "name" Read.text fs
      <*> Read.required "id" Read.uuid fs
      <*> Read.required "url" Read.text fs
  members r := [("name", .str r.name), ("id", Uuid.toJson r.id), ("url", .str r.url)]

/-! ### Job events -/

/-- The identifier of a job in a summary. -/
inductive JobId where
  /-- A number. -/
  | number (n : Int)
  /-- A text. -/
  | text (s : String)
  deriving DecidableEq, Repr

namespace JobId

/-- The identifier as a value. -/
def toJson : JobId → Json
  | number n => .int n
  | text s => .str s

/-- The identifier as text. -/
def render : JobId → String
  | number n => Text.decimal n
  | text s => s

/-- A text stays a text, and what stands for a whole number is that number. -/
def read : Reader JobId
  | .str s => .valid (.text s)
  | v =>
      match Read.integer v with
      | .valid n => .valid (.number n)
      | .invalid issues =>
          .invalid (issues.map (·.inside "int") ++ [⟨["str"], .textType, v⟩])

end JobId

/-- The summary of a finished job, for every channel. -/
structure EventSummary where
  /-- The workspace that owns the connection. -/
  workspace : Resource
  /-- The connection the job ran for. -/
  connection : Resource
  /-- The source. -/
  source : Resource
  /-- The destination. -/
  destination : Resource
  /-- When the job started. -/
  startedAt : Option Timestamp
  /-- When the job last changed. -/
  finishedAt : Option Timestamp
  /-- Whether the job succeeded. -/
  isSuccess : Bool
  /-- The job. -/
  jobId : JobId
  /-- Why the job failed. -/
  errorMessage : Option String
  /-- Records read from the source. -/
  recordsEmitted : Nat
  /-- Records written to the destination. -/
  recordsCommitted : Nat
  /-- Bytes read from the source. -/
  bytesEmitted : Nat
  /-- Bytes written to the destination. -/
  bytesCommitted : Nat
  deriving DecidableEq, Repr

/-- A timestamp as a value. -/
def Timestamp.toJson (t : Timestamp) : Json := .str t.render

/-- A reader of a timestamp or null. -/
def Read.timestampOrNull : Reader (Option Timestamp) := Read.nullable Read.timestamp

/-- Both times of the job, if both are known. -/
def EventSummary.times? (s : EventSummary) : Option (Timestamp × Timestamp) :=
  match s.startedAt, s.finishedAt with
  | some start, some stop => some (start, stop)
  | _, _ => none

instance : Record EventSummary where
  name := "EventSummary"
  frozen := true
  derived := ["duration_available"]
  read := Read.object fun fs =>
    EventSummary.mk
      <$> Read.required "workspace" Record.read fs
      <*> Read.required "connection" Record.read fs
      <*> Read.required "source" Record.read fs
      <*> Read.required "destination" Record.read fs
      <*> Read.optional "started_at" Read.timestampOrNull none fs
      <*> Read.optional "finished_at" Read.timestampOrNull none fs
      <*> Read.required "is_success" Read.flag fs
      <*> Read.required "job_id" JobId.read fs
      <*> Read.optional "error_message" (Read.nullable Read.text) none fs
      <*> Read.optional "records_emitted" Read.natural 0 fs
      <*> Read.optional "records_committed" Read.natural 0 fs
      <*> Read.optional "bytes_emitted" Read.natural 0 fs
      <*> Read.optional "bytes_committed" Read.natural 0 fs
  members s :=
    [("workspace", Record.toJson s.workspace), ("connection", Record.toJson s.connection),
      ("source", Record.toJson s.source), ("destination", Record.toJson s.destination),
      ("started_at", .orNull Timestamp.toJson s.startedAt),
      ("finished_at", .orNull Timestamp.toJson s.finishedAt),
      ("is_success", .bool s.isSuccess), ("job_id", s.jobId.toJson),
      ("error_message", .ofOption s.errorMessage),
      ("records_emitted", .int s.recordsEmitted), ("records_committed", .int s.recordsCommitted),
      ("bytes_emitted", .int s.bytesEmitted), ("bytes_committed", .int s.bytesCommitted)]

/-! ### Other announcements -/

/-- An address as a value. -/
def Email.toJson (e : Email) : Json := .str e.address

/-- A reader of an address or null. -/
def Read.emailOrNull : Reader (Option Email) := Read.nullable Read.email

/-- A connection that was disabled, or is about to be. -/
structure ConnectionEvent where
  /-- Whom to tell. -/
  receiver : Option Email
  /-- The kind of source. -/
  sourceConnector : String
  /-- The kind of destination. -/
  destinationConnector : String
  /-- The most recent job in a sentence. -/
  jobDescription : String
  /-- The workspace. -/
  workspaceId : Uuid
  /-- The connection. -/
  connectionId : Uuid
  deriving DecidableEq, Repr

instance : Record ConnectionEvent where
  name := "ConnectionEventContext"
  frozen := true
  derived := []
  read := Read.object fun fs =>
    ConnectionEvent.mk
      <$> Read.optional "receiver_email" Read.emailOrNull none fs
      <*> Read.required "source_connector" Read.text fs
      <*> Read.required "destination_connector" Read.text fs
      <*> Read.required "job_description" Read.text fs
      <*> Read.required "workspace_id" Read.uuid fs
      <*> Read.required "connection_id" Read.uuid fs
  members c :=
    [("receiver_email", .orNull Email.toJson c.receiver),
      ("source_connector", .str c.sourceConnector),
      ("destination_connector", .str c.destinationConnector),
      ("job_description", .str c.jobDescription), ("workspace_id", Uuid.toJson c.workspaceId),
      ("connection_id", Uuid.toJson c.connectionId)]

/-- A connection whose schema changed. -/
structure SchemaUpdate where
  /-- The workspace. -/
  workspace : Resource
  /-- The connection. -/
  connection : Resource
  /-- The source. -/
  source : Resource
  /-- What changed. -/
  diff : CatalogDiff
  /-- Whether consumers can break. -/
  isBreaking : Bool
  /-- Whom to tell. -/
  receiver : Option Email

instance : Record SchemaUpdate where
  name := "SchemaUpdateContext"
  frozen := true
  derived := []
  read := Read.object fun fs =>
    SchemaUpdate.mk
      <$> Read.required "workspace" Record.read fs
      <*> Read.required "connection" Record.read fs
      <*> Read.required "source" Record.read fs
      <*> Read.required "catalog_diff" Record.read fs
      <*> Read.optional "is_breaking_change" Read.flag false fs
      <*> Read.optional "receiver_email" Read.emailOrNull none fs
  members u :=
    [("workspace", Record.toJson u.workspace), ("connection", Record.toJson u.connection),
      ("source", Record.toJson u.source), ("catalog_diff", Record.toJson u.diff),
      ("is_breaking_change", .bool u.isBreaking),
      ("receiver_email", .orNull Email.toJson u.receiver)]

/-- A connector whose next version breaks its connections. -/
structure BreakingChange where
  /-- Whom to tell; there is at least one. -/
  receivers : List Email
  /-- The connector. -/
  connector : String
  /-- Which end of connections it is. -/
  actor : Actor
  /-- The version. -/
  version : String
  /-- What changes. -/
  message : String
  /-- Until when to upgrade. -/
  deadline : String
  /-- Where the upgrade is described. -/
  guide : Option String

instance : Record BreakingChange where
  name := "BreakingChangeContext"
  frozen := true
  derived := []
  read := Read.object fun fs =>
    BreakingChange.mk
      <$> Read.required "receiver_emails" (Read.nonempty Read.email) fs
      <*> Read.required "connector_name" Read.text fs
      <*> Read.required "actor_type" Read.word fs
      <*> Read.required "version" Read.text fs
      <*> Read.required "message" Read.text fs
      <*> Read.required "upgrade_deadline" Read.text fs
      <*> Read.optional "migration_documentation_url" (Read.nullable Read.text) none fs
  members b :=
    [("receiver_emails", .arr (b.receivers.map fun e => .str e.address)),
      ("connector_name", .str b.connector), ("actor_type", .str (Vocabulary.word b.actor)),
      ("version", .str b.version), ("message", .str b.message),
      ("upgrade_deadline", .str b.deadline),
      ("migration_documentation_url", .ofOption b.guide)]

end JobHerald
