import JobHerald.Event
import JobHerald.Policy

/-!
# Jobs and what they run for

The records that the notifier is given or looks up.

## Main definitions

* `Job`, `SyncStats`, `AttemptStats` — a job, and the counters of its attempts.
* `Workspace`, `Connection`, `Source`, `Destination`, `ConnectorDefinition` — what a
  job runs for.
* `Job.connectionId` — the connection that a job's scope names.
-/

namespace JobHerald

/-! ### Vocabularies -/

/-- Where a job stands. -/
inductive JobStatus where
  /-- It waits. -/
  | pending
  /-- It runs. -/
  | running
  /-- An attempt ended early. -/
  | incomplete
  /-- It failed. -/
  | failed
  /-- It succeeded. -/
  | succeeded
  /-- It was cancelled. -/
  | cancelled
  deriving DecidableEq, Repr, Inhabited

instance : Vocabulary JobStatus where
  name := "JobStatus"
  all := [.pending, .running, .incomplete, .failed, .succeeded, .cancelled]
  word
    | .pending => "pending"
    | .running => "running"
    | .incomplete => "incomplete"
    | .failed => "failed"
    | .succeeded => "succeeded"
    | .cancelled => "cancelled"

/-- What a job does. -/
inductive JobType where
  /-- It moves records. -/
  | sync
  /-- It empties a connection. -/
  | reset
  /-- It moves all records anew. -/
  | refresh
  /-- It removes what was written. -/
  | clear
  deriving DecidableEq, Repr, Inhabited

instance : Vocabulary JobType where
  name := "JobConfigType"
  all := [.sync, .reset, .refresh, .clear]
  word
    | .sync => "sync"
    | .reset => "reset_connection"
    | .refresh => "refresh"
    | .clear => "clear"

/-! ### Jobs -/

/-- A job. -/
structure Job where
  /-- Its number. -/
  id : Int
  /-- What it does. -/
  type : JobType
  /-- The text that names the connection it runs for. -/
  scope : String
  /-- Where it stands. -/
  status : JobStatus
  /-- When it was made. -/
  createdAt : Timestamp
  /-- When it last changed. -/
  updatedAt : Timestamp
  /-- When its first attempt started. -/
  startedAt : Option Timestamp
  /-- How many attempts there were. -/
  attemptCount : Int
  deriving DecidableEq, Repr

/-- The connection that a job's scope names. -/
def Job.connectionId (j : Job) : Except Uuid.Fault Uuid := Uuid.ofText j.scope

instance : Record Job where
  name := "Job"
  frozen := false
  derived := ["connection_id"]
  integers := ["id", "attempt_count"]
  read := Read.object fun fs =>
    Job.mk
      <$> Read.required "id" Read.integer fs
      <*> Read.optional "config_type" Read.word .sync fs
      <*> Read.required "scope" Read.text fs
      <*> Read.required "status" Read.word fs
      <*> Read.required "created_at" Read.timestamp fs
      <*> Read.required "updated_at" Read.timestamp fs
      <*> Read.optional "started_at" Read.timestampOrNull none fs
      <*> Read.optional "attempt_count" Read.integer 0 fs
  members j :=
    [("id", .int j.id), ("config_type", .str (Vocabulary.word j.type)), ("scope", .str j.scope),
      ("status", .str (Vocabulary.word j.status)), ("created_at", .str j.createdAt.render),
      ("updated_at", .str j.updatedAt.render), ("started_at", .orNull Timestamp.toJson j.startedAt),
      ("attempt_count", .int j.attemptCount)]

/-! ### Counters -/

/-- The counters of an attempt; any of them may be missing. -/
structure SyncStats where
  /-- Records read. -/
  recordsEmitted : Option Int
  /-- Records written. -/
  recordsCommitted : Option Int
  /-- Bytes read. -/
  bytesEmitted : Option Int
  /-- Bytes written. -/
  bytesCommitted : Option Int
  deriving DecidableEq, Repr

instance : Record SyncStats where
  name := "SyncStats"
  frozen := false
  derived := []
  integers := ["records_emitted", "records_committed", "bytes_emitted", "bytes_committed"]
  read := Read.object fun fs =>
    SyncStats.mk
      <$> Read.optional "records_emitted" (Read.nullable Read.integer) none fs
      <*> Read.optional "records_committed" (Read.nullable Read.integer) none fs
      <*> Read.optional "bytes_emitted" (Read.nullable Read.integer) none fs
      <*> Read.optional "bytes_committed" (Read.nullable Read.integer) none fs
  members s :=
    [("records_emitted", .orNull .int s.recordsEmitted),
      ("records_committed", .orNull .int s.recordsCommitted),
      ("bytes_emitted", .orNull .int s.bytesEmitted),
      ("bytes_committed", .orNull .int s.bytesCommitted)]

/-- The statistics of an attempt, if they are known. -/
structure AttemptStats where
  /-- The counters. -/
  combined : Option SyncStats
  deriving DecidableEq, Repr

instance : Record AttemptStats where
  name := "AttemptStats"
  frozen := false
  derived := []
  read := Read.object fun fs =>
    AttemptStats.mk <$> Read.optional "combined_stats" (Read.nullable Record.read) none fs
  members a := [("combined_stats", .orNull Record.toJson a.combined)]

/-! ### Workspaces and connections -/

/-- A workspace, which owns connections. -/
structure Workspace where
  /-- Its identifier. -/
  id : Uuid
  /-- Its name. -/
  name : String
  /-- Where it is reached. -/
  email : Option Email
  /-- Its notification policy. -/
  policy : Option NotificationPolicy
  deriving DecidableEq, Repr

instance : Record Workspace where
  name := "Workspace"
  frozen := false
  derived := []
  read := Read.object fun fs =>
    Workspace.mk
      <$> Read.required "workspace_id" Read.uuid fs
      <*> Read.required "name" Read.text fs
      <*> Read.optional "email" Read.emailOrNull none fs
      <*> Read.optional "notification_policy" (Read.nullable Record.read) none fs
  members w :=
    [("workspace_id", Uuid.toJson w.id), ("name", .str w.name),
      ("email", .orNull Email.toJson w.email),
      ("notification_policy", .orNull Record.toJson w.policy)]

/-- A connection from a source to a destination. -/
structure Connection where
  /-- Its identifier. -/
  id : Uuid
  /-- Its name. -/
  name : String
  /-- The source. -/
  sourceId : Uuid
  /-- The destination. -/
  destinationId : Uuid
  deriving DecidableEq, Repr

instance : Record Connection where
  name := "Connection"
  frozen := false
  derived := []
  read := Read.object fun fs =>
    Connection.mk
      <$> Read.required "connection_id" Read.uuid fs
      <*> Read.required "name" Read.text fs
      <*> Read.required "source_id" Read.uuid fs
      <*> Read.required "destination_id" Read.uuid fs
  members c :=
    [("connection_id", Uuid.toJson c.id), ("name", .str c.name),
      ("source_id", Uuid.toJson c.sourceId), ("destination_id", Uuid.toJson c.destinationId)]

/-- A source. -/
structure Source where
  /-- Its identifier. -/
  id : Uuid
  /-- Its name. -/
  name : String
  /-- Its definition. -/
  definitionId : Option Uuid
  deriving DecidableEq, Repr

instance : Record Source where
  name := "Source"
  frozen := false
  derived := []
  read := Read.object fun fs =>
    Source.mk
      <$> Read.required "source_id" Read.uuid fs
      <*> Read.required "name" Read.text fs
      <*> Read.optional "source_definition_id" (Read.nullable Read.uuid) none fs
  members s :=
    [("source_id", Uuid.toJson s.id), ("name", .str s.name),
      ("source_definition_id", .orNull Uuid.toJson s.definitionId)]

/-- A destination. -/
structure Destination where
  /-- Its identifier. -/
  id : Uuid
  /-- Its name. -/
  name : String
  /-- Its definition. -/
  definitionId : Option Uuid
  deriving DecidableEq, Repr

instance : Record Destination where
  name := "Destination"
  frozen := false
  derived := []
  read := Read.object fun fs =>
    Destination.mk
      <$> Read.required "destination_id" Read.uuid fs
      <*> Read.required "name" Read.text fs
      <*> Read.optional "destination_definition_id" (Read.nullable Read.uuid) none fs
  members d :=
    [("destination_id", Uuid.toJson d.id), ("name", .str d.name),
      ("destination_definition_id", .orNull Uuid.toJson d.definitionId)]

/-- The kind of connector that a source or destination is. -/
structure ConnectorDefinition where
  /-- Its identifier. -/
  id : Uuid
  /-- Its name. -/
  name : String
  /-- Where its image is. -/
  repository : String
  /-- The tag of its image. -/
  tag : String
  deriving DecidableEq, Repr

instance : Record ConnectorDefinition where
  name := "ConnectorDefinition"
  frozen := false
  derived := []
  read := Read.object fun fs =>
    ConnectorDefinition.mk
      <$> Read.required "definition_id" Read.uuid fs
      <*> Read.required "name" Read.text fs
      <*> Read.optional "docker_repository" Read.text "" fs
      <*> Read.optional "docker_image_tag" Read.text "" fs
  members d :=
    [("definition_id", Uuid.toJson d.id), ("name", .str d.name),
      ("docker_repository", .str d.repository), ("docker_image_tag", .str d.tag)]

end JobHerald
