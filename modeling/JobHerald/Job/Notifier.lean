import JobHerald.Catalog.Summary
import JobHerald.Dispatcher
import JobHerald.Job.Repository
import JobHerald.Job.Summary
import JobHerald.Job.Tracking
import JobHerald.Log.Context
import JobHerald.Message.Duration

/-!
# The notifier

The notifier tells a workspace what happened to its jobs and connections.  It looks up
the workspace and the connection, makes the notice, dispatches it through the channels
that the workspace's policy binds to the trigger, and reports it to analytics if some
channel fired.  A failed step abandons the notification and is only seen in the log.

## Main definitions

* `Metadata` — what is known about a connection.
* `Notifier` — the repository, the analytics, the dispatcher and the addresses.
* `Notifier.notifyJob` — a job event, by trigger; `failJob`, `succeedJob`,
  `disableConnection` and `warnBeforeDisabling` name the triggers.
* `Notifier.notifySchemaChange`, `Notifier.notifyBreakingChange`, `Notifier.sendTest` — the
  other notifications.
-/

namespace JobHerald

/-! ### What is known about a connection -/

/-- What is known about a connection. -/
structure Metadata where
  /-- The connection. -/
  connection : Connection
  /-- Its source. -/
  source : Option Source
  /-- Its destination. -/
  destination : Option Destination
  /-- The kind of its source. -/
  sourceDefinition : Option ConnectorDefinition
  /-- The kind of its destination. -/
  destinationDefinition : Option ConnectorDefinition
  deriving DecidableEq, Repr

/-- What the repository knows about a connection. -/
def Repository.metadata (r : Repository) (connection : Uuid) : Action Metadata := do
  let c ← present "source_id" (← r.findConnection connection)
  let source ← r.findSource c.sourceId
  let destination ← r.findDestination c.destinationId
  let sourceDefinition ← r.findSourceDefinition connection
  let destinationDefinition ← r.findDestinationDefinition connection
  return ⟨c, source, destination, sourceDefinition, destinationDefinition⟩

/-! ### Notifiers -/

/-- What notifying needs. -/
structure Notifier where
  /-- Where workspaces and connections are looked up. -/
  repository : Repository
  /-- Where notifications that fired are reported. -/
  analytics : Analytics
  /-- What delivers notices. -/
  dispatcher : Dispatcher
  /-- The addresses in the web application. -/
  urls : WebUrls

namespace Notifier

/-- A notifier for settings that are given, or else for those of the process.  Unless
there is a dispatcher, channels are made for the same settings. -/
def create (repository : Repository) (analytics : Analytics) (metrics : Metrics)
    (given : Option Settings) (dispatcher : Option Dispatcher) : Action Notifier := do
  let s ← settingsOr given
  return ⟨repository, analytics,
    dispatcher.getD (Dispatch.dispatcher ⟨some s, metrics, Channel.create⟩),
    WebUrls.ofBase s.webApp.url⟩

/-! ### Steps -/

/-- A workspace that is not there. -/
def noWorkspace (what : String) : Failure :=
  .operation (.withCode .workspace ("No workspace found for " ++ what) none)

/-- The workspace of a job. -/
def workspaceForJob (n : Notifier) (job : Job) : Action (Option Workspace) := do
  match ← n.repository.findWorkspaceOfJob job.id with
  | none => .fail (noWorkspace ("job " ++ Text.decimal job.id))
  | some id => n.repository.findWorkspace id

/-- The workspace of a job, unless it is known already; there is no answer if the look-up
fails. -/
def resolveWorkspace (n : Notifier) (job : Job) (known : Option Workspace) :
    Action (Option (Option Workspace)) :=
  match known with
  | some w => pure (some (some w))
  | none => do
      let r ← attempt (n.workspaceForJob job) "notification_workspace_lookup_failed" []
      return r.value?

/-- The connection of a job. -/
def metadataForJob (n : Notifier) (job : Job) : Action Metadata := do
  let connection ← Action.ofExcept (job.connectionId.mapError .identifier)
  n.repository.metadata connection

/-- The summary of a finished job. -/
def summary (n : Notifier) (job : Job) (attempts : List AttemptStats) (workspace : Workspace)
    (m : Metadata) (reason : Option String) : Action EventSummary := do
  let source ← present "name" m.source
  let destination ← present "name" m.destination
  Action.ofExcept
    ((EventSummary.build job attempts workspace m.connection source destination n.urls
      reason).mapError .rejected)

/-- When the first attempt of a job started, or else when the job was made. -/
def startOf (job : Job) : Timestamp := job.startedAt.getD job.createdAt

/-- The event of a connection whose jobs keep failing. -/
def connectionEvent (job : Job) (workspace : Workspace) (m : Metadata) (reason : Option String) :
    Action ConnectionEvent := do
  let source ← present "name" m.sourceDefinition
  let destination ← present "name" m.destinationDefinition
  let s ← Action.surroundings
  let description ← Action.ofExcept
    ((Duration.describeJob (startOf job) job.updatedAt reason
      (Timestamp.ofClock s.clock)).mapError .calendar)
  let connection ← Action.ofExcept (job.connectionId.mapError .identifier)
  return ⟨workspace.email, source.name, destination.name, description, workspace.id, connection⟩

/-- The address of a workspace as a text. -/
def receiverOf (w : Workspace) : Option String := w.email.map (·.address)

/-- The notice about a job event. -/
def jobNotice (n : Notifier) (event : JobEvent) (job : Job) (attempts : List AttemptStats)
    (workspace : Workspace) (m : Metadata) (reason : Option String) : Action Notice :=
  match event with
  | .failure => do
      return .jobFailure (← n.summary job attempts workspace m reason) (receiverOf workspace)
  | .success => do
      return .jobSuccess (← n.summary job attempts workspace m reason) (receiverOf workspace)
  | .disabled => do return .connectionDisabled (← connectionEvent job workspace m reason)
  | .disableWarning => do
      return .connectionDisableWarning (← connectionEvent job workspace m reason)

/-- The binding of a trigger; a workspace without a policy has none. -/
def bindingFor (w : Workspace) (t : Trigger) : Action (Option ChannelBinding) :=
  match w.policy with
  | some p => pure (p.bindingFor t)
  | none => do
      Action.log .warning "notification_policy_missing" []
      return none

/-- A notice for a workspace is dispatched. -/
def dispatchFor (n : Notifier) (w : Workspace) (t : Trigger) (notice : Notice) :
    Action (Option DispatchReport) := do
  let r ← attempt
    (do
      let binding ← bindingFor w t
      n.dispatcher.dispatch t binding notice (receiverOf w))
    "notification_dispatch_failed" []
  return r.value?

/-- A notification is reported to analytics if some channel fired. -/
def track (n : Notifier) (w : Workspace) (t : Trigger) (r : DispatchReport) (connection : Uuid)
    (attributes : Action Fields) : Action Unit :=
  if r.fired.isEmpty then pure ()
  else do
    let _ ← attempt
      (do
        let base ← attributes
        n.analytics w.id t.word (base ++ Tracking.notification connection r))
      "notification_tracking_failed" []

/-- A notice for a workspace is dispatched, and reported to analytics.  The connection is
only named after the dispatch, whether or not some channel fired. -/
def publish (n : Notifier) (w : Workspace) (t : Trigger) (notice : Notice)
    (connection : Action Uuid) (attributes : Action Fields) : Action (Option DispatchReport) := do
  match ← n.dispatchFor w t notice with
  | none => return none
  | some report =>
      n.track w t report (← connection) attributes
      return some report

/-! ### Job events -/

/-- What analytics are told about a job event. -/
def jobAttributes (job : Job) (m : Metadata) : Action Fields := do
  let source ← present "name" m.sourceDefinition
  let destination ← present "name" m.destinationDefinition
  return Tracking.job job ++ Tracking.sourceDefinition source
    ++ Tracking.destinationDefinition destination

/-- A job event once the workspace and the connection are known. -/
def announceJob (n : Notifier) (event : JobEvent) (job : Job) (attempts : List AttemptStats)
    (w : Workspace) (m : Metadata) (reason : Option String) :
    Action (Option DispatchReport) := do
  let built ← attempt (n.jobNotice event job attempts w m reason) "notification_build_failed" []
  match built.value? with
  | none => return none
  | some notice =>
      n.publish w event.trigger notice (Action.ofExcept (job.connectionId.mapError .identifier))
        (jobAttributes job m)

/-- A job event for a workspace. -/
def notifyWorkspace (n : Notifier) (event : JobEvent) (job : Job) (attempts : List AttemptStats)
    (w : Workspace) (reason : Option String) : Action (Option DispatchReport) := do
  let resolved ← attempt (n.metadataForJob job) "notification_metadata_lookup_failed"
    [("workspace_id", .str w.id.render)]
  match resolved.value? with
  | none => return none
  | some m => n.announceJob event job attempts w m reason

/-- A job event. -/
def notifyEvent (n : Notifier) (event : JobEvent) (job : Job) (attempts : List AttemptStats)
    (workspace : Option Workspace) (reason : Option String) :
    Action (Option DispatchReport) := do
  match ← n.resolveWorkspace job workspace with
  | none => return none
  | some w => n.notifyWorkspace event job attempts (← present "workspace_id" w) reason

/-- What happened to a job, by trigger.  The answer is nothing if the notification was
abandoned. -/
def notifyJob (n : Notifier) (t : Trigger) (job : Job) (attempts : List AttemptStats)
    (workspace : Option Workspace) (reason : Option String) : Action (Option DispatchReport) :=
  Action.within { Log.Binding.none with job := .int job.id, trigger := .str t.word } <|
    match t.jobEvent? with
    | some event => n.notifyEvent event job attempts workspace reason
    | none => do
        Action.log .warning "job_notification_unsupported_trigger" []
        return none

/-- A job failed. -/
def failJob (n : Notifier) (reason : Option String) (job : Job) (attempts : List AttemptStats) :
    Action (Option DispatchReport) := n.notifyJob .failure job attempts none reason

/-- A job succeeded. -/
def succeedJob (n : Notifier) (job : Job) (attempts : List AttemptStats) :
    Action (Option DispatchReport) := n.notifyJob .success job attempts none none

/-- A connection was disabled because its jobs kept failing. -/
def disableConnection (n : Notifier) (job : Job) (attempts : List AttemptStats) :
    Action (Option DispatchReport) := n.notifyJob .disabled job attempts none none

/-- A connection is about to be disabled. -/
def warnBeforeDisabling (n : Notifier) (job : Job) (attempts : List AttemptStats) :
    Action (Option DispatchReport) := n.notifyJob .disableWarning job attempts none none

/-! ### Changed schemas -/

/-- The workspace of a connection under its looked-up identifier. -/
def workspaceForConnection (n : Notifier) (connection : Uuid) :
    Action (Uuid × Option Workspace) := do
  match ← n.repository.findWorkspaceOfConnection connection with
  | none => .fail (noWorkspace ("connection " ++ connection.render))
  | some id => return (id, ← n.repository.findWorkspace id)

/-- What a schema change is announced with. -/
def schemaContext (n : Notifier) (connection : Uuid) (diff : CatalogDiff) (breaking : Bool) :
    Action (Workspace × Metadata × SchemaUpdate) := do
  let (id, found) ← n.workspaceForConnection connection
  let m ← n.repository.metadata connection
  let w ← present "name" found
  let source ← present "name" m.source
  let update : SchemaUpdate :=
    ⟨⟨w.name, id, n.urls.workspace id⟩,
      ⟨m.connection.name, connection, n.urls.connection id connection⟩,
      ⟨source.name, source.id, n.urls.source id source.id⟩, diff, breaking, w.email⟩
  return (w, m, update)

/-- What analytics are told about a schema change. -/
def schemaAttributes (breaking : Bool) (m : Metadata) : Action Fields := do
  let source ← present "name" m.sourceDefinition
  return ("is_breaking_change", .bool breaking) :: Tracking.sourceDefinition source

/-- The schema of a connection changed.  The answer is nothing if the notification was
abandoned. -/
def notifySchemaChange (n : Notifier) (connection : Uuid) (diff : CatalogDiff)
    (breaking : Bool) : Action (Option DispatchReport) :=
  Action.within
    { Log.Binding.none with
      trigger := .str Trigger.schemaChange.word
      extra := [("connection_id", .str connection.render)] } do
    let resolved ← attempt (n.schemaContext connection diff breaking)
      "notification_metadata_lookup_failed" []
    match resolved.value? with
    | none => return none
    | some (w, m, update) =>
        n.publish w .schemaChange (.schemaPropagated diff.summary update) (pure connection)
          (schemaAttributes breaking m)

/-! ### Breaking changes and tests -/

/-- A breaking change is to come, or has disabled syncs.  It only goes through the email
channel, as one bulk job. -/
def notifyBreakingChange (n : Notifier) (change : BreakingChange) (syncsDisabled : Bool) :
    Action ChannelAttempt :=
  Action.within { Log.Binding.none with extra := [("connector", .str change.connector)] } do
    let notice : Notice :=
      if syncsDisabled then .breakingChangeSyncsDisabled change
      else .breakingChangeWarning change
    let r ← attempt (n.dispatcher.deliver .email none notice) "notification_dispatch_failed" []
    match r.value? with
    | some a => return a
    | none => return ⟨none, some .email, .failed, r.message, r.errorCode, none⟩

/-- A test through every channel of a binding. -/
def sendTest (n : Notifier) (binding : ChannelBinding) (message : String) :
    Action (List ChannelAttempt) :=
  Action.within { Log.Binding.none with trigger := .str "test" } do
    let r ← attempt (n.dispatcher.sendTest binding message) "notification_dispatch_failed" []
    let attempts := r.value?.getD []
    Action.info "test_notification_sent"
      [("delivered", .int (attempts.countP (·.isSuccess))), ("channels", .int attempts.length)]
    return attempts

end Notifier

end JobHerald
