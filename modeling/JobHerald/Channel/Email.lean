import JobHerald.Channel.Basic
import JobHerald.Mail.Client
import JobHerald.Message.Duration
import JobHerald.Message.Template
import JobHerald.Message.Volume

/-!
# The email channel

Emails are templates of the email service.  Every kind of notice has a template of its
own, and a blank template turns the kind off.  Breaking changes are sent to all of
their receivers as one bulk job.

## Main definitions

* `Mail.jobValues`, `Mail.connectionValues`, `Mail.schemaValues`, `Mail.bulkValues` — the
  values put into the templates.
* `Mail.Account` — the service, and the receiver of notices that name none.
* `Mail.Account.send`, `Mail.Account.sendAll` — one email, and a bulk job.
* `Mail.Account.channel` — the channel.
-/

namespace JobHerald.Mail

/-! ### Values of templates -/

/-- The time a job took, or nothing unless both of its times are known. -/
def jobDuration (s : EventSummary) : Except CalendarFault String :=
  match s.times? with
  | some (start, stop) => Duration.between start stop
  | none => .ok ""

/-- The values of a finished job. -/
def jobValues (s : EventSummary) : Except Failure Fields :=
  match jobDuration s with
  | .error f => .error (.calendar f)
  | .ok duration =>
      .ok
        [("workspace_name", .str s.workspace.name), ("connection_name", .str s.connection.name),
          ("connection_url", .str s.connection.url), ("source_name", .str s.source.name),
          ("destination_name", .str s.destination.name), ("job_id", .str s.jobId.render),
          ("duration", .str duration), ("error_message", .str (s.errorMessage.getD "")),
          ("records_loaded", .int s.recordsCommitted),
          ("records_extracted", .int s.recordsEmitted),
          ("volume_loaded", .str (Volume.render s.bytesCommitted)),
          ("volume_extracted", .str (Volume.render s.bytesEmitted))]

/-- The values of a disabled connection. -/
def connectionValues (c : ConnectionEvent) : Fields := Template.connectionValues c

/-- The values of a changed schema. -/
def schemaValues (summary : String) (u : SchemaUpdate) : Fields :=
  [("workspace_name", .str u.workspace.name), ("connection_name", .str u.connection.name),
    ("connection_url", .str u.connection.url), ("source_name", .str u.source.name),
    ("is_breaking_change", .str (if u.isBreaking then "yes" else "no")),
    ("changes", .str summary)]

/-- The values of a breaking change. -/
def bulkValues (b : BreakingChange) : Fields :=
  [("connector_name", .str b.connector), ("connector_type", .str (Vocabulary.word b.actor)),
    ("connector_version", .str b.version), ("breaking_change_message", .str b.message),
    ("upgrade_deadline", .str b.deadline),
    ("migration_documentation_url", .str (b.guide.getD ""))]

/-! ### Accounts -/

/-- The service, and the receiver of notices that name none. -/
structure Account where
  /-- The service. -/
  settings : NotifySettings
  /-- The receiver of notices that name none. -/
  receiver : Option String
  deriving DecidableEq, Repr

namespace Account

/-- The receiver: the one that a notice names, else the account's; an empty one is none. -/
def receiverFor (a : Account) (named : Option String) : Option String :=
  match named.filter (· ≠ "") with
  | some r => some r
  | none => a.receiver.filter (· ≠ "")

/-- Whether there is a service to send a template with. -/
def isConfigured (a : Account) (template : String) : Bool :=
  a.settings.apiUrl != "" && template != ""

/-! ### Sending -/

/-- What becomes of a failure while the service is called. -/
def callFailure (e : Failure) : Failure :=
  if e.family.isRequest then
    undelivered ("Failed to reach GC Notify: " ++ e.message) "CONNECTION_ERROR"
  else if e.family.isValue then undelivered e.message "NOTIFY_CREDENTIALS_MISSING"
  else e

/-- There is no service, template or receiver. -/
def skip (fields : Fields) : Action Json := do
  Action.info "email_notification_skipped" fields
  return declined

/-- What a response comes to; only one status says that the email was accepted. -/
def conclude (template : String) (r : Response) : Action Json :=
  if r.status = 201 then do
    Action.info "email_notification_delivered" [("template_id", .str template)]
    return delivered
  else do
    Action.log .error "email_notification_failed"
      (("template_id", .str template) :: refusalFields r)
    Action.fail (refused "GC Notify rejected the email" r)

/-- A call of the service, and the check of its response. -/
def call (template : String) (x : Action Response) : Action Json := do
  let response ← x.handle fun e => .fail (callFailure e)
  conclude template response

/-- One email, unless there is no service, template or receiver. -/
def send (a : Account) (template : String) (named : Option String) (values : Fields) :
    Action Json :=
  match a.receiverFor named, a.isConfigured template with
  | some receiver, true => call template (sendEmail receiver template values)
  | receiver, _ =>
      skip [("template_id", .str template), ("has_receiver", .bool receiver.isSome)]

/-- One email about a finished job. -/
def sendJob (a : Account) (template : String) (named : Option String) (s : EventSummary) :
    Action Json := do
  a.send template named (← Action.ofExcept (jobValues s))

/-- A bulk job, unless there is no service or template. -/
def sendAll (a : Account) (title template : String) (b : BreakingChange) : Action Json :=
  if a.isConfigured template then
    call template
      (sendBulk (title ++ ": " ++ b.connector) template (b.receivers.map (·.address))
        (bulkValues b))
  else skip [("template_id", .str template)]

/-! ### The channel -/

/-- What the channel says about itself. -/
def declaration : Declaration :=
  ⟨"email", [.jobFailure, .jobSuccess, .connectionDisabled, .connectionDisableWarning,
    .schemaPropagated, .breakingChangeWarning, .breakingChangeSyncsDisabled]⟩

/-- The announcement of a notice; there is no template for tests. -/
def deliver (a : Account) : Notice → Action Json
  | .jobFailure s receiver => a.sendJob a.settings.jobFailureTemplate receiver s
  | .jobSuccess s receiver => a.sendJob a.settings.jobSuccessTemplate receiver s
  | .connectionDisabled c =>
      a.send a.settings.disabledTemplate (c.receiver.map (·.address)) (connectionValues c)
  | .connectionDisableWarning c =>
      a.send a.settings.disableWarningTemplate (c.receiver.map (·.address)) (connectionValues c)
  | .schemaPropagated summary u =>
      a.send a.settings.schemaTemplate (u.receiver.map (·.address)) (schemaValues summary u)
  | .breakingChangeWarning b =>
      a.sendAll "Breaking change warning" a.settings.breakingWarningTemplate b
  | .breakingChangeSyncsDisabled b =>
      a.sendAll "Breaking change syncs disabled" a.settings.breakingDisabledTemplate b
  | .test _ => .fail (.absent "TemplatedEmailChannel" Capability.test.word)

/-- The channel of an account. -/
def channel (a : Account) : Channel := ⟨declaration, a.deliver, pure (.str "email")⟩

end Account

end JobHerald.Mail
