import JobHerald.Channel.Basic
import JobHerald.Endpoint
import JobHerald.Message.Template
import JobHerald.Signature

/-!
# The webhook channel

The text of a notice is posted to an endpoint of any kind.  Breaking changes are not
announced here.

## Main definitions

* `Endpoint.Target`, `Endpoint.Target.ofArguments` — where texts go.
* `Endpoint.Target.send` — a text is posted.
* `Endpoint.Target.channel` — the channel.
-/

namespace JobHerald.Endpoint

/-- Where texts go. -/
structure Target where
  /-- The address; an empty one means none. -/
  url : String
  /-- Seconds until a post is given up, unless the settings decide. -/
  timeout : Option Int
  deriving DecidableEq, Repr

namespace Target

/-- The signature of the maker of targets. -/
def signature : Signature :=
  ⟨"GenericWebhookChannel.__init__", ["self"], ["url"], ["timeout"], false⟩

/-- The target with given arguments; an address that is null is empty. -/
def ofArguments (args : Fields) : Except Failure Target :=
  match signature.fault? args with
  | some f => .error f
  | none =>
      .ok ⟨((Fields.get? "url" args).bind Json.str?).getD "",
        (Fields.get? "timeout" args).bind Json.counted?⟩

/-! ### Sending -/

/-- What becomes of a failure while a text is posted. -/
def postFailure (e : Failure) : Failure :=
  if e.family.isRequest then
    undelivered ("Failed to reach webhook: " ++ e.message) "CONNECTION_ERROR"
  else e

/-- There is no address. -/
def skip : Action Json := do
  Action.info "webhook_notification_skipped" [("reason", .str "empty_url")]
  return declined

/-- What a response comes to. -/
def conclude (r : Response) : Action Json :=
  if r.isAccepted then do
    Action.info "webhook_notification_delivered" [("status_code", .int r.status)]
    return delivered
  else do
    Action.log .error "webhook_notification_failed" (refusalFields r)
    Action.fail (refused "Failed to deliver notification" r)

/-- A text is posted once, unless there is no address. -/
def send (t : Target) (text : String) : Action Json :=
  if t.url = "" then skip
  else do
    let response ←
      (post t.url (.obj [("text", .str text)]) t.timeout).handle fun e => .fail (postFailure e)
    conclude response

/-- A template with its values is posted. -/
def sendTemplate (t : Target) (template : String) (values : Fields) : Action Json := do
  t.send (← Action.ofExcept (Template.render template values))

/-! ### The channel -/

/-- What the channel says about itself. -/
def declaration : Declaration :=
  ⟨"webhook", [.jobFailure, .jobSuccess, .connectionDisabled, .connectionDisableWarning,
    .schemaPropagated, .test]⟩

/-- The announcement of a notice. -/
def deliver (t : Target) : Notice → Action Json
  | .jobFailure s _ => t.sendTemplate "job_failure" (Template.jobValues s)
  | .jobSuccess s _ => t.sendTemplate "job_success" (Template.jobValues s)
  | .connectionDisabled c => t.sendTemplate "connection_disabled" (Template.connectionValues c)
  | .connectionDisableWarning c =>
      t.sendTemplate "connection_disable_warning" (Template.connectionValues c)
  | .schemaPropagated summary u =>
      t.sendTemplate "schema_propagated" (Template.schemaValues summary u)
  | .breakingChangeWarning _ => refuseWarning declaration.kind
  | .breakingChangeSyncsDisabled _ => refuseSyncsDisabled declaration.kind
  | .test message => t.send message

/-- The channel for a target. -/
def channel (t : Target) : Channel := ⟨declaration, t.deliver, pure (.str "N/A")⟩

end Target

end JobHerald.Endpoint
