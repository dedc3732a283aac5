import JobHerald.Channel.Basic
import JobHerald.Message.Template
import JobHerald.Signature
import JobHerald.Slack.Message
import JobHerald.Slack.Webhook

/-!
# The chat channel

One message is posted for each notice.  Job events and schema changes are laid out in
blocks, the others are plain text, and breaking changes are not announced here.

## Main definitions

* `Slack.Target`, `Slack.Target.label` — where messages go, and what that is called.
* `Slack.Target.ofArguments` — a target from arguments by name.
* `Slack.Target.payload` — the message of a notice.
* `Slack.Target.send` — a message is made, checked and posted.
* `Slack.Target.channel` — the channel.
-/

namespace JobHerald.Slack

/-! ### Targets -/

/-- Where messages go. -/
structure Target where
  /-- The address of the webhook; an empty one means none. -/
  url : String
  /-- Seconds until a post is given up, unless the settings decide. -/
  timeout : Option Int
  /-- The host of genuine chat webhooks. -/
  host : String
  /-- The most characters of a failure reason. -/
  reasonLimit : Option Int
  deriving DecidableEq, Repr

/-- The host of genuine chat webhooks, unless another one is given. -/
def defaultHost : String := "hooks.slack.com"

namespace Target

/-- The signature of the maker of targets. -/
def signature : Signature :=
  ⟨"SlackWebhookChannel.__init__", ["self"], ["webhook_url"],
    ["timeout", "webhook_host", "max_error_length"], false⟩

/-- The target with given arguments; an address or a host that is null is empty. -/
def ofArguments (args : Fields) : Except Failure Target :=
  match signature.fault? args with
  | some f => .error f
  | none =>
      let text (name default : String) : String :=
        (Fields.get? name args).elim default fun v => v.str?.getD ""
      let number (name : String) : Option Int := (Fields.get? name args).bind Json.counted?
      .ok ⟨text "webhook_url" "", number "timeout", text "webhook_host" defaultHost,
        number "max_error_length"⟩

/-- The channel's own name if the address contains the host of genuine webhooks. -/
def label (t : Target) : String :=
  if t.host ≠ "" ∧ Text.contains t.url t.host then "slack" else "N/A"

/-! ### Messages -/

/-- The message about a finished job, with a template as its text. -/
def jobPayload (t : Target) (template : String) (s : EventSummary) : Action Fields := do
  let text ← Action.ofExcept (Template.render template (Template.jobValues s))
  jobMessage s text t.reasonLimit

/-- A template about a connection as a plain message. -/
def connectionPayload (template : String) (c : ConnectionEvent) : Action Fields := do
  let text ← Action.ofExcept (Template.render template (Template.connectionValues c))
  return plainMessage text

/-! ### Sending -/

/-- What becomes of a failure while a message is made. -/
def renderFailure (e : Failure) : Failure :=
  if e.family = .blockForm then
    undelivered ("Failed to render Slack message: " ++ e.message) "RENDER_FAILED"
  else e

/-- What becomes of a failure while a message is posted. -/
def postFailure (e : Failure) : Failure :=
  if e.family.isSystem then
    undelivered ("Failed to reach Slack webhook: " ++ e.message) "CONNECTION_ERROR"
  else e

/-- The blocks of a message; a message without any has an empty list. -/
def blocksOf (payload : Fields) : Json := (Fields.get? "blocks" payload).getD (.arr [])

/-- There is no address. -/
def skip : Action Json := do
  Action.info "slack_notification_skipped" [("reason", .str "empty_webhook")]
  return declined

/-- A message is made and checked. -/
def prepare (render : Action Fields) : Action Fields := do
  let payload ← render.handle fun e => .fail (renderFailure e)
  if ← Action.ofExcept (blocksValid (blocksOf payload)) then return payload
  else .fail (undelivered "Invalid Slack message blocks" "RENDER_FAILED")

/-- What a response comes to. -/
def conclude (r : Response) : Action Json :=
  if r.isAccepted then do
    Action.info "slack_notification_delivered" [("status_code", .int r.status)]
    return delivered
  else do
    Action.log .error "slack_notification_failed" (refusalFields r)
    Action.fail (refused "Failed to deliver notification" r)

/-- A message is made, checked and posted once, unless there is no address. -/
def send (t : Target) (render : Action Fields) : Action Json :=
  if t.url = "" then skip
  else do
    let payload ← prepare render
    let response ← (post t.url payload t.timeout).handle fun e => .fail (postFailure e)
    conclude response

/-! ### The channel -/

/-- What the channel says about itself. -/
def declaration : Declaration :=
  ⟨"slack", [.jobFailure, .jobSuccess, .connectionDisabled, .connectionDisableWarning,
    .schemaPropagated, .test]⟩

/-- The announcement of a notice. -/
def deliver (t : Target) : Notice → Action Json
  | .jobFailure s _ => t.send (t.jobPayload "job_failure" s)
  | .jobSuccess s _ => t.send (t.jobPayload "job_success" s)
  | .connectionDisabled c => t.send (connectionPayload "connection_disabled" c)
  | .connectionDisableWarning c => t.send (connectionPayload "connection_disable_warning" c)
  | .schemaPropagated summary u => t.send (schemaMessage summary u)
  | .breakingChangeWarning _ => refuseWarning declaration.kind
  | .breakingChangeSyncsDisabled _ => refuseSyncsDisabled declaration.kind
  | .test message => t.send (pure (plainMessage message))

/-- The channel for a target. -/
def channel (t : Target) : Channel := ⟨declaration, t.deliver, pure (.str t.label)⟩

end Target

end JobHerald.Slack
