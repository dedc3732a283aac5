import JobHerald.Validation.Record

/-!
# Triggers, channels and capabilities

The words of the domain: what happens to a job, which kinds of channel there are,
what a channel can be asked to announce, and how an announcement ended.

## Main definitions

* `Trigger`, `ChannelKind`, `Capability`, `DeliveryOutcome`, `Actor` — the vocabularies.
* `JobEvent`, `Trigger.jobEvent?` — the triggers that are events of one job.
-/

namespace JobHerald

/-! ### Triggers -/

/-- The events that select an entry of a notification policy. -/
inductive Trigger where
  /-- A job failed. -/
  | failure
  /-- A job succeeded. -/
  | success
  /-- A connection was disabled because its jobs kept failing. -/
  | disabled
  /-- A connection is about to be disabled. -/
  | disableWarning
  /-- The schema of a connection changed. -/
  | schemaChange
  deriving DecidableEq, Repr, Inhabited

instance : Vocabulary Trigger where
  name := "TriggerType"
  all := [.failure, .success, .disabled, .disableWarning, .schemaChange]
  word
    | .failure => "Failure Notification"
    | .success => "Success Notification"
    | .disabled => "Connection Disabled Notification"
    | .disableWarning => "Connection Disabled Warning Notification"
    | .schemaChange => "Schema Change Notification"

/-- The word of a trigger, which is also the action that analytics report. -/
abbrev Trigger.word (t : Trigger) : String := Vocabulary.word t

/-- The events of one job. -/
inductive JobEvent where
  /-- It failed. -/
  | failure
  /-- It succeeded. -/
  | success
  /-- Its connection was disabled. -/
  | disabled
  /-- Its connection is about to be disabled. -/
  | disableWarning
  deriving DecidableEq, Repr, Inhabited

/-- The trigger of a job event. -/
def JobEvent.trigger : JobEvent → Trigger
  | failure => .failure
  | success => .success
  | disabled => .disabled
  | disableWarning => .disableWarning

/-- The job event that a trigger is; a schema change is none. -/
def Trigger.jobEvent? : Trigger → Option JobEvent
  | failure => some .failure
  | success => some .success
  | disabled => some .disabled
  | disableWarning => some .disableWarning
  | schemaChange => none

@[simp] theorem Trigger.jobEvent?_trigger (e : JobEvent) : e.trigger.jobEvent? = some e := by
  cases e <;> rfl

/-! ### Channels -/

/-- The kinds of channel. -/
inductive ChannelKind where
  /-- An incoming webhook of the chat service. -/
  | slack
  /-- Email from a template. -/
  | email
  /-- Any endpoint that takes a text. -/
  | webhook
  deriving DecidableEq, Repr, Inhabited

instance : Vocabulary ChannelKind where
  name := "ChannelKind"
  all := [.slack, .email, .webhook]
  word
    | .slack => "slack"
    | .email => "email"
    | .webhook => "webhook"

/-- The word of a channel kind. -/
abbrev ChannelKind.word (k : ChannelKind) : String := Vocabulary.word k

/-- What a channel can be asked to announce. -/
inductive Capability where
  /-- A failed job. -/
  | jobFailure
  /-- A successful job. -/
  | jobSuccess
  /-- A disabled connection. -/
  | connectionDisabled
  /-- A connection about to be disabled. -/
  | connectionDisableWarning
  /-- A changed schema. -/
  | schemaPropagated
  /-- A breaking change that is to come. -/
  | breakingChangeWarning
  /-- Syncs disabled by a breaking change. -/
  | breakingChangeSyncsDisabled
  /-- A test message. -/
  | test
  deriving DecidableEq, Repr, Inhabited

instance : Vocabulary Capability where
  name := "NotificationCapability"
  all := [.jobFailure, .jobSuccess, .connectionDisabled, .connectionDisableWarning,
    .schemaPropagated, .breakingChangeWarning, .breakingChangeSyncsDisabled, .test]
  word
    | .jobFailure => "notify_job_failure"
    | .jobSuccess => "notify_job_success"
    | .connectionDisabled => "notify_connection_disabled"
    | .connectionDisableWarning => "notify_connection_disable_warning"
    | .schemaPropagated => "notify_schema_propagated"
    | .breakingChangeWarning => "notify_breaking_change_warning"
    | .breakingChangeSyncsDisabled => "notify_breaking_change_syncs_disabled"
    | .test => "notify_test"

/-- The word of a capability. -/
abbrev Capability.word (c : Capability) : String := Vocabulary.word c

/-! ### Outcomes and actors -/

/-- How an announcement through one channel ended. -/
inductive DeliveryOutcome where
  /-- The channel delivered it. -/
  | delivered
  /-- Nothing was configured. -/
  | skipped
  /-- The channel failed. -/
  | failed
  deriving DecidableEq, Repr, Inhabited

instance : Vocabulary DeliveryOutcome where
  name := "DeliveryOutcome"
  all := [.delivered, .skipped, .failed]
  word
    | .delivered => "delivered"
    | .skipped => "skipped"
    | .failed => "failed"

/-- The word of an outcome. -/
abbrev DeliveryOutcome.word (o : DeliveryOutcome) : String := Vocabulary.word o

/-- The two ends of a connection. -/
inductive Actor where
  /-- Where records come from. -/
  | source
  /-- Where records go. -/
  | destination
  deriving DecidableEq, Repr, Inhabited

instance : Vocabulary Actor where
  name := "ActorType"
  all := [.source, .destination]
  word
    | .source => "source"
    | .destination => "destination"

end JobHerald
