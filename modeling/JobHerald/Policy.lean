import JobHerald.Trigger

/-!
# Notification policies

A policy binds triggers to channels: a binding lists channel kinds in the order in
which they are notified, with the settings of those that have any.

## Main definitions

* `SlackConfiguration`, `WebhookConfiguration`, `ChannelConfig` — settings of channels.
* `ChannelBinding`, `ChannelBinding.entries` — bindings, and their entries in order.
* `NotificationPolicy`, `NotificationPolicy.bindingFor` — policies, and look-up.
-/

namespace JobHerald

/-! ### Settings of channels -/

/-- The settings of a chat channel. -/
structure SlackConfiguration where
  /-- The address of the webhook; an empty one means none. -/
  webhook : String
  deriving DecidableEq, Repr

instance : Record SlackConfiguration where
  name := "SlackConfiguration"
  frozen := false
  derived := []
  read := Read.object fun fs =>
    SlackConfiguration.mk <$> Read.optional "webhook" Read.text "" fs
  members c := [("webhook", .str c.webhook)]

/-- The settings of a webhook channel. -/
structure WebhookConfiguration where
  /-- The address; an empty one means none. -/
  url : String
  deriving DecidableEq, Repr

instance : Record WebhookConfiguration where
  name := "WebhookConfiguration"
  frozen := false
  derived := []
  read := Read.object fun fs =>
    WebhookConfiguration.mk <$> Read.optional "url" Read.text "" fs
  members c := [("url", .str c.url)]

/-- The settings of an entry of a binding. -/
inductive ChannelConfig where
  /-- Settings of a chat channel. -/
  | slack (c : SlackConfiguration)
  /-- Settings of a webhook channel. -/
  | webhook (c : WebhookConfiguration)
  deriving DecidableEq, Repr

/-- The chat webhook of an entry; settings of another kind count as none. -/
def ChannelConfig.slackWebhook : Option ChannelConfig → String
  | some (slack c) => c.webhook
  | _ => ""

/-- The webhook address of an entry; settings of another kind count as none. -/
def ChannelConfig.webhookUrl : Option ChannelConfig → String
  | some (webhook c) => c.url
  | _ => ""

/-! ### Bindings -/

/-- The channels to notify for one trigger. -/
structure ChannelBinding where
  /-- The kinds of channel, in order. -/
  kinds : List ChannelKind
  /-- The settings of chat channels. -/
  slack : Option SlackConfiguration
  /-- The settings of webhook channels. -/
  webhook : Option WebhookConfiguration
  deriving DecidableEq, Repr

instance : Record ChannelBinding where
  name := "ChannelBinding"
  frozen := false
  derived := []
  read := Read.object fun fs =>
    ChannelBinding.mk
      <$> Read.optional "notification_type" (Read.list Read.word) [] fs
      <*> Read.optional "slack_configuration" (Read.nullable Record.read) none fs
      <*> Read.optional "webhook_configuration" (Read.nullable Record.read) none fs
  members b :=
    [("notification_type", .arr (b.kinds.map fun k => .str k.word)),
      ("slack_configuration", .orNull Record.toJson b.slack),
      ("webhook_configuration", .orNull Record.toJson b.webhook)]

namespace ChannelBinding

/-- The settings that belong to a kind of channel; email has none. -/
def configFor (b : ChannelBinding) : ChannelKind → Option ChannelConfig
  | .slack => some (.slack (b.slack.getD ⟨""⟩))
  | .webhook => some (.webhook (b.webhook.getD ⟨""⟩))
  | .email => none

/-- The entries of a binding in order. -/
def entries (b : ChannelBinding) : List (ChannelKind × Option ChannelConfig) :=
  b.kinds.map fun k => (k, b.configFor k)

@[simp] theorem length_entries (b : ChannelBinding) : b.entries.length = b.kinds.length := by
  simp [entries]

@[simp] theorem map_fst_entries (b : ChannelBinding) : b.entries.map (·.1) = b.kinds := by
  simp [entries, Function.comp_def]

end ChannelBinding

/-! ### Policies -/

/-- The bindings of a workspace. -/
structure NotificationPolicy where
  /-- The binding of each trigger that has one. -/
  bindings : List (Trigger × ChannelBinding)
  deriving DecidableEq, Repr

instance : Record NotificationPolicy where
  name := "NotificationPolicy"
  frozen := false
  derived := []
  read := Read.object fun fs =>
    NotificationPolicy.mk <$> Read.optional "bindings" (Read.tagged Record.read) [] fs
  members p := [("bindings", .obj (p.bindings.map fun (t, b) => (t.word, Record.toJson b)))]

/-- The binding of a trigger. -/
def NotificationPolicy.bindingFor (p : NotificationPolicy) (t : Trigger) :
    Option ChannelBinding := p.bindings.lookup t

end JobHerald
