import JobHerald.Channel.Email
import JobHerald.Channel.Slack
import JobHerald.Channel.Webhook
import JobHerald.Policy

/-!
# Making channels

A channel is made anew for every entry of a binding, from settings that are given or
else from those of the process.

## Main definitions

* `Slack.Target.ofSettings`, `Endpoint.Target.ofSettings` — where a configuration points.
* `Channel.ofSettings` — the channel of a kind.
* `Channel.create`, `Channel.createNamed` — the same as actions, by kind and by name.
-/

namespace JobHerald

/-- The settings that are given, or else those of the process. -/
def settingsOr : Option Settings → Action Settings
  | some s => pure s
  | none => Action.settings

/-- The target of a chat configuration. -/
def Slack.Target.ofSettings (s : Settings) (config : Option ChannelConfig) : Slack.Target :=
  ⟨ChannelConfig.slackWebhook config, some s.slack.timeout, s.slack.host,
    some s.delivery.maxErrorLength⟩

/-- The target of a webhook configuration. -/
def Endpoint.Target.ofSettings (s : Settings) (config : Option ChannelConfig) :
    Endpoint.Target :=
  ⟨ChannelConfig.webhookUrl config, some s.delivery.timeout⟩

namespace Channel

/-- The channel of a kind; a configuration of another kind counts as none. -/
def ofSettings (s : Settings) (kind : ChannelKind) (config : Option ChannelConfig)
    (receiver : Option String) : Channel :=
  match kind with
  | .slack => (Slack.Target.ofSettings s config).channel
  | .email => Mail.Account.channel ⟨s.notify, receiver⟩
  | .webhook => (Endpoint.Target.ofSettings s config).channel

/-- A channel is made. -/
def create (kind : ChannelKind) (config : Option ChannelConfig) (given : Option Settings)
    (receiver : Option String) : Action Channel := do
  let s ← settingsOr given
  return ofSettings s kind config receiver

/-- A channel is made for a kind that is given by name. -/
def createNamed (kind : String) (config : Option ChannelConfig) (given : Option Settings)
    (receiver : Option String) : Action Channel := do
  let s ← settingsOr given
  match Vocabulary.ofWord? kind with
  | some kind => return ofSettings s kind config receiver
  | none => .fail (.unknownChannel kind)

end Channel

end JobHerald
