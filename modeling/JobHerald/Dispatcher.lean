import JobHerald.Channel.Factory
import JobHerald.Report
import JobHerald.Sink

/-!
# Dispatching

A notice goes through every channel of a binding, in order.  Each channel is made and
asked inside attempts of its own, so that a channel that fails never stops the next
one, and every outcome is reported to the metrics.

## Main definitions

* `Dispatch` — the settings, the metrics and the maker of channels that dispatching needs.
* `Dispatch.deliver` — a notice through one channel.
* `Dispatch.dispatch`, `Dispatch.sendTest` — a notice, and a test, through a binding.
* `Dispatcher`, `Dispatch.dispatcher` — the three operations as one value.
-/

namespace JobHerald

/-- A maker of channels. -/
abbrev ChannelMaker :=
  ChannelKind → Option ChannelConfig → Option Settings → Option String → Action Channel

/-- What dispatching needs. -/
structure Dispatch where
  /-- The settings that channels get; if there are none, they get those of the process. -/
  settings : Option Settings
  /-- Where outcomes are reported. -/
  metrics : Metrics
  /-- What makes the channels. -/
  maker : ChannelMaker

namespace Dispatch

/-! ### One channel -/

/-- The attempt for a channel that could not be made. -/
def notMade (trigger : Option Trigger) (kind : ChannelKind) (r : OperationResult Channel) :
    ChannelAttempt :=
  ⟨trigger, some kind, .failed, r.message, r.errorCode, none⟩

/-- The notice is handed to a channel. -/
def announce (kind : ChannelKind) (c : Channel) (n : Notice) : Action (OperationResult Json) :=
  attemptUnless Json.isDeclined (c.invoke n) "channel_notification_failed"
    [("channel_kind", .str kind.word), ("capability", .str n.capability.word)]

/-- A delivery is logged. -/
def logDelivery (kind : ChannelKind) (n : Notice) (outcome : DeliveryOutcome) : Action Unit :=
  match outcome with
  | .delivered =>
      Action.info "notification_delivered"
        [("channel_kind", .str kind.word), ("capability", .str n.capability.word)]
  | _ => pure ()

/-- The label of a channel as a text, if it can be had. -/
def labelOf (kind : ChannelKind) (c : Channel) : Action (Option String) := do
  let r ← attempt (do return (← c.label).plain) "notification_type_lookup_failed"
    [("channel_kind", .str kind.word)]
  return r.value?

/-- The attempt through a channel that was made. -/
def attemptThrough (trigger : Option Trigger) (kind : ChannelKind) (c : Channel) (n : Notice) :
    Action ChannelAttempt := do
  let r ← announce kind c n
  logDelivery kind n r.outcome
  let label ← labelOf kind c
  return ⟨trigger, some kind, r.outcome, r.message, r.errorCode, label⟩

/-- A notice through one channel. -/
def deliver (d : Dispatch) (trigger : Option Trigger) (receiver : Option String)
    (kind : ChannelKind) (config : Option ChannelConfig) (n : Notice) : Action ChannelAttempt := do
  let made ← attempt (d.maker kind config d.settings receiver)
    "notification_channel_creation_failed" [("channel_kind", .str kind.word)]
  match made.value? with
  | some c => attemptThrough trigger kind c n
  | none => return notMade trigger kind made

/-! ### A binding -/

/-- The outcome of an attempt is reported. -/
def report (d : Dispatch) (a : ChannelAttempt) : Action Unit := do
  let _ ← attempt (d.metrics a.trigger a.kind a.outcome) "notification_metric_failed" []

/-- The attempt for a trigger without channels. -/
def notBound (trigger : Trigger) : ChannelAttempt :=
  ⟨some trigger, none, .skipped, "No channel configured for trigger", none, none⟩

/-- The report for a trigger without channels. -/
def skip (d : Dispatch) (trigger : Trigger) : Action DispatchReport := do
  Action.info "notification_skipped" [("reason", .str "no_channel_binding")]
  d.report (notBound trigger)
  return ⟨trigger, [notBound trigger]⟩

/-- The attempt for one entry of a binding, reported. -/
def deliverEntry (d : Dispatch) (trigger : Trigger) (receiver : Option String) (n : Notice)
    (entry : ChannelKind × Option ChannelConfig) : Action ChannelAttempt := do
  let a ← d.deliver (some trigger) receiver entry.1 entry.2 n
  d.report a
  return a

/-- A report is logged. -/
def logReport (r : DispatchReport) : Action Unit :=
  Action.info "notification_dispatched"
    [("channels", .int r.attempts.length), ("delivered", .int r.deliveredCount),
      ("failed", .int r.failedCount)]

/-- A notice through every entry of a binding. -/
def deliverAll (d : Dispatch) (trigger : Trigger) (binding : ChannelBinding) (n : Notice)
    (receiver : Option String) : Action DispatchReport := do
  let attempts ← Action.forEach (d.deliverEntry trigger receiver n) binding.entries
  logReport ⟨trigger, attempts⟩
  return ⟨trigger, attempts⟩

/-- A notice through a binding; a binding without channels counts as none. -/
def dispatch (d : Dispatch) (trigger : Trigger) (binding : Option ChannelBinding) (n : Notice)
    (receiver : Option String) : Action DispatchReport :=
  match binding with
  | none => d.skip trigger
  | some b => if b.kinds.isEmpty then d.skip trigger else d.deliverAll trigger b n receiver

/-- A test through every entry of a binding; it is not reported. -/
def sendTest (d : Dispatch) (binding : ChannelBinding) (message : String) :
    Action (List ChannelAttempt) :=
  Action.forEach (fun (kind, config) => d.deliver none none kind config (.test message))
    binding.entries

end Dispatch

/-! ### Dispatchers -/

/-- The operations of dispatching. -/
structure Dispatcher where
  /-- A notice through a binding. -/
  dispatch :
    Trigger → Option ChannelBinding → Notice → Option String → Action DispatchReport
  /-- A notice through one channel. -/
  deliver : ChannelKind → Option ChannelConfig → Notice → Action ChannelAttempt
  /-- A test through a binding. -/
  sendTest : ChannelBinding → String → Action (List ChannelAttempt)

/-- The operations with what they need. -/
def Dispatch.dispatcher (d : Dispatch) : Dispatcher :=
  ⟨d.dispatch, d.deliver none none, d.sendTest⟩

/-- A dispatcher whose operations fail. -/
def Dispatcher.failing (e : Failure) : Dispatcher :=
  ⟨fun _ _ _ _ => .fail e, fun _ _ _ => .fail e, fun _ _ => .fail e⟩

end JobHerald
