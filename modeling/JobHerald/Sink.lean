import JobHerald.Attempt

/-!
# Sinks

Attempts are reported to metrics, and notifications that fired to analytics.  A report
can be written into the log, or kept by a collector, which may fail on any call.

## Main definitions

* `Metrics`, `Metrics.logging`, `Metrics.collector` — sinks for attempts.
* `Analytics`, `Analytics.logging`, `Analytics.collector` — sinks for notifications.
-/

namespace JobHerald

/-! ### Metrics -/

/-- A sink for attempts: it takes the trigger, the kind of channel and the outcome.  A sink
that is given is used; there are none that would count as absent. -/
abbrev Metrics := Option Trigger → Option ChannelKind → DeliveryOutcome → Action Unit

namespace Metrics

/-- The sink that writes into the log. -/
def logging : Metrics := fun trigger kind outcome =>
  Action.info "notification_attempt_recorded"
    [("trigger", .orNull Vocabulary.toJson trigger),
      ("channel_kind", .orNull Vocabulary.toJson kind),
      ("outcome", .str outcome.word)]

/-- How many attempts were reported so far. -/
def count (w : World) : Nat := (w.journal.filterMap Effect.measurement?).length

/-- The sink that keeps what it is told, and then may fail, depending on how many
reports came before. -/
def collector (fault : Nat → Option Failure) : Metrics := fun trigger kind outcome => do
  let w ← Action.world
  Action.record (.measured trigger kind outcome)
  match fault (count w) with
  | some e => .fail e
  | none => pure ()

end Metrics

/-! ### Analytics -/

/-- A sink for notifications: it takes the workspace, the action and its attributes.  Like
`Metrics`, one that is given is used. -/
abbrev Analytics := Uuid → String → Fields → Action Unit

namespace Analytics

/-- The fields that a log entry about a notification always has. -/
def reserved : List String := ["workspace_id", "action"]

/-- The callee of the log entry about a notification, by its full name. -/
def callee : String := "structlog.stdlib." ++ Log.methodName Log.Level.info.word

/-- The sink that writes into the log; attributes must not give a reserved field again. -/
def logging : Analytics := fun workspace action attributes =>
  match attributes.names.find? reserved.contains with
  | some name => .fail (.repeatedArgument callee name)
  | none =>
      Action.call .info "notification_event_tracked"
        ([("workspace_id", .str workspace.render), ("action", .str action)] ++ attributes)

/-- How many notifications were reported so far. -/
def count (w : World) : Nat := (w.journal.filterMap Effect.tracking?).length

/-- The sink that keeps what it is told, and then may fail, depending on how many
reports came before. -/
def collector (fault : Nat → Option Failure) : Analytics := fun workspace action attributes => do
  let w ← Action.world
  Action.record (.tracked workspace action attributes)
  match fault (count w) with
  | some e => .fail e
  | none => pure ()

end Analytics

end JobHerald
