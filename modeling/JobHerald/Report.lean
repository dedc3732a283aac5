import JobHerald.Outcome
import JobHerald.Trigger

/-!
# Reports

A report lists what became of each channel that was to be notified.

## Main definitions

* `ChannelAttempt` — what became of one channel.
* `DispatchReport` — all attempts for one trigger, with `fired` and the two counts.
-/

namespace JobHerald

/-! ### Attempts -/

/-- What became of one channel. -/
structure ChannelAttempt where
  /-- The trigger; test messages have none. -/
  trigger : Option Trigger
  /-- The kind of channel; there is none if nothing was bound. -/
  kind : Option ChannelKind
  /-- How it ended. -/
  outcome : DeliveryOutcome
  /-- A message for people. -/
  message : String
  /-- The code of a failure. -/
  errorCode : Option String
  /-- The label of the channel in analytics. -/
  label : Option String
  deriving DecidableEq, Repr

namespace ChannelAttempt

/-- Whether the channel delivered. -/
def isSuccess (a : ChannelAttempt) : Bool := a.outcome == .delivered

/-- Whether the channel failed. -/
def isFailed (a : ChannelAttempt) : Bool := a.outcome == .failed

/-- Whether the channel did something. -/
def isFired (a : ChannelAttempt) : Bool := a.outcome != .skipped

end ChannelAttempt

instance : Record ChannelAttempt where
  name := "ChannelAttempt"
  frozen := false
  derived := ["is_success"]
  read := Read.object fun fs =>
    ChannelAttempt.mk
      <$> Read.optional "trigger" (Read.nullable Read.word) none fs
      <*> Read.optional "channel_kind" (Read.nullable Read.word) none fs
      <*> Read.required "outcome" Read.word fs
      <*> Read.optional "message" Read.text "" fs
      <*> Read.optional "error_code" (Read.nullable Read.text) none fs
      <*> Read.optional "notification_type" (Read.nullable Read.text) none fs
  members a :=
    [("trigger", .orNull Vocabulary.toJson a.trigger),
      ("channel_kind", .orNull Vocabulary.toJson a.kind),
      ("outcome", .str a.outcome.word), ("message", .str a.message),
      ("error_code", .ofOption a.errorCode), ("notification_type", .ofOption a.label)]

/-! ### Reports -/

/-- All attempts for one trigger. -/
structure DispatchReport where
  /-- The trigger. -/
  trigger : Trigger
  /-- The attempts in order. -/
  attempts : List ChannelAttempt
  deriving DecidableEq, Repr

instance : Record DispatchReport where
  name := "DispatchReport"
  frozen := false
  derived := ["fired", "delivered_count", "failed_count"]
  read := Read.object fun fs =>
    DispatchReport.mk
      <$> Read.required "trigger" Read.word fs
      <*> Read.optional "attempts" (Read.list Record.read) [] fs
  members r :=
    [("trigger", .str r.trigger.word), ("attempts", .arr (r.attempts.map Record.toJson))]

namespace DispatchReport

/-- The attempts that did something. -/
def fired (r : DispatchReport) : List ChannelAttempt := r.attempts.filter (·.isFired)

/-- How many channels delivered. -/
def deliveredCount (r : DispatchReport) : Nat := r.attempts.countP (·.isSuccess)

/-- How many channels failed. -/
def failedCount (r : DispatchReport) : Nat := r.attempts.countP (·.isFailed)

end DispatchReport

end JobHerald
