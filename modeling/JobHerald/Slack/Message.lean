import JobHerald.Event
import JobHerald.Message.Duration
import JobHerald.Message.Volume
import JobHerald.Slack.Block

/-!
# Chat messages

The messages about finished jobs and changed schemas are laid out in blocks; every
message has a text that stands in for its blocks where they cannot be shown.

## Main definitions

* `Slack.jobMessage` — the message about a finished job.
* `Slack.schemaMessage` — the message about a changed schema.
* `Slack.plainMessage` — a message without blocks.
-/

namespace JobHerald.Slack

/-- A field that shows nothing. -/
def emptyField : String := " "

/-- A message without blocks. -/
def plainMessage (text : String) : Fields := [("text", .str text)]

/-! ### Finished jobs -/

/-- The label and the text of a job's duration, which show nothing unless both times
are known. -/
def durationFields (s : EventSummary) : Except Failure (String × String) :=
  match s.times? with
  | some (start, stop) =>
      match Duration.between start stop with
      | .ok text => .ok ("*Duration:*", text)
      | .error f => .error (.calendar f)
  | none => .ok (emptyField, emptyField)

/-- A failure reason cut to a limit; no limit, or zero, leaves it whole. -/
def cutReason (limit : Option Int) (reason : String) : String :=
  match limit with
  | none => reason
  | some k => if k ≠ 0 ∧ k < reason.length then Text.upTo k reason ++ "..." else reason

/-- The text of the block with a failure reason. -/
def reasonText (limit : Option Int) (reason : String) : String :=
  "*Failure reason:*\n\n```\n" ++ cutReason limit reason ++ "\n```\n"

/-- A number of records in decimal. -/
def count (n : Nat) : Except Failure String :=
  if Text.isWithinLimit n then .ok (Text.decimal n) else .error .longInteger

/-- The text of the block with the totals. -/
def totalsText (s : EventSummary) : Except Failure String := do
  let loaded ← count s.recordsCommitted
  let extracted ← count s.recordsEmitted
  return "*Sync Summary:*\n" ++ loaded ++ " record(s) loaded / " ++ extracted
    ++ " record(s) extracted\n" ++ Volume.render s.bytesCommitted ++ " loaded / "
    ++ Volume.render s.bytesEmitted ++ " extracted\n"

/-- The text of the first block. -/
def titleText (s : EventSummary) : String :=
  (if s.isSuccess then "Sync completed" else "Sync failure occurred") ++ ": "
    ++ link s.connection.name s.connection.url

/-- The blocks with a failure reason: one for a failed job with a reason. -/
def reasonBlocks (limit : Option Int) (s : EventSummary) : Action (List Json) :=
  match s.isSuccess, s.errorMessage with
  | false, some reason => do return [← section' (reasonText limit reason)]
  | _, _ => pure []

/-- The message about a finished job. -/
def jobMessage (s : EventSummary) (text : String) (limit : Option Int) : Action Fields := do
  let (label, duration) ← Action.ofExcept (durationFields s)
  let title ← section' (titleText s)
  let ends ← fields
    ["*Source:*", label, link s.source.name s.source.url, duration, "*Destination:*", emptyField,
      link s.destination.name s.destination.url]
  let reason ← reasonBlocks limit s
  let totals ← section' (← Action.ofExcept (totalsText s))
  return [("text", .str text), ("blocks", .arr ([title, ends] ++ reason ++ [totals]))]

/-! ### Changed schemas -/

/-- What is shown when nothing changed. -/
def noChanges : String := "No stream or field changes."

/-- The message about a changed schema. -/
def schemaMessage (summary : String) (u : SchemaUpdate) : Action Fields := do
  let header := "The schema of '" ++ link u.connection.name u.connection.url ++ "' has changed."
  let title ← section' header
  let ends ← fields
    ["*Workspace*", "*Source*", link u.workspace.name u.workspace.url,
      link u.source.name u.source.url]
  let changes ← section' (if summary = "" then noChanges else summary)
  return [("text", .str header), ("blocks", .arr [title, ends, divider, changes])]

end JobHerald.Slack
