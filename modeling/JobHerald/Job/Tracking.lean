import JobHerald.Job.Basic
import JobHerald.Report

/-!
# Attributes of analytics events

## Main definitions

* `Tracking.job`, `Tracking.sourceDefinition`, `Tracking.destinationDefinition` — what an
  event says about a job and its connectors.
* `Tracking.notification` — which channels fired.
-/

namespace JobHerald.Tracking

/-- What an event says about a job; the attempt is there if there was one. -/
def job (j : Job) : Fields :=
  [("job_type", .str (Vocabulary.word j.type)), ("job_id", .str (Text.decimal j.id))]
    ++ (if 0 < j.attemptCount then [("attempt_id", .int (j.attemptCount - 1))] else [])

/-- What an event says about a connector. -/
def definition (role : String) (d : ConnectorDefinition) : Fields :=
  [(role, .str d.name), (role ++ "_definition_id", .str d.id.render),
    (role ++ "_docker_repository", .str d.repository), (role ++ "_version", .str d.tag)]

/-- What an event says about the connector of a source. -/
def sourceDefinition (d : ConnectorDefinition) : Fields := definition "connector_source" d

/-- What an event says about the connector of a destination. -/
def destinationDefinition (d : ConnectorDefinition) : Fields :=
  definition "connector_destination" d

/-- The label of an attempt; an absent or empty one is not available. -/
def labelOf (a : ChannelAttempt) : String :=
  match a.label with
  | some s => if s = "" then "N/A" else s
  | none => "N/A"

/-- Which channels fired for a connection, and the last of them. -/
def notification (connection : Uuid) (r : DispatchReport) : Fields :=
  let labels := r.fired.map labelOf
  [("connection_id", .str connection.render), ("notification_types", .arr (labels.map .str))]
    ++ (match labels.getLast? with
        | some last => [("notification_type", .str last)]
        | none => [])

end JobHerald.Tracking
