import JobHerald.Job.Basic
import JobHerald.Job.Urls

/-!
# Summaries of jobs

The counters of all attempts of a job are added up, each on its own; missing counters
count as zero.  A summary can be built unless a total is negative.

## Main definitions

* `Totals`, `Totals.ofAttempts` — the sums.
* `EventSummary.build` — the summary of a finished job.
-/

namespace JobHerald

/-! ### Totals -/

/-- The sums of the four counters. -/
structure Totals where
  /-- Records read. -/
  recordsEmitted : Int
  /-- Records written. -/
  recordsCommitted : Int
  /-- Bytes read. -/
  bytesEmitted : Int
  /-- Bytes written. -/
  bytesCommitted : Int
  deriving DecidableEq, Repr

namespace Totals

/-- No attempts. -/
def zero : Totals := ⟨0, 0, 0, 0⟩

/-- Totals with the counters of one attempt added. -/
def add (t : Totals) (a : AttemptStats) : Totals :=
  match a.combined with
  | none => t
  | some s =>
      ⟨t.recordsEmitted + s.recordsEmitted.getD 0,
        t.recordsCommitted + s.recordsCommitted.getD 0,
        t.bytesEmitted + s.bytesEmitted.getD 0,
        t.bytesCommitted + s.bytesCommitted.getD 0⟩

/-- The totals of a list of attempts. -/
def ofAttempts (attempts : List AttemptStats) : Totals := attempts.foldl add zero

/-- The totals as counters. -/
def toStats (t : Totals) : SyncStats :=
  ⟨some t.recordsEmitted, some t.recordsCommitted, some t.bytesEmitted, some t.bytesCommitted⟩

end Totals

/-! ### Summaries -/

/-- A total as a counter of a summary. -/
def counter (name : String) (n : Int) : Checked Nat := (Read.natural (.int n)).inside name

/-- The summary of a finished job.  It is rejected if a total is negative, with one
issue for each of them. -/
def EventSummary.build (job : Job) (attempts : List AttemptStats) (workspace : Workspace)
    (connection : Connection) (source : Source) (destination : Destination) (urls : WebUrls)
    (reason : Option String) : Except Rejection EventSummary :=
  let totals := Totals.ofAttempts attempts
  let summary : Checked EventSummary :=
    EventSummary.mk
        ⟨workspace.name, workspace.id, urls.workspace workspace.id⟩
        ⟨connection.name, connection.id, urls.connection workspace.id connection.id⟩
        ⟨source.name, source.id, urls.source workspace.id source.id⟩
        ⟨destination.name, destination.id, urls.destination workspace.id destination.id⟩
        (some job.createdAt) (some job.updatedAt) (job.status == .succeeded) (.number job.id)
        reason
      <$> counter "records_emitted" totals.recordsEmitted
      <*> counter "records_committed" totals.recordsCommitted
      <*> counter "bytes_emitted" totals.bytesEmitted
      <*> counter "bytes_committed" totals.bytesCommitted
  match summary with
  | .valid s => .ok s
  | .invalid issues => .error ⟨"EventSummary", issues⟩

end JobHerald
