import JobHerald.Failure
import JobHerald.Text.Slice

/-!
# Durations in messages

A duration is shown either in its two coarsest units, with a sign, or in words, from
the first to the last unit that is not zero.

## Main definitions

* `Duration.split` — quotient and remainder toward zero.
* `Duration.coarse`, `Duration.between` — the two coarsest units.
* `Duration.words` — the words.
* `Duration.describeJob` — a job's start and running time in a sentence.
-/

namespace JobHerald.Duration

/-! ### The two coarsest units -/

/-- Quotient and remainder, both rounded toward zero. -/
def split (value : Int) (unit : Nat) : Int × Int := (value.tdiv unit, value.tmod unit)

/-- A number of seconds in its two coarsest units. -/
def coarse (total : Int) : String :=
  let (minutes, seconds) := split total 60
  let (hours, restMinutes) := split minutes 60
  let (days, restHours) := split hours 24
  if minutes = 0 then Text.decimal seconds ++ " sec"
  else if hours = 0 then Text.decimal restMinutes ++ " min " ++ Text.decimal seconds ++ " sec"
  else if days = 0 then Text.decimal restHours ++ " hours " ++ Text.decimal restMinutes ++ " min"
  else Text.decimal days ++ " days " ++ Text.decimal restHours ++ " hours"

/-- The time between two readings in its two coarsest units. -/
def between (start stop : Timestamp) : Except CalendarFault String :=
  (stop.sub start).map fun micros => coarse (Timestamp.seconds micros)

/-! ### Words -/

/-- A number with its unit, in the plural unless the number is one. -/
def unitWord (n : Nat) (unit : String) : String :=
  toString n ++ " " ++ unit ++ (if n = 1 then "" else "s")

/-- The days, hours, minutes and seconds of a number of seconds. -/
def parts (n : Nat) : List (Nat × String) :=
  [(n / 86400, "day"), (n / 3600 % 24, "hour"), (n / 60 % 60, "minute"), (n % 60, "second")]

/-- The units from the first to the last one that is not zero. -/
def significant (ps : List (Nat × String)) : List (Nat × String) :=
  ((ps.dropWhile (·.1 = 0)).reverse.dropWhile (·.1 = 0)).reverse

/-- A number of seconds in words; a negative number counts as zero. -/
def words (total : Int) : String :=
  match significant (parts total.toNat) with
  | [] => "0 seconds"
  | ps => Text.joined " " (ps.map fun (n, unit) => unitWord n unit)

/-- The whole seconds of a number of seconds, cut toward zero. -/
def wholeSeconds : Binary64 → Except Failure Int
  | .infinite _ => .error (.outside .overflow "cannot convert float infinity to integer")
  | .nan => .error (.outside .value "cannot convert float NaN to integer")
  | x => .ok (x.truncate?.getD 0)

/-! ### Jobs -/

/-- When a job started and how long it has run.  A job that was last updated when it
started is still running, until `now`; only then does it matter whether the clock can
be read. -/
def describeJob (started updated : Timestamp) (reason : Option String)
    (now : Except CalendarFault Timestamp) : Except CalendarFault String := do
  let start ← started.toUtc
  let last ← updated.toUtc
  let stop ← if last.micros = start.micros then now.bind Timestamp.toUtc else pure last
  let running := words (Timestamp.seconds (stop.micros - start.micros))
  let suffix := match reason with
    | some r => if r = "" then "" else ", as the " ++ r
    | none => ""
  return "sync started on " ++ start.sentence ++ ", running for " ++ running ++ suffix ++ "."

end JobHerald.Duration
