import JobHerald.Binary64.Basic
import JobHerald.Calendar.Date

/-!
# Timestamps

A timestamp is a reading of a clock, in microseconds.  A clock may have no known
offset from UTC, a fixed one, or that of a zone, which moves when the clocks of
the zone are set.  Two readings can be subtracted if both offsets are known or
both are unknown; the offsets of two readings of one zone's clock are ignored.

## Main definitions

* `Clock`, `Timestamp`, `Timestamp.instant` — a clock, a reading of it, and the
  microseconds since 1970 in UTC.
* `Timestamp.SharesZone` — readings of one zone's clock.
* `Timestamp.sub` — the microseconds between two readings.
* `Timestamp.toUtc` — the same instant as a reading of the UTC clock.
* `Timestamp.seconds` — whole seconds of a span, through a double.
* `Timestamp.render`, `Timestamp.sentence` — the standard form and the one in sentences.
-/

namespace JobHerald

/-- What can be wrong with dates and times. -/
inductive CalendarFault where
  /-- The text has not the form of a timestamp. -/
  | malformed (text : String)
  /-- The year lies outside 1 to 9999. -/
  | year (value : Int)
  /-- The month lies outside 1 to 12. -/
  | month
  /-- The month has no such day. -/
  | day
  /-- The hour lies outside 0 to 23. -/
  | hour
  /-- The minute lies outside 0 to 59. -/
  | minute
  /-- The second lies outside 0 to 59. -/
  | second
  /-- A reading with an unknown offset meets one with a known offset. -/
  | mixedClocks
  /-- The instant lies outside the years 1 to 9999 of the UTC clock. -/
  | range
  /-- The offset, in minutes, is a day or more. -/
  | offset (minutes : Int)
  /-- The seconds of the clock do not fit into a machine word. -/
  | clockWord
  /-- The year of the clock does not fit into half a machine word. -/
  | clockYear
  deriving DecidableEq, Repr

/-- A clock at the moment when it is read. -/
inductive Clock where
  /-- A clock whose offset from UTC is not known. -/
  | unknown
  /-- A clock that is ahead of UTC by always the same number of microseconds. -/
  | fixed (offset : Int)
  /-- The clock of a zone, which is set forward and back; when it is read it is ahead of UTC
  by a number of microseconds. -/
  | zone (name : String) (offset : Int)
  deriving DecidableEq, Repr, Inhabited

namespace Clock

/-- Microseconds by which a clock is ahead of UTC, if known. -/
def offset : Clock → Option Int
  | unknown => none
  | fixed offset => some offset
  | zone _ offset => some offset

/-- The zone that a clock is set by. -/
def zone? : Clock → Option String
  | zone name _ => some name
  | _ => none

/-- The clock that a written offset stands for. -/
def ofOffset : Option Int → Clock
  | none => unknown
  | some offset => fixed offset

@[simp] theorem offset_ofOffset (offset : Option Int) : (ofOffset offset).offset = offset := by
  cases offset <;> rfl

end Clock

/-- A reading of a clock. -/
structure Timestamp where
  /-- Microseconds shown by the clock since 1970 began on it. -/
  micros : Int
  /-- The clock. -/
  clock : Clock
  deriving DecidableEq, Repr, Inhabited

namespace Timestamp

/-- Microseconds of a second. -/
abbrev second : Int := 1000000

/-- Microseconds of a minute. -/
abbrev minute : Int := 60 * second

/-- Microseconds of a day. -/
abbrev day : Int := 86400 * second

/-! ### Arithmetic -/

/-- Microseconds by which the clock is ahead of UTC, if known. -/
def offset (t : Timestamp) : Option Int := t.clock.offset

/-- The microseconds since 1970 in UTC; an unknown offset counts as none. -/
def instant (t : Timestamp) : Int := t.micros - t.offset.getD 0

/-- Two readings of one zone's clock. -/
def SharesZone (t t' : Timestamp) : Prop := t.clock.zone? ≠ none ∧ t.clock.zone? = t'.clock.zone?

instance (t t' : Timestamp) : Decidable (SharesZone t t') :=
  inferInstanceAs (Decidable (_ ∧ _))

/-- The microseconds from `start` to `stop`.  Two readings of one zone's clock are subtracted
as they are shown, whether or not it has been set between them. -/
def sub (stop start : Timestamp) : Except CalendarFault Int :=
  if SharesZone start stop then .ok (stop.micros - start.micros)
  else match stop.offset, start.offset with
    | none, none => .ok (stop.micros - start.micros)
    | some _, some _ => .ok (stop.instant - start.instant)
    | _, _ => .error .mixedClocks

/-- Whether a reading lies in the years 1 to 9999. -/
def inRange (micros : Int) : Bool :=
  let d := micros / day
  Date.toDays ⟨1, 1, 1⟩ ≤ d && d ≤ Date.toDays ⟨9999, 12, 31⟩

/-- The same instant on the UTC clock; a reading with an unknown offset is taken
to be one of that clock. -/
def toUtc (t : Timestamp) : Except CalendarFault Timestamp :=
  match t.offset with
  | none => .ok ⟨t.micros, .fixed 0⟩
  | some _ => if inRange t.instant then .ok ⟨t.instant, .fixed 0⟩ else .error .range

/-- The reading of the UTC clock at a number of seconds since 1970.  The seconds, and
then the year, must fit into the words of the machine, and the year into the calendar. -/
def ofClock (n : Int) : Except CalendarFault Timestamp :=
  let year := (Date.ofDays (n / 86400)).year
  if n < -9223372036854775808 ∨ 9223372036854775807 < n then .error .clockWord
  else if year < -2147481748 ∨ 2147485547 < year then .error .clockYear
  else if year < 1 ∨ 9999 < year then .error (.year year)
  else .ok ⟨n * second, .fixed 0⟩

/-- The whole seconds of a span of microseconds: the span in seconds is rounded to
a double, then cut toward zero. -/
def seconds (micros : Int) : Int :=
  ((Binary64.ofRatio (micros < 0) micros.natAbs 1000000).truncate?).getD 0

/-! ### Parts of a reading -/

/-- The date shown. -/
def date (t : Timestamp) : Date := .ofDays (t.micros / day)

/-- The microsecond of the day shown. -/
def microOfDay (t : Timestamp) : Nat := (t.micros % day).toNat

/-- The hour shown. -/
def hourOfDay (t : Timestamp) : Nat := t.microOfDay / 3600000000

/-- The minute shown. -/
def minuteOfHour (t : Timestamp) : Nat := t.microOfDay / 60000000 % 60

/-- The second shown. -/
def secondOfMinute (t : Timestamp) : Nat := t.microOfDay / 1000000 % 60

/-- The microsecond shown. -/
def microOfSecond (t : Timestamp) : Nat := t.microOfDay % 1000000

/-! ### Written forms -/

/-- An offset in microseconds as `Z` or `±HH:MM`; what is left of a minute is not shown. -/
def renderOffset (offset : Int) : String :=
  let seconds := offset / second
  if seconds = 0 then "Z"
  else
    let minutes := seconds.natAbs / 60
    (if seconds < 0 then "-" else "+") ++ Text.padded 2 (minutes / 60) ++ ":"
      ++ Text.padded 2 (minutes % 60)

/-- The reading as `YYYY-MM-DDTHH:MM:SS[.ffffff][Z|±HH:MM]`. -/
def render (t : Timestamp) : String :=
  t.date.render ++ "T" ++ Text.padded 2 t.hourOfDay ++ ":" ++ Text.padded 2 t.minuteOfHour ++ ":"
    ++ Text.padded 2 t.secondOfMinute
    ++ (if t.microOfSecond = 0 then "" else "." ++ Text.padded 6 t.microOfSecond)
    ++ (match t.offset with
        | none => ""
        | some offset => renderOffset offset)

/-- The reading in a sentence, with weekday, month name and a twelve-hour clock;
the zone is UTC. -/
def sentence (t : Timestamp) : String :=
  let d := t.date
  let hour := if t.hourOfDay % 12 = 0 then 12 else t.hourOfDay % 12
  Date.weekdayName (t.micros / day) ++ ", " ++ Date.monthName d.month ++ " "
    ++ Text.padded 2 d.day ++ ", " ++ Text.decimal d.year ++ " at " ++ Text.padded 2 hour ++ ":"
    ++ Text.padded 2 t.minuteOfHour ++ ":" ++ Text.padded 2 t.secondOfMinute ++ " "
    ++ (if t.hourOfDay < 12 then "AM" else "PM") ++ " UTC"

end Timestamp

end JobHerald
