import JobHerald.Binary64.Basic
import JobHerald.Calendar.Timestamp

/-!
# Reading timestamps

There are two readers.  The strict one takes exactly the form
`YYYY-MM-DDTHH:MM:SS[.f{1,6}][Z|±HH:MM]` and says which part of the text is wrong.
The lenient one, for records, also takes other separators, a bare date, times
without seconds, and seconds or milliseconds since 1970; it only says whether the
text was understood, and whether it lies in the calendar.

## Main definitions

* `Timestamp.readStrict` — the strict reader.
* `Timestamp.readLenient` — the lenient reader of texts, with its two faults.
* `Timestamp.ofUnix`, `Timestamp.ofUnixReal` — instants from numbers.
-/

namespace JobHerald.Timestamp

/-! ### Digits -/

/-- The number written by the first `n` characters, which must be digits. -/
def takeNumber (n : Nat) (cs : List Char) : Option (Nat × List Char) :=
  if cs.length < n then none
  else (Text.readNat? (cs.take n)).map fun v => (v, cs.drop n)

/-- The rest after one expected character. -/
def takeChar (c : Char) : List Char → Option (List Char)
  | d :: rest => if d = c then some rest else none
  | [] => none

/-- A fraction of a second in microseconds, from its digits; digits beyond the
sixth are dropped. -/
def fractionMicros (digits : List Char) : Nat :=
  let six := (digits.take 6) ++ List.replicate (6 - digits.length) '0'
  (Text.readNat? six).getD 0

/-! ### Parts -/

/-- The parts of a written timestamp, not yet checked. -/
structure Parts where
  /-- The year. -/
  year : Nat
  /-- The month. -/
  month : Nat
  /-- The day. -/
  day : Nat
  /-- The hour. -/
  hour : Nat
  /-- The minute. -/
  minute : Nat
  /-- The second. -/
  second : Nat
  /-- The microsecond. -/
  micro : Nat
  /-- The offset in minutes, if it is written. -/
  offset : Option Int

/-- A date `YYYY-MM-DD` at the front. -/
def takeDate (cs : List Char) : Option ((Nat × Nat × Nat) × List Char) := do
  let (y, cs) ← takeNumber 4 cs
  let cs ← takeChar '-' cs
  let (m, cs) ← takeNumber 2 cs
  let cs ← takeChar '-' cs
  let (d, cs) ← takeNumber 2 cs
  return ((y, m, d), cs)

/-- The reading with the given parts. -/
def Parts.reading (p : Parts) : Timestamp :=
  let seconds := (p.hour * 60 + p.minute) * 60 + p.second
  let day := Date.toDays ⟨p.year, p.month, p.day⟩
  ⟨day * Timestamp.day + (seconds * 1000000 + p.micro : Nat),
    .ofOffset (p.offset.map (· * Timestamp.minute))⟩

/-- The first part that is out of range, in the order month, day, hour, minute, second;
every year counts, the year zero included. -/
def Parts.partFault? (p : Parts) : Option CalendarFault :=
  if p.month < 1 ∨ 12 < p.month then some .month
  else if p.day < 1 ∨ Date.monthLength p.year p.month < p.day then some .day
  else if 23 < p.hour then some .hour
  else if 59 < p.minute then some .minute
  else if 59 < p.second then some .second
  else none

/-- The first part that is out of range: the offset, the year, or one of the others. -/
def Parts.fault? (p : Parts) : Option CalendarFault :=
  if 1440 ≤ (p.offset.getD 0).natAbs then some (.offset (p.offset.getD 0))
  else if p.year = 0 then some (.year p.year)
  else p.partFault?

/-! ### The strict reader -/

/-- An offset `Z` or `±HH:MM` that ends the text, or nothing. -/
def strictOffset : List Char → Option (Option Int)
  | [] => some none
  | ['Z'] => some (some 0)
  | sign :: rest => do
      let (h, rest) ← takeNumber 2 rest
      let rest ← takeChar ':' rest
      let (m, rest) ← takeNumber 2 rest
      if !rest.isEmpty then none
      else if sign = '+' then some (some ((h * 60 + m : Nat) : Int))
      else if sign = '-' then some (some (-((h * 60 + m : Nat) : Int)))
      else none

/-- A fraction of one to six digits, or nothing. -/
def strictFraction : List Char → Option (Nat × List Char)
  | '.' :: rest =>
      let digits := rest.takeWhile Char.isDigit
      if digits.isEmpty || 6 < digits.length then none
      else some (fractionMicros digits, rest.dropWhile Char.isDigit)
  | cs => some (0, cs)

/-- The parts of a text in the strict form. -/
def strictParts (cs : List Char) : Option Parts := do
  let ((y, mo, d), cs) ← takeDate cs
  let cs ← takeChar 'T' cs
  let (h, cs) ← takeNumber 2 cs
  let cs ← takeChar ':' cs
  let (mi, cs) ← takeNumber 2 cs
  let cs ← takeChar ':' cs
  let (s, cs) ← takeNumber 2 cs
  let (f, cs) ← strictFraction cs
  let offset ← strictOffset cs
  return ⟨y, mo, d, h, mi, s, f, offset⟩

/-- The reading that a text in the strict form writes. -/
def readStrict (text : String) : Except CalendarFault Timestamp :=
  match strictParts text.toList with
  | none => .error (.malformed text)
  | some p =>
      match p.fault? with
      | some f => .error f
      | none => .ok p.reading

/-! ### Numbers -/

/-- Why the lenient reader takes no timestamp from a text or a number. -/
inductive ReadingFault where
  /-- It writes no timestamp. -/
  | unreadable
  /-- It writes one of the year zero, which the calendar does not have. -/
  | yearZero
  deriving DecidableEq, Repr

/-- The first second of the year zero. -/
def firstSecond : Int := Date.toDays ⟨0, 1, 1⟩ * 86400

/-- The last second of the year 9999. -/
def lastSecond : Int := Date.toDays ⟨9999, 12, 31⟩ * 86400 + 86399

/-- The reading of the UTC clock a number of microseconds after 1970 began. -/
def ofUtcMicros (micros : Int) : Except ReadingFault Timestamp :=
  let seconds := micros / 1000000
  if seconds < firstSecond ∨ lastSecond < seconds then .error .unreadable
  else if inRange micros then .ok ⟨micros, .fixed 0⟩
  else .error .yearZero

/-- Numbers up to this size are seconds, larger ones milliseconds. -/
def millisecondsFrom : Nat := 20000000000

/-- The instant of a whole number of seconds or milliseconds since 1970. -/
def ofUnix (n : Int) : Except ReadingFault Timestamp :=
  ofUtcMicros (if n.natAbs ≤ millisecondsFrom then n * 1000000 else n * 1000)

/-- The nearest integer to a nonnegative double, a half away from zero. -/
def nearest (x : Binary64) : Nat :=
  match x with
  | .finite _ m e => let (n, d) := Binary64.ratio m e; (2 * n + d) / (2 * d)
  | _ => 0

/-- A fraction of a unit in microseconds, of which the unit has `scale`: the fraction is
rounded to a double, and so is the product, before the nearest integer is taken. -/
def scaledFraction (num den scale : Nat) : Nat :=
  match Binary64.ofRatio false num den with
  | .finite _ m e =>
      let (n, d) := Binary64.ratio m e
      nearest (Binary64.ofRatio false (n * scale) d)
  | _ => 0

/-- The instant of a number of seconds or milliseconds since 1970: the whole part
toward the past, and the rest in microseconds. -/
def ofUnixReal (x : Binary64) : Except ReadingFault Timestamp :=
  match x with
  | .finite negative m e =>
      let (n, d) := Binary64.ratio m e
      let scale := if millisecondsFrom * d < n then 1000 else 1000000
      let signed : Int := if negative then -(n : Int) else n
      let whole := signed / d
      let rest := (signed % d).toNat
      ofUtcMicros (whole * scale + scaledFraction rest d scale)
  | _ => .error .unreadable

/-! ### The lenient reader -/

/-- An offset `Z` or `±HH[:]MM` below 24 hours that ends the text, or nothing. -/
def lenientOffset : List Char → Option (Option Int)
  | [] => some none
  | [c] => if c = 'Z' || c = 'z' then some (some 0) else none
  | sign :: rest => do
      let (h, rest) ← takeNumber 2 rest
      let rest := match rest with
        | ':' :: rest => rest
        | rest => rest
      let (m, rest) ← takeNumber 2 rest
      if !rest.isEmpty || 23 < h || 59 < m then none
      else if sign = '+' then some (some ((h * 60 + m : Nat) : Int))
      else if sign = '-' || sign.toNat = 0x2212 then some (some (-((h * 60 + m : Nat) : Int)))
      else none

/-- Seconds and their fraction after the minutes, or nothing. -/
def lenientSeconds : List Char → Option ((Nat × Nat) × List Char)
  | ':' :: cs => do
      let (s, cs) ← takeNumber 2 cs
      match cs with
      | c :: rest =>
          if c = '.' || c = ',' then
            let digits := rest.takeWhile Char.isDigit
            if digits.isEmpty then none
            else some ((s, fractionMicros digits), rest.dropWhile Char.isDigit)
          else some ((s, 0), cs)
      | [] => some ((s, 0), [])
  | cs => some ((0, 0), cs)

/-- The parts of a text in the lenient form. -/
def lenientParts (cs : List Char) : Option Parts := do
  let ((y, mo, d), cs) ← takeDate cs
  match cs with
  | [] => some ⟨y, mo, d, 0, 0, 0, 0, none⟩
  | sep :: cs =>
      if sep = 'T' || sep = 't' || sep = ' ' || sep = '_' then
        let (h, cs) ← takeNumber 2 cs
        let cs ← takeChar ':' cs
        let (mi, cs) ← takeNumber 2 cs
        let ((s, f), cs) ← lenientSeconds cs
        let offset ← lenientOffset cs
        some ⟨y, mo, d, h, mi, s, f, offset⟩
      else none

/-- The sign of a number, and the rest. -/
def dropSign : List Char → Bool × List Char
  | '-' :: rest => (true, rest)
  | '+' :: rest => (false, rest)
  | cs => (false, cs)

/-- The power of ten that ends a number with a period, or nothing. -/
def readPower : List Char → Option Int
  | [] => some 0
  | e :: cs =>
      let (negative, digits) := dropSign cs
      if e = 'e' || e = 'E' then
        (Text.readNat? digits).map fun n => if negative then -(n : Int) else n
      else none

/-- A number without its sign: the number that its digits write, and the power of ten that
goes with them if the number has a period.  One of the two sides of the period may be
empty. -/
def unsignedNumber (cs : List Char) : Option (Nat × Option Int) :=
  let whole := cs.takeWhile Char.isDigit
  match cs.dropWhile Char.isDigit with
  | [] => (Text.readNat? whole).map fun n => (n, none)
  | '.' :: rest => do
      let fraction := rest.takeWhile Char.isDigit
      let n ← Text.readNat? (whole ++ fraction)
      let power ← readPower (rest.dropWhile Char.isDigit)
      return (n, some (power - fraction.length))
  | _ => none

/-- The instant that a text writes as a number. -/
def readNumeric (cs : List Char) : Except ReadingFault Timestamp :=
  let (negative, cs) := dropSign cs
  match unsignedNumber cs with
  | none => .error .unreadable
  | some (n, none) => ofUnix (if negative then -(n : Int) else n)
  | some (n, some power) => ofUnixReal (Binary64.ofDecimal negative n power)

/-- The reading that a text in the lenient form writes. -/
def readLenient (text : String) : Except ReadingFault Timestamp :=
  match lenientParts text.toList with
  | some p =>
      if p.partFault?.isSome then .error .unreadable
      else if p.year = 0 then .error .yearZero
      else .ok p.reading
  | none => readNumeric text.toList

end JobHerald.Timestamp
