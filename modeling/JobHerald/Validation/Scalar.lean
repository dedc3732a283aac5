import JobHerald.Calendar.Reader
import JobHerald.Identity.Email
import JobHerald.Identity.Uuid
import JobHerald.Validation.Checked

/-!
# Readers of scalar values

Each reader takes the native form of its kind of value and the other forms that
stand for it without loss: a whole number may come as text, as a number with an
empty fraction or as a truth value, and a truth value as one of a few words.

## Main definitions

* `Read.text`, `Read.integer`, `Read.natural`, `Read.flag`, `Read.uuid`,
  `Read.timestamp`, `Read.email` — the readers.
* `Read.integerOfText` — how a text writes an integer.
* `Read.nullable` — null beside the values of a reader.
-/

namespace JobHerald.Read

/-! ### Texts -/

/-- A text. -/
def text : Reader String
  | .str s => .valid s
  | v => .fault .textType v

/-- Null, or what a reader takes. -/
def nullable {α : Type} (r : Reader α) : Reader (Option α)
  | .null => .valid none
  | v => some <$> r v

/-! ### Integers -/

/-- A plain integer: an optional minus sign and digits, without zeros at the front. -/
def plainInteger? (cs : List Char) : Option Int :=
  let (negative, digits) := match cs with
    | '-' :: rest => (true, rest)
    | cs => (false, cs)
  if 1 < digits.length && digits.head? == some '0' then none
  else (Text.readNat? digits).map fun n => if negative then -(n : Int) else n

/-- The rest of a text after zeros and underscores at its front, where `last` is the
character passed before: a point keeps that character, and so does the end.  A minus
sign ends the zeros like a digit does. -/
def afterZeros (last : Char) : List Char → Option (List Char)
  | [] => some [last]
  | c :: rest =>
      if c = '0' ∨ c = '_' then afterZeros c rest
      else if c = '.' then some (last :: c :: rest)
      else if c = '-' ∨ c.isDigit then some (c :: rest)
      else none

/-- The text without zeros at its front; a sign or another digit there ends the search. -/
def dropLeadingZeros : List Char → Option (List Char)
  | '0' :: rest => afterZeros '0' rest
  | c :: rest => if c = '-' ∨ c.isDigit then some (c :: rest) else none
  | [] => none

/-- The text without a fraction that consists of zeros, at least one. -/
def dropZeroFraction (cs : List Char) : List Char :=
  match Text.cutAt '.' cs with
  | some (whole, fraction) =>
      if !fraction.isEmpty && fraction.all (· = '0') then whole else cs
  | none => cs

/-- The text without underscores, if none is at an end or beside another. -/
def dropUnderscores (cs : List Char) : List Char :=
  if cs.head? = some '_' ∨ cs.getLast? = some '_' ∨ Text.occurs ['_', '_'] cs then cs
  else cs.filter (· ≠ '_')

/-- The digits of a text without its zeros, fraction and underscores. -/
def cleanDigits (cs : List Char) : Option (List Char) :=
  (dropLeadingZeros cs).map fun cs => dropUnderscores (dropZeroFraction cs)

/-- A text without blanks, with at most one sign, in its plain form.  A plus sign is
dropped unless a minus sign follows it; zeros are dropped behind a minus sign, too. -/
def plainForm : List Char → Option (List Char)
  | '+' :: '-' :: _ => none
  | '+' :: rest => cleanDigits rest
  | '-' :: rest => (cleanDigits rest).map ('-' :: ·)
  | cs => cleanDigits cs

/-- Whether a text begins like a plain integer with more digits than are read. -/
def beginsTooLong (cs : List Char) : Bool :=
  let digits := (if cs.head? = some '-' then cs.drop 1 else cs).takeWhile Char.isDigit
  digits.head? != some '0' && Text.digitLimit < digits.length

/-- The integer that a text writes: blanks around it, a sign, zeros at the front,
underscores between digits and a fraction of zeros are allowed.  A text is too long if it
is so at its very beginning; the plain form of any other only fails to be an integer. -/
def integerOfText (s : String) : Except Fault Int :=
  if beginsTooLong s.toList then .error .integerSize
  else
    match (plainForm (Text.trim Text.isBlank s).toList).bind fun cs =>
      if beginsTooLong cs then none else plainInteger? cs with
    | none => .error .integerText
    | some n => .ok n

/-- Whether an integer fits into a machine word of 64 bits. -/
def fitsWord (n : Int) : Bool := -9223372036854775808 ≤ n && n < 9223372036854775808

/-- Whether an integer lies inside the range of a machine word, its ends left out; a
double at an end may stand for an integer beyond it. -/
def isInsideWord (n : Int) : Bool := -9223372036854775808 < n && n < 9223372036854775808

/-- An integer. -/
def integer : Reader Int
  | .int n => .valid n
  | .bool b => .valid (if b then 1 else 0)
  | .real x =>
      match x.truncate? with
      | none => .fault .finite (.real x)
      | some n =>
          if !x.isIntegral then .fault .integerFraction (.real x)
          else if isInsideWord n then .valid n
          else .fault .integerSize (.real x)
  | .str s =>
      match integerOfText s with
      | .ok n => .valid n
      | .error f => .fault f (.str s)
  | v => .fault .integerType v

/-- An integer that is not negative. -/
def natural (v : Json) : Checked Nat :=
  (integer v).andThen fun n =>
    match n with
    | .ofNat n => .valid n
    | .negSucc _ => .fault .negative v

/-! ### Truth values -/

/-- The words for true. -/
def yesWords : List String := ["1", "t", "y", "yes", "on", "true"]

/-- The words for false. -/
def noWords : List String := ["0", "f", "n", "no", "off", "false"]

/-- A truth value. -/
def flag : Reader Bool
  | .bool b => .valid b
  | .int n =>
      if n = 1 then .valid true
      else if n = 0 then .valid false
      else .fault (if fitsWord n then .flagText else .flagType) (.int n)
  | .real x =>
      match x.truncate? with
      | none => .fault .flagType (.real x)
      | some n =>
          if !x.isIntegral || !isInsideWord n then .fault .flagType (.real x)
          else if n = 1 then .valid true
          else if n = 0 then .valid false
          else .fault .flagText (.real x)
  | .str s =>
      let word := String.ofList (s.toList.map Char.toLower)
      if yesWords.contains word then .valid true
      else if noWords.contains word then .valid false
      else .fault .flagText (.str s)
  | v => .fault .flagType v

/-! ### Identifiers, times and addresses -/

/-- An identifier in a standard spelling. -/
def uuid : Reader Uuid
  | .str s =>
      match Uuid.ofSpelling? s with
      | some u => .valid u
      | none => .fault .uuidText (.str s)
  | v => .fault .uuidType v

/-- The fault of a value from which no timestamp is read: one of the year zero is
understood but lies outside the calendar. -/
def timeFault (otherwise : Fault) : Timestamp.ReadingFault → Fault
  | .unreadable => otherwise
  | .yearZero => .timeNumber

/-- A timestamp that was read, or its fault. -/
def timeOf (otherwise : Fault) (v : Json) :
    Except Timestamp.ReadingFault Timestamp → Checked Timestamp
  | .ok t => .valid t
  | .error f => .fault (timeFault otherwise f) v

/-- A timestamp, as text or as a number of seconds or milliseconds since 1970. -/
def timestamp : Reader Timestamp
  | .str s => timeOf .timeText (.str s) (Timestamp.readLenient s)
  | .int n => timeOf .timeNumber (.int n) (Timestamp.ofUnix n)
  | .real x => timeOf .timeNumber (.real x) (Timestamp.ofUnixReal x)
  | v => .fault .timeType v

/-- An email address. -/
def email : Reader Email
  | .str s =>
      match Email.read s with
      | .ok e => .valid e
      | .error f => .fault (.email f) (.str s)
  | v => .fault .textType v

end JobHerald.Read
