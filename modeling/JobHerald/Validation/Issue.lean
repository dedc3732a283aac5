import JobHerald.Identity.Email.Fault
import JobHerald.Json.Basic
import JobHerald.Text.Quoted
import JobHerald.Text.Slice

/-!
# Issues of a record

Reading a record from a JSON value collects every issue: where it is, and what is
wrong there.

## Main definitions

* `Fault`, `Issue` — what is wrong, and where.
* `Rejection` — the issues of one record, with the record's name.
* `Rejection.headline`, `Rejection.report` — the number of issues in words, and the full
  text with one paragraph for each issue.
-/

namespace JobHerald

/-! ### Faults -/

/-- What can be wrong with a value. -/
inductive Fault where
  /-- A required member is absent. -/
  | missing
  /-- The value is no text. -/
  | textType
  /-- The value is no integer. -/
  | integerType
  /-- The text does not write an integer. -/
  | integerText
  /-- The integer has too many digits. -/
  | integerSize
  /-- The number has a fraction. -/
  | integerFraction
  /-- The number is not finite. -/
  | finite
  /-- The value is no truth value. -/
  | flagType
  /-- The value does not stand for a truth value. -/
  | flagText
  /-- The value is not one of the words of an enumeration. -/
  | word
  /-- The value is no identifier. -/
  | uuidType
  /-- The text is no spelling of an identifier. -/
  | uuidText
  /-- The value is no timestamp. -/
  | timeType
  /-- The value is no timestamp of the calendar. -/
  | timeNumber
  /-- The text is no timestamp. -/
  | timeText
  /-- The value is no list. -/
  | listType
  /-- The value is no object with free members. -/
  | objectType
  /-- The value is no record. -/
  | recordType
  /-- The list has too few items. -/
  | tooShort
  /-- The number is negative. -/
  | negative
  /-- The text is no email address. -/
  | email (f : Email.Fault)
  /-- The record cannot be changed. -/
  | frozen
  deriving DecidableEq, Repr

/-- The code of a fault. -/
def Fault.code : Fault → String
  | missing => "missing"
  | textType => "string_type"
  | integerType => "int_type"
  | integerText => "int_parsing"
  | integerSize => "int_parsing_size"
  | integerFraction => "int_from_float"
  | finite => "finite_number"
  | flagType => "bool_type"
  | flagText => "bool_parsing"
  | word => "enum"
  | uuidType => "uuid_type"
  | uuidText => "uuid_parsing"
  | timeType => "datetime_type"
  | timeNumber => "datetime_parsing"
  | timeText => "datetime_from_date_parsing"
  | listType => "list_type"
  | objectType => "dict_type"
  | recordType => "model_type"
  | tooShort => "too_short"
  | negative => "greater_than_equal"
  | email _ => "value_error"
  | frozen => "frozen_instance"

/-- A fault in a sentence. -/
def Fault.sentence : Fault → String
  | missing => "Field required"
  | textType => "Input should be a valid string"
  | integerType => "Input should be a valid integer"
  | integerText => "Input should be a valid integer, unable to parse string as an integer"
  | integerSize => "Unable to parse input string as an integer, exceeded maximum size"
  | integerFraction => "Input should be a valid integer, got a number with a fractional part"
  | finite => "Input should be a finite number"
  | flagType => "Input should be a valid boolean"
  | flagText => "Input should be a valid boolean, unable to interpret input"
  | word => "Input should be one of the expected words"
  | uuidType => "UUID input should be a string, bytes or UUID object"
  | uuidText => "Input should be a valid UUID"
  | timeType => "Input should be a valid datetime"
  | timeNumber => "Input should be a valid datetime"
  | timeText => "Input should be a valid datetime or date"
  | listType => "Input should be a valid list"
  | objectType => "Input should be a valid dictionary"
  | recordType => "Input should be a valid dictionary or record"
  | tooShort => "List should have at least 1 item after validation, not 0"
  | negative => "Input should be greater than or equal to 0"
  | email f => "value is not a valid email address: " ++ f.message
  | frozen => "Instance is frozen"

/-! ### Issues -/

/-- One issue: the way to the value, the fault, and the value. -/
structure Issue where
  /-- Names of members and positions in lists, from the outside in. -/
  path : List String
  /-- What is wrong. -/
  fault : Fault
  /-- The offending value. -/
  input : Json
  deriving Repr

/-- The issue seen from outside the member or item it lies in. -/
def Issue.inside (step : String) (i : Issue) : Issue := { i with path := step :: i.path }

/-- The issue as its path followed by the code of the fault. -/
def Issue.entry (i : Issue) : List String := i.path ++ [i.fault.code]

/-- The issues of one record. -/
structure Rejection where
  /-- The name of the record. -/
  record : String
  /-- Its issues, in the order in which they were found. -/
  issues : List Issue
  deriving Repr

namespace Rejection

/-! ### Texts -/

/-- The number of issues and the record's name. -/
def headline (r : Rejection) : String :=
  let n := r.issues.length
  toString n ++ (if n = 1 then " validation error for " else " validation errors for ") ++ r.record

/-- The order of two lists of texts: item by item, a shorter list first. -/
def entryLE : List String → List String → Bool
  | [], _ => true
  | _ :: _, [] => false
  | a :: as, b :: bs => a < b || (a == b && entryLE as bs)

/-- The issues as lists of texts, in order. -/
def entries (r : Rejection) : List (List String) := (r.issues.map Issue.entry).mergeSort entryLE

/-- The characters from the front that fit into a number of bytes. -/
def fitting : Nat → List Char → List Char
  | _, [] => []
  | room, c :: cs => if c.utf8Size ≤ room then c :: fitting (room - c.utf8Size) cs else []

/-- A quoted value, with the middle of a long one left out. -/
def excerpt (s : String) : String :=
  if s.utf8ByteSize ≤ 50 then s
  else
    String.ofList (fitting 25 s.toList) ++ "..."
      ++ String.ofList (fitting 24 s.toList.reverse).reverse

/-- The place where faults are documented. -/
def manual : String := String.intercalate "/" ["https:", "", "errors.pydantic.dev", "2.14", "v", ""]

/-- Whether the manual has an entry for a fault; for one with a sentence of its own cause
it has none. -/
def hasEntry : Fault → Bool
  | .email _ => false
  | _ => true

/-- The paragraph of an issue with a text. -/
def paragraph (i : Issue) : String :=
  let shown := match i.input with
    | .str s => excerpt (Text.quoted s)
    | _ => i.input.typeName
  let entry := if hasEntry i.fault then
      "\n    For further information visit " ++ manual ++ i.fault.code
    else ""
  "\n" ++ Text.joined "." i.path ++ "\n  " ++ i.fault.sentence ++ " [type=" ++ i.fault.code
    ++ ", input_value=" ++ shown ++ ", input_type=" ++ i.input.typeName ++ "]" ++ entry

/-- The headline with a paragraph for each issue. -/
def report (r : Rejection) : String := r.headline ++ String.join (r.issues.map paragraph)

end Rejection

end JobHerald
