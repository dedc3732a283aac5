import JobHerald.Json.Basic
import JobHerald.Validation.Record

/-!
# Log entries

An entry is an event with a level and fields.

## Main definitions

* `Log.Level`, `Log.Entry` — levels and entries.
* `Log.Entry.toJson` — the entry as an object.
-/

namespace JobHerald.Log

/-- The levels of entries. -/
inductive Level where
  /-- Detail for developers. -/
  | debug
  /-- Normal operation. -/
  | info
  /-- Something unexpected that does no harm. -/
  | warning
  /-- Something that failed. -/
  | error
  /-- Something that stops the program. -/
  | critical
  deriving DecidableEq, Repr, Inhabited

/-- The word of a level. -/
def Level.word : Level → String
  | debug => "debug"
  | info => "info"
  | warning => "warning"
  | error => "error"
  | critical => "critical"

/-- The rank of a level: entries below a threshold are dropped. -/
def Level.rank : Level → Nat
  | debug => 10
  | info => 20
  | warning => 30
  | error => 40
  | critical => 50

/-- A log entry. -/
structure Entry where
  /-- The level. -/
  level : Level
  /-- The name of the event. -/
  event : String
  /-- The fields. -/
  fields : Fields
  deriving Repr

/-- The fields that name the module of a call, which are not shown. -/
def moduleFields : List String := ["component", "module_path"]

/-- An entry as an object; the level and the event stand for themselves whatever the
fields are called, and there is no event if it is null. -/
def entryJson (level : Level) (event : Json) (fields : Fields) : Json :=
  .obj (Fields.insertAll (fields.filter fun (k, _) => !moduleFields.contains k)
    ((if event.isNull then [] else [("event", event)]) ++ [("log_level", .str level.word)]))

/-- The entry as an object. -/
def Entry.toJson (e : Entry) : Json := entryJson e.level (.str e.event) e.fields

end JobHerald.Log
