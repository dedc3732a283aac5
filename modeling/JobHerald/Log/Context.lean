import JobHerald.Action
import JobHerald.Json.Plain

/-!
# The logging context

While a notification is dispatched, every log entry can carry the identifiers of the
dispatch.  They are bound when the dispatch begins; when it ends, in whatever way,
each of them gets back the value that it had before.

## Main definitions

* `Log.Binding`, `Log.Binding.fields` — identifiers, and the fields that they bind.
* `Log.enter`, `Log.leave` — the two ends of a dispatch.
* `Action.within` — an action inside a dispatch.
-/

namespace JobHerald

namespace Log

/-! ### Identifiers -/

/-- The identifiers that a dispatch binds. -/
structure Binding where
  /-- The correlation identifier; a new one is made if it is missing or empty. -/
  correlation : Json
  /-- The job. -/
  job : Json
  /-- The workspace. -/
  workspace : Json
  /-- The trigger. -/
  trigger : Json
  /-- Further fields. -/
  extra : Fields

/-- No identifiers. -/
def Binding.none : Binding := ⟨.null, .null, .null, .null, []⟩

/-- The names of the identifiers; all other names are those of further fields. -/
def Binding.names : List String := ["correlation_id", "job_id", "workspace_id", "trigger"]

/-- The identifiers among some fields. -/
def Binding.ofFields (fs : Fields) : Binding :=
  let value (name : String) : Json := (Fields.get? name fs).getD .null
  ⟨value "correlation_id", value "job_id", value "workspace_id", value "trigger",
    fs.filter fun (k, _) => !Binding.names.contains k⟩

/-- A field with the text of a value, unless the value is null. -/
def textField (name : String) (v : Json) : Fields :=
  if v.isNull then [] else [(name, .str v.plain)]

/-- The fields that a dispatch binds, with a new correlation identifier at hand. -/
def Binding.fields (b : Binding) (fresh : String) : Fields :=
  let correlation := if b.correlation.isTruthy then b.correlation else .str fresh
  Fields.insertAll
    ([("correlation_id", correlation)] ++ textField "job_id" b.job
      ++ textField "workspace_id" b.workspace
      ++ (if b.trigger.isNull then [] else [("trigger", b.trigger)]))
    b.extra

/-! ### The two ends -/

/-- What fields had before they were bound. -/
abbrev Saved := List (String × Option Json)

/-- The values that fields have in a context. -/
def save (context bound : Fields) : Saved :=
  bound.map fun (k, _) => (k, Fields.get? k context)

/-- The context with fields bound in it. -/
def enter (context bound : Fields) : Fields := Fields.insertAll context bound

/-- The context with one field as it was before. -/
def restore (context : Fields) : String × Option Json → Fields
  | (k, some v) => Fields.insert k v context
  | (k, none) => Fields.erase k context

/-- The context with the saved fields as they were before. -/
def leave (context : Fields) (saved : Saved) : Fields := saved.foldl restore context

end Log

/-! ### Dispatches -/

/-- An action inside a dispatch with the given identifiers. -/
def Action.within {α : Type} (b : Log.Binding) (x : Action α) : Action α := fun s w =>
  let bound := b.fields s.fresh
  let saved := Log.save w.context bound
  let (result, w) := x s { w with context := Log.enter w.context bound }
  (result, { w with context := Log.leave w.context saved })

end JobHerald
