import JobHerald.Log.Call
import JobHerald.Outcome

/-!
# Attempts

An attempt runs an action and always returns a result.  A failure is classified and
logged with the fields of its context; an action whose value says that it did
nothing counts as skipped.  A context may name a logger of its own; other fields must
not have names that the attempt or its log entry uses.

## Main definitions

* `Attempt.reserved` — the fields of a failure's log entry.
* `Attempt.failureFields` — those fields together with a context.
* `attemptUnless`, `attempt` — the attempt of an action.
-/

namespace JobHerald

namespace Attempt

/-- The names of the action and the event of an attempt. -/
def arguments : List String := ["operation", "event"]

/-- The name of an attempt's own logger. -/
def loggerName : String := "log"

/-- The fields that a failure's log entry always has. -/
def reserved : List String := ["error", "error_code", "status", "exc_info"]

/-- The level at which a result is logged. -/
def level {α : Type} (r : OperationResult α) : Log.Level :=
  if r.status = .unsupported then .warning else .error

/-- The fields of a failure's log entry, with those of a context.  A context must
not give a reserved field again. -/
def failureFields {α : Type} (r : OperationResult α) (context : Fields) :
    Except Failure Fields :=
  match context.names.find? reserved.contains with
  | some name => .error (.missingValue name)
  | none =>
      .ok ([("error", .str r.message), ("error_code", .ofOption r.errorCode),
        ("status", .str r.status.word), ("exc_info", .bool (r.status != .unsupported))] ++ context)

/-- The result of a failure, logged under an event.  No value of a context is a logger:
one that counts as true cannot be called, and any other stands for the logger at hand. -/
def failure {α : Type} (event : String) (context : Fields) (e : Failure) :
    Action (OperationResult α) := do
  let r := OperationResult.ofFailure e
  let logger := (Fields.get? loggerName context).getD .null
  if logger.isTruthy then Action.fail (.absent logger.typeName Log.Level.warning.word)
  else
    let fields ← Action.ofExcept (failureFields r (context.erase loggerName))
    Action.call (level r) event fields
    return r

end Attempt

/-- The attempt of an action.  Values for which `declined` holds say that the action
did nothing. -/
def attemptUnless {α : Type} (declined : α → Bool) (x : Action α) (event : String)
    (context : Fields) : Action (OperationResult α) := do
  match (Signature.loose "attempt" Attempt.arguments).fault? context with
  | some f => Action.fail f
  | none =>
      match ← x.guarded with
      | .ok a => return if declined a then .skipped else .success a
      | .error e => Attempt.failure event context e

/-- The attempt of an action whose value always counts. -/
def attempt {α : Type} (x : Action α) (event : String) (context : Fields) :
    Action (OperationResult α) := attemptUnless (fun _ => false) x event context

/-- The value that says that an action did nothing. -/
def Json.isDeclined : Json → Bool
  | .bool false => true
  | _ => false

end JobHerald
