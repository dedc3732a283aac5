import JobHerald.Failure
import JobHerald.Trigger

/-!
# Results of operations

Whatever an operation does, its result has a status, a message, the value it
returned if it returned one, and a code if it failed.

## Main definitions

* `OperationResult` — results, with `success`, `skipped` and `failed`.
* `OperationResult.ofFailure` — how a failure is classified.
* `OperationResult.outcome` — the delivery outcome of a result.
-/

namespace JobHerald

/-- The result of an operation. -/
structure OperationResult (α : Type) where
  /-- How it ended. -/
  status : Status
  /-- A message for people. -/
  message : String
  /-- The value, if there is one. -/
  data : Option α
  /-- The machine-readable code of a failure. -/
  errorCode : Option String
  deriving Repr

namespace OperationResult

variable {α : Type}

/-! ### Making results -/

/-- A success with its value. -/
def success (data : α) : OperationResult α := ⟨.success, "ok", some data, none⟩

/-- A deliberate omission. -/
def skipped : OperationResult α := ⟨.skipped, "skipped", none, none⟩

/-- A failure. -/
def failed (status : Status) (message code : String) : OperationResult α :=
  ⟨status, message, none, some code⟩

/-- A failure, classified.  One that knows its status keeps it; trouble with requests
and openings, and deadlines, may pass; everything else will not. -/
def ofFailure (f : Failure) : OperationResult α :=
  match f with
  | .operation o => failed o.status o.message o.code
  | f =>
      if f.family.isRequest || f.family.isOpening then
        failed .transient ("Connection error: " ++ f.name ++ ": " ++ f.message) "CONNECTION_ERROR"
      else if f.family = .timeout then
        failed .transient ("Timed out: " ++ f.message) "TIMEOUT"
      else
        failed .permanent ("Unexpected error: " ++ f.name ++ ": " ++ f.message) "UNEXPECTED_ERROR"

/-! ### Reading results -/

/-- Whether the operation succeeded. -/
def isSuccess (r : OperationResult α) : Bool := r.status == .success

/-- Whether the operation was deliberately omitted. -/
def isSkipped (r : OperationResult α) : Bool := r.status == .skipped

/-- Whether the operation failed. -/
def isFailure (r : OperationResult α) : Bool := !(r.isSuccess || r.isSkipped)

/-- The value of a success. -/
def value? (r : OperationResult α) : Option α := if r.isSuccess then r.data else none

/-- The delivery outcome of a result. -/
def outcome (r : OperationResult α) : DeliveryOutcome :=
  if r.isSuccess then .delivered else if r.isSkipped then .skipped else .failed

@[simp] theorem isSuccess_success (a : α) : (success a).isSuccess = true := rfl

@[simp] theorem value?_success (a : α) : (success a).value? = some a := rfl

@[simp] theorem value?_skipped : (skipped : OperationResult α).value? = none := rfl

end OperationResult

end JobHerald
