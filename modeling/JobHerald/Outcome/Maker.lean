import JobHerald.Outcome
import JobHerald.Signature

/-!
# Results from named arguments

A result can be made from arguments that are given by name.  Each maker knows the
names of its arguments, and which of them it cannot do without; the message, the
value and the code are taken as they are.

## Main definitions

* `OperationResult.Loose`, `OperationResult.Loose.view` — results whose parts are values
  of any kind, and what can be told from them.
* `OperationResult.Maker`, `OperationResult.Maker.make` — the makers.
-/

namespace JobHerald.OperationResult

/-! ### Loose results -/

/-- A result whose parts are values of any kind. -/
structure Loose where
  /-- How the operation ended. -/
  status : Status
  /-- The message. -/
  message : Json
  /-- The value. -/
  data : Json
  /-- The code. -/
  errorCode : Json
  deriving Repr

/-- A result as a loose one. -/
def loose (r : OperationResult Json) : Loose :=
  ⟨r.status, .str r.message, r.data.getD .null, .ofOption r.errorCode⟩

namespace Loose

/-- The parts of a result. -/
def toJson (r : Loose) : Json :=
  .obj
    [("status", .str r.status.word), ("message", r.message), ("data", r.data),
      ("error_code", r.errorCode)]

/-- A result and all that can be told from it. -/
def view (r : Loose) : Json :=
  let s : OperationResult Unit := ⟨r.status, "", none, none⟩
  .obj
    [("operation_result", r.toJson), ("is_success", .bool s.isSuccess),
      ("is_skipped", .bool s.isSkipped), ("is_failure", .bool s.isFailure),
      ("outcome", .str s.outcome.word)]

end Loose

/-! ### Makers -/

/-- The makers of results. -/
inductive Maker where
  /-- A success. -/
  | success
  /-- A deliberate omission. -/
  | skipped
  /-- A failure with a status. -/
  | error
  /-- A failure that may pass. -/
  | transient
  /-- A failure that will not pass. -/
  | permanent
  deriving DecidableEq, Repr

instance : Vocabulary Maker where
  name := "OperationResult"
  all := [.success, .skipped, .error, .transient, .permanent]
  word
    | .success => "success"
    | .skipped => "skipped"
    | .error => "error"
    | .transient => "transient_error"
    | .permanent => "permanent_error"

namespace Maker

/-- The names of the arguments that a maker cannot do without. -/
def required : Maker → List String
  | success | skipped => []
  | error => ["status", "message"]
  | transient | permanent => ["message"]

/-- The names of the other arguments. -/
def further : Maker → List String
  | success => ["data", "message"]
  | skipped => ["message"]
  | error => ["error_code", "data"]
  | transient | permanent => ["error_code"]

/-- The name of a maker in messages. -/
def callee (m : Maker) : String := Vocabulary.name Maker ++ "." ++ Vocabulary.word m

/-- The signature of a maker. -/
def signature (m : Maker) : Signature := ⟨m.callee, ["cls"], m.required, m.further, false⟩

/-- The status that a maker sets, given the one among the arguments. -/
def status (m : Maker) (given : Status) : Status :=
  match m with
  | success => .success
  | skipped => .skipped
  | error => given
  | transient => .transient
  | permanent => .permanent

/-- The message when none is given. -/
def message (m : Maker) : Json :=
  match m with
  | success => .str "ok"
  | skipped => .str "skipped"
  | _ => .null

/-- The status among some arguments, if there is one. -/
def statusAmong (args : Fields) : Except Failure Status :=
  match Fields.get? "status" args with
  | none => .ok .success
  | some v =>
      match v.str?.bind Vocabulary.ofWord? with
      | some s => .ok s
      | none => .error (.unknownWord (Vocabulary.name Status) v)

/-- The result of a maker. -/
def make (m : Maker) (args : Fields) : Except Failure Loose := do
  let given ← statusAmong args
  match m.signature.fault? args with
  | some f => .error f
  | none =>
      let part (name : String) : Json := (Fields.get? name args).getD .null
      return ⟨m.status given, (Fields.get? "message" args).getD m.message, part "data",
        part "error_code"⟩

/-- The result of the maker of a given name. -/
def makeNamed (name : String) (args : Fields) : Except Failure Loose :=
  match Vocabulary.ofWord? (α := Maker) name with
  | some m => m.make args
  | none => .error (.absentMaker (Vocabulary.name Maker) name)

end Maker

end JobHerald.OperationResult
