import JobHerald.Log.Call
import JobHerald.Log.Threshold

/-!
# What calls of a logger do

Most calls write an entry.  The others make another logger, or a task that nobody runs, or
they ask the logger or change it; only a new threshold of its own can be told afterwards.

## Main definitions

* `Log.Deed` — what a call does.
* `Log.binding?`, `Log.task?`, `Log.management?` — calls that write no entry.
* `Log.Call.deed` — what a call of any method does to a logger with bound fields.
-/

namespace JobHerald.Log

/-- What a call does. -/
inductive Deed where
  /-- It writes an entry. -/
  | entry (level : Level) (event : Json) (fields : Fields)
  /-- It gives the logger a threshold of its own, or none, which is zero. -/
  | threshold (rank : Int)
  /-- Nothing that can be told afterwards. -/
  | nothing
  deriving Repr

/-- A call that does nothing, unless something is wrong with it. -/
def Deed.unless : Option Failure → Except Failure Deed
  | some f => .error f
  | none => .ok .nothing

/-! ### Other loggers -/

/-- The name of the logger that takes the calls: there is one of its own for bound fields. -/
def holderName (bound : Fields) : String :=
  if bound.isEmpty then "BoundLoggerLazyProxy" else "BoundLogger"

/-- What is wrong with a value as the name of a bound field that is taken away; it has to
be there if the call is strict. -/
def unbindFault? (strict : Bool) (bound : Fields) (name : Json) : Option Failure :=
  let isBound := match name with
    | .str s => Fields.has s bound
    | _ => false
  match name with
  | .arr _ | .obj _ =>
      if strict || !bound.isEmpty then some (.notAKey name.typeName) else none
  | _ => if strict && !isBound then some (.unknownKey name) else none

/-- A call that makes a logger with other bound fields.  Those that bind fields take no
event; those that take fields away have their name for an event. -/
def binding? (bound : Fields) (c : Call) : Option (Except Failure Deed) :=
  let callee := holderName bound ++ "." ++ c.method
  let named := (Signature.strict callee ["self"]).fault? c.fields
  match c.method with
  | "bind" | "new" =>
      let fault := (Signature.loose callee ["self"]).fault? c.fields
      some (.error (fault.getD (.furtherArgument callee)))
  | "unbind" => some (Deed.unless (named <|> unbindFault? true bound c.event))
  | "try_unbind" => some (Deed.unless (named <|> unbindFault? false bound c.event))
  | _ => none

/-! ### Tasks -/

/-- The methods that make a task. -/
def taskMethods : List String :=
  ["adebug", "ainfo", "awarning", "aerror", "acritical", "afatal", "aexception"]

/-- A call that makes a task; the one that takes a rank first must have its event among
the fields. -/
def task? (c : Call) : Option (Except Failure Deed) :=
  let callee := methodName c.method
  if c.method = "alog" then
    let signature : Signature := ⟨callee, ["self", "level"], ["event"], [], true⟩
    some (Deed.unless (signature.fault? c.fields))
  else if taskMethods.contains c.method then
    some (Deed.unless ((Signature.loose callee ["self", "event"]).fault? c.fields))
  else none

/-! ### Management -/

/-- The parts of a logger that are no methods, with their kinds. -/
def parts : List (String × String) :=
  [("name", "str"), ("level", "int"), ("parent", "RootLogger"), ("propagate", "bool"),
    ("handlers", "list"), ("disabled", "bool")]

/-- The methods that take no argument. -/
def bareMethods : List String := ["getEffectiveLevel", "hasHandlers"]

/-- The signatures of the methods that manage a logger, of which the event is the first
argument. -/
def managementSignatures : List (String × Signature) :=
  let taking (method argument : String) (further : List String) : String × Signature :=
    (method, ⟨methodName method, ["self", argument], [], further, false⟩)
  [taking "setLevel" "level" [], taking "isEnabledFor" "level" [], taking "getChild" "suffix" [],
    taking "findCaller" "stack_info" ["stacklevel"], taking "addHandler" "hdlr" [],
    taking "removeHandler" "hdlr" [], taking "handle" "record" [],
    taking "callHandlers" "record" [],
    ("makeRecord",
      ⟨methodName "makeRecord", ["self", "name"], ["level", "fn", "lno", "msg", "args", "exc_info"],
        ["func", "extra"], false⟩)]

/-- What is wrong with a value as a rank that is compared. -/
def rankFault? (v : Json) : Option Failure :=
  match v with
  | .arr _ | .obj _ => some (.notAKey v.typeName)
  | .str _ | .null => some (.notOrdered ">=" v.typeName)
  | _ => none

/-- What a method that manages a logger does with its first argument. -/
def manage (method : String) (v : Json) : Except Failure Deed :=
  match method with
  | "setLevel" => (ownThreshold v).map .threshold
  | "isEnabledFor" => Deed.unless (rankFault? v)
  | "getChild" => Deed.unless (if v.str?.isSome then none else some (.notJoined v.typeName))
  | "handle" | "callHandlers" => .error (.absent v.typeName "levelno")
  | _ => .ok .nothing

/-- A call that asks a logger or changes it. -/
def management? (c : Call) : Option (Except Failure Deed) :=
  match parts.lookup c.method, managementSignatures.lookup c.method with
  | some kind, _ => some (.error (.notCallable kind))
  | none, some signature =>
      match signature.fault? c.fields with
      | some f => some (.error f)
      | none => some (manage c.method c.event)
  | none, none =>
      if bareMethods.contains c.method then
        let callee := methodName c.method
        let fault := (Signature.strict callee ["self"]).fault? c.fields
        some (.error (fault.getD (.furtherArgument callee)))
      else none

/-! ### All calls -/

/-- What a call does to a logger with bound fields. -/
def Call.deed (bound : Fields) (c : Call) : Except Failure Deed :=
  match binding? bound c <|> task? c <|> management? c with
  | some deed => deed
  | none => c.entry.map fun (level, event, fields) => .entry level event fields

end JobHerald.Log
