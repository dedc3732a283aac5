import JobHerald.Action
import JobHerald.Signature

/-!
# Calls of a logger

A logger is called by the name of a method with an event and fields.  The fields must
not have the names of arguments that the call has already; a call with a rank finds
its level by the rank.

## Main definitions

* `Log.Call`, `Log.Call.entry` — calls, and the level and the event that they write.
* `Log.fieldFault?` — what is wrong with the fields of a call.
* `Action.call` — the entry of a call is written.
-/

namespace JobHerald

namespace Log

/-! ### Fields -/

/-- The name of a method of a logger in messages. -/
def methodName (method : String) : String := "BoundLogger." ++ method

/-- The fault of the field that has the name of the method's own argument. -/
def innerFault? : Fields → Option Failure :=
  (Signature.loose (methodName "_proxy_to_logger") ["method_name"]).fault?

/-- The fault of the fields of a call of a method. -/
def fieldFault? (method : String) (fs : Fields) : Option Failure :=
  (Signature.loose (methodName method) ["self", "event"]).fault? fs <|> innerFault? fs

/-! ### Calls -/

/-- A call. -/
structure Call where
  /-- The name of the method. -/
  method : String
  /-- The event, or null. -/
  event : Json
  /-- The fields. -/
  fields : Fields

/-- The methods with their levels, and the methods that they stand for. -/
def methods : List (String × Level × String) :=
  [("debug", .debug, "debug"), ("info", .info, "info"), ("warning", .warning, "warning"),
    ("warn", .warning, "warning"), ("error", .error, "error"), ("exception", .error, "exception"),
    ("critical", .critical, "critical"), ("fatal", .critical, "fatal")]

/-- The levels of entries. -/
def levels : List Level := [.debug, .info, .warning, .error, .critical]

/-- The level of a rank. -/
def levelOfRank (rank : Json) : Except Failure Level :=
  let number? : Option Int := match rank with
    | .int n => some n
    | .real x => if x.isIntegral then x.truncate? else none
    | _ => none
  match number?.bind fun n => levels.find? fun l => (l.rank : Int) = n with
  | some l => .ok l
  | none =>
      match rank with
      | .arr _ | .obj _ => .error (.notAKey rank.typeName)
      | v => .error (.unknownKey v)

/-- The entry of a call as its level, its event, and its fields.  The method that takes
a rank first has its event among the fields. -/
def Call.entry (c : Call) : Except Failure (Level × Json × Fields) :=
  if c.method = "log" then
    match (Signature.loose (methodName "log") ["self", "level"]).fault? c.fields with
    | some f => .error f
    | none =>
        match levelOfRank c.event, innerFault? c.fields with
        | .error f, _ => .error f
        | .ok _, some f => .error f
        | .ok l, none =>
            .ok (l, (Fields.get? "event" c.fields).getD .null, c.fields.erase "event")
  else
    match methods.lookup c.method with
    | none => .error (.absent "BoundLogger" c.method)
    | some (level, method) =>
        match fieldFault? method c.fields with
        | some f => .error f
        | none => .ok (level, c.event, c.fields)

/-- The lines that a call writes below its entry: one for exceptions tells which there is,
though there is none. -/
def Call.footing (c : Call) : Nat := if c.method = "exception" then 1 else 0

end Log

/-- The entry of a call is written, if nothing is wrong with its fields. -/
def Action.call (level : Log.Level) (event : String) (fields : Fields) : Action Unit :=
  match Log.fieldFault? level.word fields with
  | some f => .fail f
  | none => .log level event fields

end JobHerald
