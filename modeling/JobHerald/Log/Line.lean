import JobHerald.Log.Deed
import JobHerald.Log.Layout
import JobHerald.Log.Processor

/-!
# Log lines

In production every entry at or above the threshold becomes a line with its fields,
those bound to the logger and those of the context; fields of the call count most.
Elsewhere the lines are for people, and under test there are none.

## Main definitions

* `Log.Setup`, `Log.Setup.ofSettings` — how entries are written.
* `Log.lineFields`, `Log.Setup.line` — the fields of a line, and the line of an entry.
* `Log.Script`, `Log.Script.lines` — a setup with calls, and their lines.
-/

namespace JobHerald.Log

/-! ### Setup -/

/-- How entries are written. -/
structure Setup where
  /-- The least rank of entries that are written. -/
  threshold : Nat
  /-- The deployed revision. -/
  revision : String
  /-- Whether lines are objects rather than text for people. -/
  asObjects : Bool

/-- The setup for settings, with a level and a mode that may be given instead; an
empty level counts as none. -/
def Setup.ofSettings (s : Settings) (level : Option String) (production : Option Bool) :
    Except Failure Setup :=
  let name := match level with
    | some l => if l = "" then s.logLevel else l
    | none => s.logLevel
  (Log.threshold name).map fun rank => ⟨rank, s.revision, production.getD s.isProduction⟩

/-! ### Lines -/

/-- The fields that say where a call was made, which are not part of a line here. -/
def callFields : List String :=
  ["timestamp", "filename", "lineno", "func_name", "exc_info", "stack_info"]

/-- The fields of a line: those of the context, of the logger and of the call, the event
unless it is null, the level, and the application; then hidden and shortened. -/
def lineFields (revision : String) (context bound : Fields) (level : Level) (event : Json)
    (fields : Fields) : Fields :=
  let named : Fields := if event.isNull then [] else [("event", event)]
  let fs := Fields.insertAll (Fields.insertAll (Fields.insertAll context bound) fields)
    (named ++ [("level", .str level.word)])
  let fs := (Processor.application (.str "job-notifications") (.str revision)).apply fs
  let fs := (Processor.mask (.str hiddenText) []).apply fs
  let fs := (Processor.shorten defaultLength).apply fs
  fs.filter fun (k, _) => !callFields.contains k

/-- The fault of fields one of which stands where the record of a call is looked for, and
is none; nothing is looked for there if the entry is known to have no such record. -/
def recordFault? (fs : Fields) : Option Failure :=
  match Fields.get? "_record" fs with
  | some v =>
      if v.isNull || (Fields.get? "_from_structlog" fs).any Json.isTruthy then none
      else some (.absent v.typeName "__dict__")
  | none => none

/-- A line: its fields, and how many lines of text it is. -/
structure Line where
  /-- The fields. -/
  fields : Fields
  /-- The lines of text. -/
  height : Nat

/-- The line of an entry; whether it reaches the threshold does not matter. -/
def Setup.line (setup : Setup) (context bound : Fields) (level : Level) (event : Json)
    (fields : Fields) : Except Failure Line :=
  let fs := lineFields setup.revision context bound level event fields
  match recordFault? fs with
  | some f => .error f
  | none => if setup.asObjects then .ok ⟨fs, 1⟩ else (height fs).map fun n => ⟨fs, n⟩

/-- Whether entries of a level are written, by the threshold of the logger's own, or else
by that of the setup. -/
def Setup.isWritten (setup : Setup) (own : Int) (level : Level) : Bool :=
  (if own = 0 then (setup.threshold : Int) else own) ≤ level.rank

/-! ### Scripts -/

/-- A setup and calls of a logger. -/
structure Script where
  /-- The name of the least level, if it is given. -/
  level : Option String
  /-- Whether lines are objects, if it is given. -/
  production : Option Bool
  /-- Whether nothing is to be written, because a test is running. -/
  underTest : Bool
  /-- The fields of the context. -/
  context : Fields
  /-- The fields that are bound to the logger. -/
  bound : Fields
  /-- The calls. -/
  calls : List Call

/-- What is wrong with the fields that are bound to the logger. -/
def Script.boundFault? (s : Script) : Option Failure :=
  (Signature.loose "BoundLoggerLazyProxy.bind" ["self"]).fault? s.bound

/-- The lines of some calls, from a threshold of the logger's own. -/
def Script.linesFrom (s : Script) (setup : Setup) : Int → List Call → Except Failure (List Line)
  | _, [] => .ok []
  | own, c :: rest => do
      match ← c.deed s.bound with
      | .nothing => s.linesFrom setup own rest
      | .threshold rank => s.linesFrom setup rank rest
      | .entry level event fields =>
          let line ← setup.line s.context s.bound level event fields
          let lines ← s.linesFrom setup own rest
          return if setup.isWritten own level then ⟨line.fields, line.height + c.footing⟩ :: lines
            else lines

/-- All lines, if nothing is wrong with the bound fields. -/
def Script.allLines (s : Script) (setup : Setup) : Except Failure (List Line) :=
  match s.boundFault? with
  | some f => .error f
  | none => s.linesFrom setup 0 s.calls

/-- What is wrong with the calls, whatever they write. -/
def Script.check (s : Script) : Except Failure Unit :=
  match s.boundFault? with
  | some f => .error f
  | none => s.calls.forM fun c => (c.deed s.bound).map fun _ => ()

/-- The lines of the calls, and how many lines of text they are. -/
def Script.lines (s : Script) : Action (List Fields × Nat) :=
  if s.underTest then do
    let _ ← Action.ofExcept s.check
    return ([], 0)
  else do
    let settings ← Action.settings
    let setup ← Action.ofExcept (Setup.ofSettings settings s.level s.production)
    let lines ← Action.ofExcept (s.allLines setup)
    return (lines.map Line.fields, lines.foldl (fun n line => n + line.height) 0)

end JobHerald.Log
