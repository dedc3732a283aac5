import JobHerald.Failure
import JobHerald.Text.Slice

/-!
# Layout of log lines

Outside of production an entry is text for people.  Its fields stand on one line, which
breaks where the event, a logger's name or the name of a field does; a stack and an
exception follow on lines of their own, with a rule between them.  Only lines with
characters are counted.

## Main definitions

* `Log.filledRows`, `Log.addedRows` — the lines of a text, by itself and within a line.
* `Log.height` — how many lines an entry takes.
-/

namespace JobHerald.Log

/-- How many of some lines have characters. -/
def countFilled (rows : List (List Char)) : Nat := (rows.filter fun row => !row.isEmpty).length

/-- How many lines of a text have characters. -/
def filledRows (s : String) : Nat := countFilled (Text.splitOn '\n' s.toList)

/-- How many lines a text adds to the one that it stands in; the first and the last piece
of the text share their lines with what is around it. -/
def addedRows (s : String) : Nat :=
  match Text.splitOn '\n' s.toList with
  | _ :: next :: more => 1 + countFilled (next :: more).dropLast
  | _ => 0

/-- The fields that are written without their names. -/
def plainFields : List String := ["event", "logger", "logger_name"]

/-- The fields that are written below the line. -/
def lowerFields : List String := ["stack", "exception"]

/-- How many lines a field adds to its line: texts with breaks are quoted, but for those
of the fields without names. -/
def fieldRows : String × Json → Nat
  | (k, .str s) =>
      if plainFields.contains k then addedRows s
      else if lowerFields.contains k then 0
      else addedRows k
  | (k, _) => addedRows k

/-- A text that is written below the line, if it is not missing. -/
def lowerText? (name : String) (fs : Fields) : Except Failure (Option String) :=
  match Fields.get? name fs with
  | none | some .null => .ok none
  | some (.str s) => .ok (some s)
  | some v => .error (.notText v.typeName)

/-- How many lines an entry with the given fields takes. -/
def height (fs : Fields) : Except Failure Nat := do
  let stack ← lowerText? "stack" fs
  let exception ← lowerText? "exception" fs
  let line := fs.foldl (fun n f => n + fieldRows f) 1
  let rule := if stack.isSome && exception.isSome then 1 else 0
  return line + (stack.map filledRows).getD 0 + rule + (exception.map filledRows).getD 0

end JobHerald.Log
