import JobHerald.Failure
import JobHerald.Text.Casing

/-!
# Thresholds

Entries below a threshold are not written.  A threshold is a rank, given as a number or
by the name of a level.

## Main definitions

* `Log.levelNames` — the names of levels with their ranks.
* `Log.threshold` — the rank that the settings name.
* `Log.ownThreshold` — the rank that a logger is given.
-/

namespace JobHerald.Log

/-- The ranks of the names that levels have. -/
def levelNames : List (String × Nat) :=
  [("CRITICAL", 50), ("FATAL", 50), ("ERROR", 40), ("WARN", 30), ("WARNING", 30), ("INFO", 20),
    ("DEBUG", 10), ("NOTSET", 0)]

/-! ### Thresholds of the settings -/

/-- The layout of lines that the name of a text stands for. -/
def layoutText : String := "%(levelname)s:%(name)s:%(message)s"

/-- The table of layouts as it is shown. -/
def layoutTable : String :=
  "\x7b'%': (<class 'logging.PercentStyle'>, '" ++ layoutText
    ++ "'), '\x7b': (<class 'logging.StrFormatStyle'>, "
    ++ "'\x7blevelname\x7d:\x7bname\x7d:\x7bmessage\x7d'), "
    ++ "'$': (<class 'logging.StringTemplateStyle'>, "
    ++ "'$\x7blevelname\x7d:$\x7bname\x7d:$\x7bmessage\x7d')\x7d"

/-- The rank of a level's name in any case.  Two names stand for layouts of lines, which
are no levels; all other names stand for `INFO`. -/
def threshold (name : String) : Except Failure Nat :=
  let name := Text.upperAscii name
  if name = "BASIC_FORMAT" then .error (.thresholdText layoutText)
  else if name = "_STYLES" then .error (.thresholdKind layoutTable)
  else .ok ((levelNames.lookup name).getD 20)

/-! ### Thresholds of loggers -/

/-- The rank that a value gives: a number, a truth value as a number, or the exact name of
a level. -/
def ownThreshold : Json → Except Failure Int
  | .int n => .ok n
  | .bool b => .ok (if b then 1 else 0)
  | .str name =>
      match levelNames.lookup name with
      | some rank => .ok rank
      | none => .error (.thresholdText name)
  | v => .error (.thresholdKind v.nested)

end JobHerald.Log
