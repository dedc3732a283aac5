import JobHerald.Signature
import JobHerald.Text.Casing
import JobHerald.Text.Slice

/-!
# Processors of log entries

A processor changes the fields of an entry before it is written: it hides the values
of sensitive fields, shortens long texts, or adds the name of the application.

## Main definitions

* `Log.isSensitive`, `Log.mask` — sensitive fields, and their values hidden.
* `Log.shorten` — long texts shortened.
* `Log.Processor`, `Log.Processor.apply` — processors.
* `Log.Processor.applyNamed` — processors by name, with arguments by name.
-/

namespace JobHerald.Log

/-! ### Sensitive fields -/

/-- The parts of names that make a field sensitive. -/
def sensitivePatterns : List String :=
  ["password", "secret", "token", "api_key", "apikey", "authorization", "credential",
    "private_key", "jwt", "bearer", "webhook"]

/-- The text that stands for a hidden value. -/
def hiddenText : String := "***REDACTED***"

/-- Whether a name, in lower case, contains one of some patterns. -/
def isSensitive (patterns : List String) (name : String) : Bool :=
  patterns.any fun p => Text.contains (Text.lower name) p

/-- The fields with the values of sensitive ones replaced; null stays. -/
def mask (value : Json) (patterns : List String) (fs : Fields) : Fields :=
  fs.map fun (k, v) => (k, if isSensitive patterns k && !v.isNull then value else v)

/-! ### Long texts -/

/-- The most characters of a text, unless another number is given. -/
def defaultLength : Int := 500

/-- A text cut to a number of characters, with its length behind it, if it is longer;
other values stay as they are. -/
def shortenValue (limit : Int) : Json → Json
  | .str s =>
      if limit < s.length then
        .str (Text.upTo limit s ++ "...[truncated, " ++ toString s.length ++ " chars total]")
      else .str s
  | v => v

/-- The fields with long texts shortened. -/
def shorten (limit : Int) (fs : Fields) : Fields := fs.map fun (k, v) => (k, shortenValue limit v)

/-! ### Processors -/

/-- A change of the fields of an entry. -/
inductive Processor where
  /-- Values of sensitive fields are hidden; there may be further patterns. -/
  | mask (value : Json) (further : List String)
  /-- Long texts are shortened. -/
  | shorten (limit : Int)
  /-- The application's name and version are added. -/
  | application (name version : Json)

/-- The changed fields. -/
def Processor.apply : Processor → Fields → Fields
  | mask value further, fs => Log.mask value (sensitivePatterns ++ further) fs
  | shorten limit, fs => Log.shorten limit fs
  | application name version, fs =>
      Fields.insertAll fs [("app_name", name), ("app_version", version)]

/-! ### Processors by name -/

/-- The signatures of the processors. -/
def Processor.signatures : List Signature :=
  [⟨"mask_sensitive_data", [], [], ["mask_value", "additional_patterns"], false⟩,
    ⟨"truncate_large_values", [], [], ["max_length"], false⟩,
    ⟨"add_app_info", [], ["app_name"], ["app_version"], false⟩]

/-- What is wrong with a limit that is no integer, once a text is measured by it. -/
def limitFault? (limit : Json) (text : String) : Option Failure :=
  match limit with
  | .real x => if x.isBelow text.length then some .notAnIndex else none
  | v => some (.notOrdered ">" v.typeName)

/-- Long texts shortened to a limit of any kind. -/
def shortenTo (limit : Json) (fs : Fields) : Except Failure Fields :=
  match limit.counted? with
  | some n => .ok (shorten n fs)
  | none =>
      match fs.findSome? fun (_, v) => v.str?.bind (limitFault? limit) with
      | some f => .error f
      | none => .ok fs

/-- The fields changed by the processor of a name with arguments by name. -/
def Processor.applyNamed (name : String) (args fs : Fields) : Except Failure Fields :=
  let given (argument : String) (default : Json) := (Fields.get? argument args).getD default
  match Processor.signatures.find? fun s => s.callee == name with
  | none => .error (.missingValue name)
  | some signature =>
      match signature.fault? args, name with
      | some f, _ => .error f
      | none, "mask_sensitive_data" =>
          let patterns := ((given "additional_patterns" .null).arr?.getD []).filterMap Json.str?
          .ok ((Processor.mask (given "mask_value" (.str hiddenText)) patterns).apply fs)
      | none, "truncate_large_values" => shortenTo (given "max_length" (.int defaultLength)) fs
      | none, _ =>
          .ok ((Processor.application (given "app_name" .null)
            (given "app_version" (.str "unknown"))).apply fs)

end JobHerald.Log
