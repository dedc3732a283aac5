import JobHerald.Json.Basic
import JobHerald.Text.Digits

/-!
# Reading JSON

A reader takes the characters that it understands off the front of a list and
answers what it read with the rest.  The mutual readers of values, items and
members carry a fuel that their callers compute from the length of the input, and
how deep lists and objects may still be nested.  Of two members with one name the
last value counts, at the place of the first.  The first fault from the front decides.

## Main definitions

* `Json.TextFault` — why a text writes no value.
* `Json.ofText` — the value that a whole text writes.
* `Json.parse?` — the same for lists and objects nested as deep as may be.
* `Json.readString`, `Json.readNumber`, `Json.readValue` — the readers.
-/

namespace JobHerald.Json

/-- Why a text writes no value. -/
inductive TextFault where
  /-- It does not have the form of a value. -/
  | form
  /-- Lists are nested too deep. -/
  | deepList
  /-- Objects are nested too deep. -/
  | deepObject
  /-- An integer has too many digits. -/
  | longInteger
  deriving DecidableEq, Repr

/-- What a reader answers: a value and the rest of the input. -/
abbrev Read (α : Type) := Except TextFault (α × List Char)

/-- The rest of the input after blanks. -/
def skipBlanks : List Char → List Char :=
  List.dropWhile fun c => c == ' ' || c == '\n' || c == '\r' || c == '\t'

/-! ### Strings -/

/-- The value of four hexadecimal digits at the front. -/
def readUnit : List Char → Read Nat
  | a :: b :: c :: d :: rest =>
      match Text.hexValue? a, Text.hexValue? b, Text.hexValue? c, Text.hexValue? d with
      | some a, some b, some c, some d => .ok (((a * 16 + b) * 16 + c) * 16 + d, rest)
      | _, _, _, _ => .error .form
  | _ => .error .form

/-- The character of a UTF-16 unit.  A high surrogate takes the low surrogate that follows
it with it; any other surrogate has no character of its own. -/
def readSurrogate (n : Nat) (rest : List Char) : Char × List Char :=
  let alone := (Char.ofNat (if 0xD800 ≤ n ∧ n < 0xE000 then 0xFFFD else n), rest)
  if 0xD800 ≤ n ∧ n < 0xDC00 then
    match rest with
    | '\\' :: 'u' :: low =>
        match readUnit low with
        | .ok (m, rest') =>
            if 0xDC00 ≤ m ∧ m < 0xE000 then
              (Char.ofNat (0x10000 + (n - 0xD800) * 0x400 + (m - 0xDC00)), rest')
            else alone
        | .error _ => alone
    | _ => alone
  else alone

/-- The character of an escape, after its backslash. -/
def readEscape : List Char → Read Char
  | '"' :: rest => .ok ('"', rest)
  | '\\' :: rest => .ok ('\\', rest)
  | '/' :: rest => .ok ('/', rest)
  | 'b' :: rest => .ok (Char.ofNat 8, rest)
  | 'f' :: rest => .ok (Char.ofNat 12, rest)
  | 'n' :: rest => .ok ('\n', rest)
  | 'r' :: rest => .ok ('\r', rest)
  | 't' :: rest => .ok ('\t', rest)
  | 'u' :: rest => (readUnit rest).map fun (n, rest) => readSurrogate n rest
  | _ => .error .form

/-- The characters up to the closing quote; the fuel bounds their number. -/
def readChars : Nat → List Char → Read (List Char)
  | 0, _ => .error .form
  | _, [] => .error .form
  | n + 1, c :: rest =>
      if c = '"' then .ok ([], rest)
      else if c = '\\' then
        match readEscape rest with
        | .error f => .error f
        | .ok (d, rest) => (readChars n rest).map fun (ds, rest) => (d :: ds, rest)
      else if c.toNat < 0x20 then .error .form
      else (readChars n rest).map fun (ds, rest) => (c :: ds, rest)

/-- A string, after its opening quote. -/
def readString (cs : List Char) : Read String :=
  (readChars (cs.length + 1) cs).map fun (ds, rest) => (String.ofList ds, rest)

/-! ### Numbers -/

/-- The digits at the front. -/
def spanDigits (cs : List Char) : List Char × List Char :=
  (cs.takeWhile Char.isDigit, cs.dropWhile Char.isDigit)

/-- The digits of a fraction, if there is one. -/
def readFraction : List Char → List Char × List Char
  | '.' :: rest =>
      match spanDigits rest with
      | ([], _) => ([], '.' :: rest)
      | found => found
  | cs => ([], cs)

/-- The digits of an exponent after its letter, with an optional sign. -/
def readSigned (cs : List Char) : Option (Int × List Char) :=
  let (negative, cs') := match cs with
    | '-' :: rest => (true, rest)
    | '+' :: rest => (false, rest)
    | _ => (false, cs)
  match spanDigits cs' with
  | ([], _) => none
  | (ds, rest) =>
      (Text.readNat? ds).map fun n => (if negative then -(n : Int) else n, rest)

/-- An exponent, if there is one. -/
def readExponent : List Char → Option (Int × List Char)
  | 'e' :: rest => readSigned rest
  | 'E' :: rest => readSigned rest
  | _ => none

/-- The number with some digits, a fraction and an exponent.  Only integers have a limit of
digits. -/
def numberOf (negative : Bool) (whole fraction : List Char) (exponent : Option Int) :
    Except TextFault Json :=
  let n := (Text.readNat? (whole ++ fraction)).getD 0
  let power : Int := exponent.getD 0 - fraction.length
  if exponent.isSome || !fraction.isEmpty then .ok (real (Binary64.ofDecimal negative n power))
  else if Text.digitLimit < whole.length then .error .longInteger
  else .ok (int (if negative then -(n : Int) else n))

/-- A number without its sign. -/
def readUnsigned (negative : Bool) (cs : List Char) : Read Json :=
  let (whole, rest) := match cs with
    | '0' :: rest => (['0'], rest)
    | _ => spanDigits cs
  if whole.isEmpty then .error .form
  else
    let (fraction, rest) := readFraction rest
    let (exponent, rest) := match readExponent rest with
      | some (e, rest) => (some e, rest)
      | none => (none, rest)
    (numberOf negative whole fraction exponent).map fun v => (v, rest)

/-- A number. -/
def readNumber : List Char → Read Json
  | '-' :: rest => readUnsigned true rest
  | cs => readUnsigned false cs

/-! ### Values -/

/-- The words that stand for values. -/
def valueWords : List (String × Json) :=
  [("null", null), ("true", bool true), ("false", bool false), ("NaN", real .nan),
    ("Infinity", real (.infinite false)), ("-Infinity", real (.infinite true))]

/-- A value that is no string, list or object. -/
def readPlain (cs : List Char) : Read Json :=
  match valueWords.find? fun (word, _) => word.toList.isPrefixOf cs with
  | some (word, value) => .ok (value, cs.drop word.length)
  | none => readNumber cs

mutual

/-- A value, after blanks. -/
def readValue : Nat → Nat → List Char → Read Json
  | 0, _, _ => .error .form
  | n + 1, room, cs =>
      match skipBlanks cs with
      | '"' :: rest => (readString rest).map fun (s, rest) => (str s, rest)
      | '[' :: rest =>
          if room = 0 then .error .deepList
          else
            match skipBlanks rest with
            | ']' :: rest => .ok (arr [], rest)
            | rest => (readItems n (room - 1) rest).map fun (items, rest) => (arr items, rest)
      | '{' :: rest =>
          if room = 0 then .error .deepObject
          else
            match skipBlanks rest with
            | '}' :: rest => .ok (obj [], rest)
            | rest => (readMembers n (room - 1) rest).map fun (members, rest) =>
                (obj (Fields.insertAll [] members), rest)
      | rest => readPlain rest

/-- Items up to the closing bracket. -/
def readItems : Nat → Nat → List Char → Read (List Json)
  | 0, _, _ => .error .form
  | n + 1, room, cs =>
      match readValue n room cs with
      | .error f => .error f
      | .ok (v, rest) =>
          match skipBlanks rest with
          | ',' :: rest => (readItems n room rest).map fun (items, rest) => (v :: items, rest)
          | ']' :: rest => .ok ([v], rest)
          | _ => .error .form

/-- Members up to the closing brace. -/
def readMembers : Nat → Nat → List Char → Read (List (String × Json))
  | 0, _, _ => .error .form
  | n + 1, room, cs =>
      match skipBlanks cs with
      | '"' :: rest =>
          match readString rest with
          | .error f => .error f
          | .ok (k, rest) =>
              match skipBlanks rest with
              | ':' :: rest =>
                  match readValue n room rest with
                  | .error f => .error f
                  | .ok (v, rest) =>
                      match skipBlanks rest with
                      | ',' :: rest =>
                          (readMembers n room rest).map fun (members, rest) =>
                            ((k, v) :: members, rest)
                      | '}' :: rest => .ok ([(k, v)], rest)
                      | _ => .error .form
              | _ => .error .form
      | _ => .error .form

end

/-! ### Texts -/

/-- The value that a whole text writes, with lists and objects nested to a depth. -/
def readText (room : Nat) (s : String) : Except TextFault Json :=
  match readValue (2 * s.length + 2) room s.toList with
  | .ok (v, rest) => if (skipBlanks rest).isEmpty then .ok v else .error .form
  | .error f => .error f

/-- How deep lists and objects may be nested in a text from outside. -/
def depthLimit : Nat := 975

/-- The value that a text from outside writes. -/
def ofText (s : String) : Except TextFault Json := readText depthLimit s

/-- The value that a text writes, nested as deep as may be. -/
def parse? (s : String) : Option Json := (readText s.length s).toOption

end JobHerald.Json
