import JobHerald.Text.Blank
import JobHerald.Text.Slice

/-!
# Settings files

A settings file binds names to values, one binding a line.  A value stands in
single or double quotes, or is the rest of the line up to a comment; a line that
cannot be read is passed over.  A name alone on its line is bound to nothing.
References to other names in braces are replaced by the values bound so far, or else
by those of the environment.

## Main definitions

* `DotEnv.readBinding` — one binding off the front of a text.
* `DotEnv.expand` — the references of a value replaced.
* `DotEnv.parse` — the bindings of a file.
-/

namespace JobHerald

/-- Names and values of variables; of two with one name the first counts. -/
abbrev Environment := List (String × String)

/-- The value of a variable. -/
def Environment.get? (name : String) (env : Environment) : Option String := env.lookup name

namespace DotEnv

/-- Names with their values, or bound to nothing. -/
abbrev Bindings := List (String × Option String)

/-- Bind a name: one that is there is bound anew. -/
def Bindings.bind (name : String) (value : Option String) (bs : Bindings) : Bindings :=
  (name, value) :: bs.filter (·.1 != name)

/-- The names that have values, as variables. -/
def Bindings.toEnvironment (bs : Bindings) : Environment :=
  bs.filterMap fun (name, value) => value.map fun v => (name, v)

/-! ### Characters -/

/-- The ends of lines. -/
def isBreak (c : Char) : Bool := c = '\n' || c = '\r'

/-- A blank that does not end a line. -/
def isInline (c : Char) : Bool := Text.isSpacing c && !isBreak c

/-- The text with every line ended by a line feed. -/
def normalBreaks : List Char → List Char
  | '\r' :: '\n' :: rest => '\n' :: normalBreaks rest
  | '\r' :: rest => '\n' :: normalBreaks rest
  | c :: rest => c :: normalBreaks rest
  | [] => []

/-! ### Values -/

/-- The text up to a closing quote.  A backslash takes the next character with it, so
that a quote after it does not close. -/
def quotedBody (q : Char) : List Char → Option (List Char × List Char)
  | [] => none
  | '\\' :: c :: rest =>
      (quotedBody q rest).map fun (body, rest) => ('\\' :: c :: body, rest)
  | c :: rest =>
      if c = q then some ([], rest)
      else (quotedBody q rest).map fun (body, rest) => (c :: body, rest)

/-- The character that an escape letter stands for. -/
def escapeLetter? : Char → Option Char
  | 'a' => some (Char.ofNat 7)
  | 'b' => some (Char.ofNat 8)
  | 'f' => some (Char.ofNat 12)
  | 'n' => some '\n'
  | 'r' => some '\r'
  | 't' => some '\t'
  | 'v' => some (Char.ofNat 11)
  | _ => none

/-- The text with escapes replaced; between single quotes only quotes and
backslashes are escaped. -/
def unescape (double : Bool) : List Char → List Char
  | '\\' :: c :: rest =>
      if c = '\\' || c = '\'' || (double && c = '"') then c :: unescape double rest
      else
        match if double then escapeLetter? c else none with
        | some d => d :: unescape double rest
        | none => '\\' :: unescape double (c :: rest)
  | c :: rest => c :: unescape double rest
  | [] => []

/-- The text before a comment, which begins with blanks and a number sign. -/
def beforeComment : List Char → List Char
  | [] => []
  | c :: rest =>
      if Text.isSpacing c && (rest.dropWhile Text.isSpacing).head? == some '#' then []
      else c :: beforeComment rest

/-- A value at the front, without blanks before it. -/
def readBareValue : List Char → Option (List Char × List Char)
  | '\'' :: rest => (quotedBody '\'' rest).map fun (body, rest) => (unescape false body, rest)
  | '"' :: rest => (quotedBody '"' rest).map fun (body, rest) => (unescape true body, rest)
  | cs =>
      let line := cs.takeWhile fun c => !isBreak c
      some (Text.dropEnd Text.isSpacing (beforeComment line), cs.drop line.length)

/-- A value at the front; a comment that follows blanks leaves it empty. -/
def readValue (cs : List Char) : Option (List Char × List Char) :=
  let rest := cs.dropWhile isInline
  if rest.head? = some '#' ∧ rest.length < cs.length then some ([], rest)
  else readBareValue rest

/-! ### Lines -/

/-- The rest after a line is over, with a comment before its end. -/
def endLine (cs : List Char) : Option (List Char) :=
  let cs' := cs.dropWhile isInline
  let cs := if cs'.head? = some '#' then cs'.dropWhile fun c => !isBreak c else cs'
  match cs with
  | [] => some []
  | c :: rest => if isBreak c then some rest else none

/-- The rest after the word for exported names, if it is there. -/
def dropExport (cs : List Char) : List Char :=
  let word := "export".toList
  if word.isPrefixOf cs then
    match cs.drop word.length with
    | c :: rest => if isInline c then rest.dropWhile isInline else cs
    | [] => cs
  else cs

/-- A name at the front; a comment has none. -/
def readName : List Char → Option (Option (List Char) × List Char)
  | '#' :: rest => some (none, '#' :: rest)
  | '\'' :: rest =>
      let name := rest.takeWhile (· ≠ '\'')
      match rest.drop name.length with
      | _ :: after => if name.isEmpty then none else some (some name, after)
      | [] => none
  | cs =>
      let name := cs.takeWhile fun c => c ≠ '=' && c ≠ '#' && !Text.isSpacing c
      if name.isEmpty then none else some (some name, cs.drop name.length)

/-- What one reading step answers: a binding if there is one, and where to go on. -/
structure Step where
  /-- The name and its value, if it has one. -/
  binding : Option (String × Option String)
  /-- The rest of the text. -/
  rest : List Char

/-- The rest after the line that could not be read. -/
def skipLine (cs : List Char) : List Char := (cs.dropWhile fun c => !isBreak c).drop 1

/-- The step that ends a line after its name and value. -/
def endBinding (name : Option (List Char)) (value : Option (List Char)) (rest : List Char) :
    Step :=
  match endLine rest with
  | some after => ⟨name.map fun n => (String.ofList n, value.map String.ofList), after⟩
  | none => ⟨none, skipLine rest⟩

/-- One binding off the front of a text. -/
def readBinding (cs : List Char) : Step :=
  let cs := dropExport (cs.dropWhile Text.isSpacing)
  match readName cs with
  | none => ⟨none, skipLine cs⟩
  | some (name, cs) =>
      match cs.dropWhile isInline with
      | '=' :: rest =>
          match readValue rest with
          | some (value, rest) => endBinding name (some value) rest
          | none => ⟨none, skipLine rest⟩
      | rest => endBinding name none rest

/-- The bindings of a text in order; the fuel bounds the number of steps. -/
def readAll : Nat → List Char → Bindings
  | 0, _ => []
  | n + 1, cs =>
      if (cs.dropWhile Text.isSpacing).isEmpty then []
      else
        let step := readBinding cs
        step.binding.toList ++ readAll n step.rest

/-! ### References -/

/-- A reference after its opening brace: the name, the default, and the rest. -/
def readReference (cs : List Char) : Option (String × String × List Char) :=
  let name := cs.takeWhile fun c => c ≠ '}' && c ≠ ':'
  match cs.drop name.length with
  | '}' :: rest => some (String.ofList name, "", rest)
  | ':' :: '-' :: rest =>
      let default := rest.takeWhile (· ≠ '}')
      match rest.drop default.length with
      | '}' :: rest => some (String.ofList name, String.ofList default, rest)
      | _ => none
  | _ => none

/-- The value that stands for a reference; a name bound to nothing stands for the empty
text, and so does one that is not bound, unless there is a default. -/
def referenceValue (env : Bindings) (name default : String) : String :=
  match env.lookup name with
  | some value => value.getD ""
  | none => default

/-- The text with its references replaced; the fuel bounds the number of steps. -/
def expandFrom (env : Bindings) : Nat → List Char → List Char
  | 0, cs => cs
  | _, [] => []
  | n + 1, '$' :: '{' :: rest =>
      match readReference rest with
      | some (name, default, after) =>
          (referenceValue env name default).toList ++ expandFrom env n after
      | none => '$' :: expandFrom env n ('{' :: rest)
  | n + 1, c :: rest => c :: expandFrom env n rest

/-- The text with its references replaced by the values of an environment. -/
def expand (env : Bindings) (s : String) : String :=
  String.ofList (expandFrom env s.length s.toList)

/-! ### Files -/

/-- The bindings of a file, over an environment for references.  Of two bindings of
one name the later one counts. -/
def parse (env : Environment) (file : String) : Bindings :=
  let outer : Bindings := env.map fun (name, value) => (name, some value)
  let bindings := readAll (file.length + 1) (normalBreaks (Text.dropMark file.toList))
  bindings.foldl
    (fun bound (name, value) =>
      Bindings.bind name (value.map (expand (bound ++ outer))) bound) []

end DotEnv

end JobHerald
