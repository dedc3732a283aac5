import JobHerald.Identity.Email.Character
import JobHerald.Text.Blank
import JobHerald.Unicode.Normal

/-!
# Parts of email addresses

An address is written by itself, or in angle brackets after a display name.  Names and
mailboxes may be in quotes, where at signs and brackets stand for themselves and where a
backslash goes before a quote.

## Main definitions

* `Email.bracketed` — the text in brackets after a display name, if the text has this form.
* `Email.Reading`, `Email.cutUnquoted` — the first mark outside of quotes.
* `Email.unquote` — a text without its quotes.
* `Email.Parts`, `Email.Parts.read` — the parts of an address.
-/

namespace JobHerald.Email

/-! ### Display names -/

/-- The characters of a display name that is recognised without quotes. -/
def isNameChar (c : Char) : Bool :=
  Unicode.isWordPart c.toNat || "!#$%&'*+-/=?^_`\x7b|\x7d~.".toList.contains c

/-- The text in angle brackets, if there is nothing but blanks around them. -/
def inBrackets? (cs : List Char) : Option (List Char) :=
  match cs.dropWhile Text.isSpacing with
  | '<' :: rest =>
      match rest.reverse.dropWhile Text.isSpacing with
      | '>' :: inner => if inner.isEmpty then none else some inner.reverse
      | _ => none
  | _ => none

/-- What follows each occurrence of a character, the last one first. -/
def followers (sep : Char) : List Char → List (List Char)
  | [] => []
  | c :: cs => followers sep cs ++ (if c = sep then [cs] else [])

/-- The text in angle brackets after a display name. -/
def bracketed? (cs : List Char) : Option (List Char) :=
  let text := cs.dropWhile Text.isSpacing
  let name := text.takeWhile (· ≠ '<')
  if name.all fun c => isNameChar c || Text.isSpacing c then
    inBrackets? (text.drop name.length)
  else
    match text with
    | '"' :: _ :: rest => (followers '"' rest).findSome? inBrackets?
    | _ => none

/-- The text in angle brackets after a display name, or else the whole text, without blanks
around it. -/
def bracketed (cs : List Char) : List Char :=
  Text.dropEnd Text.isSpacing (((bracketed? cs).getD cs).dropWhile Text.isSpacing)

/-! ### Quotes -/

/-- Where a reader of a text with quotes is. -/
inductive Reading where
  /-- Outside of quotes. -/
  | outside
  /-- In quotes. -/
  | inside
  /-- In quotes, behind a backslash. -/
  | escaped
  deriving DecidableEq, Repr

/-- Where the reader is after a character. -/
def Reading.after (c : Char) : Reading → Reading
  | outside => if c = '"' then inside else outside
  | inside => if c = '\\' then escaped else if c = '"' then outside else inside
  | escaped => inside

/-- Whether a character stays as it is in the composed form of a text. -/
def staysBefore (c : Char) (rest : List Char) : Bool :=
  Unicode.headComposed c.toNat (Unicode.points rest) == c.toNat

/-- The text before the first of some marks outside of quotes, and the text from it on.  A
character that is composed with the next is no mark and no quote. -/
def cutUnquoted (marks : List Char) : Reading → List Char → Option (List Char × List Char)
  | _, [] => none
  | r, c :: cs =>
      if r = .outside && marks.contains c && staysBefore c cs then some ([], c :: cs)
      else
        let next := if r.after c = r || !staysBefore c cs then r else r.after c
        (cutUnquoted marks next cs).map fun (front, rest) => (c :: front, rest)

/-- The text before a closing quote, which has to be the last character. -/
def unquoteFrom : List Char → Except Fault (List Char)
  | [] => .ok []
  | ['\\'] => .ok []
  | '\\' :: c :: cs => (unquoteFrom cs).map (c :: ·)
  | c :: cs =>
      if c ≠ '"' then (unquoteFrom cs).map (c :: ·)
      else if cs.isEmpty then .ok []
      else .error (.afterQuote cs)

/-- A text without its quotes, and whether it had quotes. -/
def unquote : List Char → Except Fault (List Char × Bool)
  | '"' :: cs => (unquoteFrom cs).map fun text => (text, true)
  | cs => .ok (cs, false)

/-! ### Parts -/

/-- The parts of an address. -/
structure Parts where
  /-- Whether the address is in brackets after a display name. -/
  isNamed : Bool
  /-- The mailbox. -/
  mailbox : List Char
  /-- Whether the mailbox was in quotes. -/
  isQuoted : Bool
  /-- The domain. -/
  domain : List Char
  deriving Repr

/-- The parts of a text with its mailbox before and its domain after an at sign. -/
def Parts.ofCut (isNamed : Bool) (front rest : List Char) : Except Fault Parts := do
  let (mailbox, isQuoted) ← unquote front
  return ⟨isNamed, mailbox, isQuoted, rest.drop 1⟩

/-- What a display name has to meet. -/
def checkName (written : List Char) : Except Fault Unit := do
  let (name, isQuoted) ← unquote (Text.dropEnd Text.isSpacing written)
  if !isQuoted then refuse .name (fun c => isAtom c || c = ' ') name
  checkVisible true name

/-- The address in brackets, from the text behind the opening bracket on. -/
def insideBrackets (rest : List Char) : Except Fault (List Char) :=
  let text := Text.dropEnd (· = ' ') rest
  if !rest.contains '>' then .error .openBracket
  else if text.getLast? ≠ some '>' then .error .afterBracket
  else .ok (Text.dropEnd (· = '>') text)

/-- The fault of a text without an at sign: a sign of another shape may stand for it. -/
def atFault (cs : List Char) : Fault :=
  if cs.contains '\uFF20' then .wideAt
  else if cs.contains '\uFE6B' then .smallAt
  else .noAt

/-- The parts of an address. -/
def Parts.read (cs : List Char) : Except Fault Parts :=
  match cutUnquoted ['@', '<'] .outside cs with
  | none => .error (atFault cs)
  | some (name, '<' :: rest) => do
      checkName name
      let address ← insideBrackets rest
      match cutUnquoted ['@'] .outside address with
      | none => .error (atFault address)
      | some (front, rest) => Parts.ofCut true front rest
  | some (front, rest) => Parts.ofCut false front rest

end JobHerald.Email
