import JobHerald.Action
import JobHerald.Text.Slice

/-!
# Blocks of chat messages

A chat message is laid out in blocks: sections with a text or with up to ten fields,
and dividers.  The chat service refuses sections whose text is too long, so texts are
cut before they become sections.

## Main definitions

* `Slack.Block`, `Slack.Block.fault?`, `Slack.Block.toJson` — blocks, their faults, and
  their form in a message.
* `Slack.cut`, `Slack.truncate` — a text cut to a limit, and the same with a log entry.
* `Slack.section'`, `Slack.fields`, `Slack.divider` — the making of blocks.
* `Slack.blocksValid` — the check of blocks in a finished message.
-/

namespace JobHerald.Slack

/-! ### Blocks -/

/-- The most characters of a section's text. -/
def sectionLimit : Nat := 3000

/-- The most fields of a section. -/
def fieldsLimit : Nat := 10

/-- A block. -/
inductive Block where
  /-- A section with a text. -/
  | text (s : String)
  /-- A section with fields. -/
  | fields (texts : List String)
  /-- A divider. -/
  | divider
  deriving DecidableEq, Repr

namespace Block

/-- What the chat service would refuse in a block. -/
def fault? : Block → Option BlockFault
  | text s => if sectionLimit < s.length then some .longText else none
  | fields texts =>
      if fieldsLimit < texts.length then some .tooManyFields
      else if texts.isEmpty then some .empty
      else none
  | divider => none

/-- A text with markup; an empty text is left out. -/
def markup (s : String) : Json :=
  .obj ((if s = "" then [] else [("text", .str s)]) ++ [("type", .str "mrkdwn")])

/-- The block in a message, its members in the order of their names. -/
def toJson : Block → Json
  | text s => .obj [("text", markup s), ("type", .str "section")]
  | fields texts => .obj [("fields", .arr (texts.map markup)), ("type", .str "section")]
  | divider => .obj [("type", .str "divider")]

/-- The block in a message, unless it would be refused. -/
def checked (b : Block) : Action Json :=
  match b.fault? with
  | some f => .fail (.block f)
  | none => pure b.toJson

end Block

/-! ### Texts -/

/-- A text cut to a limit, with three dots at the end if it was longer.  A limit below
three counts the rest from the end of the text. -/
def cut (limit : Int) (s : String) : String :=
  if (s.length : Int) ≤ limit then s else Text.upTo (limit - 3) s ++ "..."

/-- A text cut to a limit; a cut is logged. -/
def truncate (limit : Int) (s : String) : Action String := do
  if (s.length : Int) ≤ limit then return s
  Action.log .warning "slack_text_truncated" [("length", .int s.length), ("limit", .int limit)]
  return cut limit s

/-! ### Making blocks -/

/-- A section with a text, which is cut if it is too long. -/
def section' (s : String) : Action Json := do
  let s ← truncate sectionLimit s
  (Block.text s).checked

/-- A section with fields in two columns. -/
def fields (texts : List String) : Action Json := (Block.fields texts).checked

/-- A divider. -/
def divider : Json := Block.divider.toJson

/-! ### Finished messages -/

/-- Whether one block of a finished message is valid: it has a type, a section has a
text or at most ten fields, and a divider has nothing else. -/
def blockValid : Json → Except Failure Bool
  | .obj members =>
      match Fields.get? "type" members with
      | none => .ok false
      | some (.str "section") =>
          if !Fields.has "text" members && !Fields.has "fields" members then .ok false
          else
            match Fields.get? "fields" members with
            | none => .ok true
            | some v =>
                match v.size? with
                | some n => .ok (n ≤ fieldsLimit)
                | none => .error (.noLength v.typeName)
      | some (.str "divider") => .ok (members.length ≤ 1)
      | some _ => .ok true
  | _ => .ok false

/-- Whether all blocks of a list are valid; the first that is not decides. -/
def allValid : List Json → Except Failure Bool
  | [] => .ok true
  | b :: rest =>
      match blockValid b with
      | .ok true => allValid rest
      | .ok false => .ok false
      | .error e => .error e

/-- Whether a value is a list of valid blocks. -/
def blocksValid : Json → Except Failure Bool
  | .arr items => allValid items
  | _ => .ok false

end JobHerald.Slack
