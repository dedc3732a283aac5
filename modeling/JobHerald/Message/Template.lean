import JobHerald.Event
import JobHerald.Failure
import JobHerald.Json.Plain

/-!
# Message templates

A template is fixed text with holes.  Each hole has a name, and a value is put into
it as it is: nothing in a value is looked at again.

## Main definitions

* `Template.Piece`, `Template` — pieces of text and holes.
* `Template.byName?` — the templates.
* `Template.fill`, `Template.render` — a template with its values.
* `Template.jobValues`, `Template.connectionValues` — the values of events.
-/

namespace JobHerald

/-- A piece of a template. -/
inductive Template.Piece where
  /-- Fixed text. -/
  | text (s : String)
  /-- A hole for a value. -/
  | hole (name : String)
  deriving DecidableEq, Repr

/-- A template: its pieces in order. -/
abbrev Template := List Template.Piece

namespace Template

/-! ### The templates -/

/-- A failed job. -/
def jobFailure : Template :=
  [.text "Your connection ", .hole "connection_name", .text " from ", .hole "source_name",
    .text " to ", .hole "destination_name", .text " just failed...\nThis happened with ",
    .hole "error_message", .text "\n\nYou can access its logs here: ", .hole "connection_url",
    .text "\n\nJob ID: ", .hole "job_id", .text "\n"]

/-- A successful job. -/
def jobSuccess : Template :=
  [.text "Your connection ", .hole "connection_name", .text " from ", .hole "source_name",
    .text " to ", .hole "destination_name",
    .text " succeeded\n\nYou can access its logs here: ", .hole "connection_url",
    .text "\n\nJob ID: ", .hole "job_id", .text "\n"]

/-- What the two templates about disabled connections say at their end. -/
def connectionEnd : Template :=
  [.text "\n\nPlease address the failing issues to ensure your syncs continue to run. ",
    .text "The most recent attempted ", .hole "job_description", .text "\n\nWorkspace ID: ",
    .hole "workspace_id", .text "\nConnection ID: ", .hole "connection_id", .text "\n"]

/-- A disabled connection. -/
def connectionDisabled : Template :=
  [.text "Your connection from ", .hole "source_connector", .text " to ",
    .hole "destination_connector",
    .text " was automatically disabled because it failed consecutively or has been failing ",
    .text "for too long."] ++ connectionEnd

/-- A connection about to be disabled. -/
def connectionDisableWarning : Template :=
  [.text "Your connection from ", .hole "source_connector", .text " to ",
    .hole "destination_connector",
    .text " is scheduled to be automatically disabled because it keeps failing."]
    ++ connectionEnd

/-- A changed schema. -/
def schemaPropagated : Template :=
  [.text "The schema of '", .hole "connection_name", .text "' has changed.\n\nWorkspace: ",
    .hole "workspace_name", .text "\nSource: ", .hole "source_name", .text "\n\n",
    .hole "summary"]

/-- The templates with their names. -/
def table : List (String × Template) :=
  [("job_failure", jobFailure), ("job_success", jobSuccess),
    ("connection_disabled", connectionDisabled),
    ("connection_disable_warning", connectionDisableWarning),
    ("schema_propagated", schemaPropagated)]

/-- The template with a name. -/
def byName? (name : String) : Option Template := table.lookup name

/-! ### Filling -/

/-- A template with its values; the first hole without a value is a failure. -/
def fill (values : Fields) : Template → Except Failure String
  | [] => .ok ""
  | .text s :: rest => (fill values rest).map (s ++ ·)
  | .hole name :: rest =>
      match Fields.get? name values with
      | some v => (fill values rest).map (v.plain ++ ·)
      | none => .error (.missingValue name)

/-- The template with a name, with its values, none of which may be called a name. -/
def render (name : String) (values : Fields) : Except Failure String :=
  if Fields.has "name" values then .error (.filledArgument "render_template" "name")
  else
    match byName? name with
    | some t => fill values t
    | none => .error (.unknownTemplate name)

/-! ### Values of events -/

/-- The values of a finished job. -/
def jobValues (s : EventSummary) : Fields :=
  [("connection_name", .str s.connection.name), ("connection_url", .str s.connection.url),
    ("source_name", .str s.source.name), ("destination_name", .str s.destination.name),
    ("error_message", .str (s.errorMessage.getD "")), ("job_id", s.jobId.toJson)]

/-- The values of a disabled connection. -/
def connectionValues (c : ConnectionEvent) : Fields :=
  [("source_connector", .str c.sourceConnector),
    ("destination_connector", .str c.destinationConnector),
    ("job_description", .str c.jobDescription), ("workspace_id", .str c.workspaceId.render),
    ("connection_id", .str c.connectionId.render)]

/-- The values of a changed schema. -/
def schemaValues (summary : String) (u : SchemaUpdate) : Fields :=
  [("connection_name", .str u.connection.name), ("workspace_name", .str u.workspace.name),
    ("source_name", .str u.source.name), ("summary", .str summary)]

end Template

end JobHerald
