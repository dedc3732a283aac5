import JobHerald.Action
import JobHerald.Job.Basic

/-!
# The repository

The repository knows which workspace owns a job or a connection, and the records of
workspaces, connections and connectors.  Every look-up is recorded; it may answer a
record, answer that there is none, or fail.

## Main definitions

* `Repository` — the answers to all look-ups.
* `Repository.lookUp` — a look-up as an action.
* `present` — a record that is used, which must be there.
-/

namespace JobHerald

/-- The answers to all look-ups. -/
structure Repository where
  /-- The workspace of a job. -/
  workspaceOfJob : Int → Except Failure (Option Uuid)
  /-- The workspace of a connection. -/
  workspaceOfConnection : Uuid → Except Failure (Option Uuid)
  /-- A workspace. -/
  workspace : Uuid → Except Failure (Option Workspace)
  /-- A connection. -/
  connection : Uuid → Except Failure (Option Connection)
  /-- A source. -/
  source : Uuid → Except Failure (Option Source)
  /-- A destination. -/
  destination : Uuid → Except Failure (Option Destination)
  /-- The definition of a connection's source. -/
  sourceDefinition : Uuid → Except Failure (Option ConnectorDefinition)
  /-- The definition of a connection's destination. -/
  destinationDefinition : Uuid → Except Failure (Option ConnectorDefinition)

/-- A record whose member is read; to read it from nothing is a failure. -/
def present {α : Type} (member : String) : Option α → Action α
  | some a => pure a
  | none => .fail (.nothingHas member)

namespace Repository

/-- A look-up that is recorded, with its answer. -/
def lookUp {α : Type} (l : Lookup) (answer : Except Failure α) : Action α := do
  Action.record (.lookedUp l)
  Action.ofExcept answer

variable (r : Repository)

/-- The workspace of a job is looked up. -/
def findWorkspaceOfJob (job : Int) : Action (Option Uuid) :=
  lookUp (.workspaceOfJob job) (r.workspaceOfJob job)

/-- The workspace of a connection is looked up. -/
def findWorkspaceOfConnection (connection : Uuid) : Action (Option Uuid) :=
  lookUp (.workspaceOfConnection connection) (r.workspaceOfConnection connection)

/-- A workspace is looked up. -/
def findWorkspace (id : Uuid) : Action (Option Workspace) :=
  lookUp (.workspace id) (r.workspace id)

/-- A connection is looked up. -/
def findConnection (id : Uuid) : Action (Option Connection) :=
  lookUp (.connection id) (r.connection id)

/-- A source is looked up. -/
def findSource (id : Uuid) : Action (Option Source) := lookUp (.source id) (r.source id)

/-- A destination is looked up. -/
def findDestination (id : Uuid) : Action (Option Destination) :=
  lookUp (.destination id) (r.destination id)

/-- The definition of a connection's source is looked up. -/
def findSourceDefinition (connection : Uuid) : Action (Option ConnectorDefinition) :=
  lookUp (.sourceDefinition connection) (r.sourceDefinition connection)

/-- The definition of a connection's destination is looked up. -/
def findDestinationDefinition (connection : Uuid) : Action (Option ConnectorDefinition) :=
  lookUp (.destinationDefinition connection) (r.destinationDefinition connection)

end Repository

end JobHerald
