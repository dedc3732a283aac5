import JobHerald.Failure
import JobHerald.Json.Printer
import JobHerald.Log.Entry
import JobHerald.Settings.Basic
import JobHerald.Trigger

/-!
# Actions

An action reads its surroundings, writes what it does into a journal, and returns a
value or fails.  The journal holds every effect in order, so that what was logged,
requested, measured, tracked and looked up can be told from one list.

## Main definitions

* `Request`, `Response`, `Lookup`, `Effect` — what an action does.
* `Surroundings`, `World` — what an action reads, and what it changes.
* `Action` — actions, a monad.
* `Action.fail`, `Action.handle`, `Action.guarded` — failing, and recovering from failures.
* `Action.log`, `Action.body`, `Action.send`, `Action.settings` — the basic actions.
-/

namespace JobHerald

/-! ### Effects -/

/-- The two clients that make requests. -/
inductive Client where
  /-- The client for endpoints and for the email service. -/
  | general
  /-- The client for chat webhooks. -/
  | messages
  deriving DecidableEq, Repr

/-- A request. -/
structure Request where
  /-- The client that makes it. -/
  client : Client
  /-- The address. -/
  url : String
  /-- The body. -/
  body : String
  /-- The headers. -/
  headers : List (String × String)
  /-- Seconds until it is given up. -/
  timeout : Int
  deriving DecidableEq, Repr

/-- A response. -/
structure Response where
  /-- The status. -/
  status : Int
  /-- The body. -/
  body : String
  deriving DecidableEq, Repr, Inhabited

/-- Whether a status says that the request was accepted. -/
def Response.isAccepted (r : Response) : Bool := 200 ≤ r.status && r.status < 300

/-- A look-up in the repository. -/
inductive Lookup where
  /-- The workspace of a job. -/
  | workspaceOfJob (job : Int)
  /-- The workspace of a connection. -/
  | workspaceOfConnection (connection : Uuid)
  /-- A workspace. -/
  | workspace (id : Uuid)
  /-- A connection. -/
  | connection (id : Uuid)
  /-- A source. -/
  | source (id : Uuid)
  /-- A destination. -/
  | destination (id : Uuid)
  /-- The definition of a connection's source. -/
  | sourceDefinition (connection : Uuid)
  /-- The definition of a connection's destination. -/
  | destinationDefinition (connection : Uuid)
  deriving DecidableEq, Repr

/-- An effect. -/
inductive Effect where
  /-- A log entry was written. -/
  | logged (entry : Log.Entry)
  /-- A request was made. -/
  | requested (request : Request)
  /-- An attempt was reported to the metrics. -/
  | measured (trigger : Option Trigger) (kind : Option ChannelKind) (outcome : DeliveryOutcome)
  /-- An event was reported to the analytics. -/
  | tracked (workspace : Uuid) (action : String) (attributes : Fields)
  /-- The repository was asked. -/
  | lookedUp (lookup : Lookup)
  deriving Repr

namespace Effect

/-- The log entry of an effect. -/
def entry? : Effect → Option Log.Entry
  | logged e => some e
  | _ => none

/-- The request of an effect. -/
def request? : Effect → Option Request
  | requested r => some r
  | _ => none

/-- The measurement of an effect. -/
def measurement? : Effect → Option (Option Trigger × Option ChannelKind × DeliveryOutcome)
  | measured t k o => some (t, k, o)
  | _ => none

/-- The analytics event of an effect. -/
def tracking? : Effect → Option (Uuid × String × Fields)
  | tracked w a fs => some (w, a, fs)
  | _ => none

/-- The look-up of an effect. -/
def lookup? : Effect → Option Lookup
  | lookedUp l => some l
  | _ => none

end Effect

/-! ### Surroundings and world -/

/-- What an action reads. -/
structure Surroundings where
  /-- The variables of the process. -/
  environment : Environment
  /-- The text of the settings file. -/
  file : String
  /-- Seconds since 1970. -/
  clock : Int
  /-- What the n-th request is answered. -/
  replies : Nat → Except Failure Response
  /-- A new correlation identifier. -/
  fresh : String

/-- What an action changes. -/
structure World where
  /-- The settings, once they have been loaded. -/
  settings : Option Settings
  /-- The fields bound to the log entries of a dispatch. -/
  context : Fields
  /-- The effects so far. -/
  journal : List Effect

/-- The world before any action. -/
def World.initial : World := ⟨none, [], []⟩

/-- What an action does: it reads its surroundings, changes the world, and returns a
value or fails. -/
def Action (α : Type) : Type := Surroundings → World → Except Failure α × World

namespace Action

variable {α β : Type}

/-! ### Sequences and failures -/

/-- The action that does nothing but return a value. -/
def ret (a : α) : Action α := fun _ w => (.ok a, w)

/-- One action after another, which is not reached if the first fails. -/
def bind (x : Action α) (f : α → Action β) : Action β := fun s w =>
  match x s w with
  | (.ok a, w) => f a s w
  | (.error e, w) => (.error e, w)

instance : Monad Action where
  pure := ret
  bind := bind

/-- The action that fails. -/
def fail (e : Failure) : Action α := fun _ w => (.error e, w)

/-- An action whose failure is handled. -/
def handle (x : Action α) (recover : Failure → Action α) : Action α := fun s w =>
  match x s w with
  | (.ok a, w) => (.ok a, w)
  | (.error e, w) => recover e s w

/-- An action that returns its failure instead of failing. -/
def guarded (x : Action α) : Action (Except Failure α) := fun s w =>
  match x s w with
  | (.ok a, w) => (.ok (.ok a), w)
  | (.error e, w) => (.ok (.error e), w)

/-- The action that returns a value or fails. -/
def ofExcept : Except Failure α → Action α
  | .ok a => ret a
  | .error e => fail e

@[simp] theorem pure_apply (a : α) (s : Surroundings) (w : World) :
    (pure a : Action α) s w = (.ok a, w) := rfl

@[simp] theorem fail_apply (e : Failure) (s : Surroundings) (w : World) :
    (fail e : Action α) s w = (.error e, w) := rfl

theorem bind_apply (x : Action α) (f : α → Action β) (s : Surroundings) (w : World) :
    (x >>= f) s w =
      match x s w with
      | (.ok a, w) => f a s w
      | (.error e, w) => (.error e, w) := rfl

/-! ### Basic actions -/

/-- The surroundings. -/
def surroundings : Action Surroundings := fun s w => (.ok s, w)

/-- The seconds since 1970, if the clock shows a time of the calendar. -/
def clock : Action Int := fun s w =>
  match Timestamp.ofClock s.clock with
  | .ok _ => (.ok s.clock, w)
  | .error f => (.error (.calendar f), w)

/-- The world. -/
def world : Action World := fun _ w => (.ok w, w)

/-- An effect is written into the journal. -/
def record (e : Effect) : Action Unit := fun _ w =>
  (.ok (), { w with journal := w.journal ++ [e] })

/-- A log entry is written. -/
def log (level : Log.Level) (event : String) (fields : Fields) : Action Unit :=
  record (.logged ⟨level, event, fields⟩)

/-- A log entry at level `info` is written. -/
def info (event : String) (fields : Fields) : Action Unit := log .info event fields

/-- The settings of the process: they are loaded once, and kept if that succeeds. -/
def settings : Action Settings := fun s w =>
  match w.settings with
  | some settings => (.ok settings, w)
  | none =>
      match Settings.ofEnvironment s.environment s.file with
      | .ok settings => (.ok settings, { w with settings := some settings })
      | .error f => (.error (.ofSettings f), w)

/-- The requests made so far. -/
def requestCount (w : World) : Nat := (w.journal.filterMap Effect.request?).length

/-- The text of a value that is sent, unless one of its integers has too many digits. -/
def body (payload : Json) : Action String :=
  if payload.isWithinLimit then ret payload.spaced else fail .longInteger

/-- A request is made and answered. -/
def send (r : Request) : Action Response := fun s w =>
  let w' := { w with journal := w.journal ++ [.requested r] }
  match s.replies (requestCount w) with
  | .ok response => (.ok response, w')
  | .error e => (.error e, w')

/-- An action for each item of a list, in order, with the list of their values. -/
def forEach {γ : Type} (f : γ → Action α) : List γ → Action (List α)
  | [] => pure []
  | c :: cs => do
      let a ← f c
      let as ← forEach f cs
      return a :: as

end Action

end JobHerald
