import JobHerald.Job.Notifier
import JobHerald.Proofs.Totality

/-!
# The stages of a notification

Before anything is dispatched, the notifier looks up the workspace and the connection, and makes
the notice.  These stages ask the repository and do nothing else; what they come to does not
depend on the world, and the first one that fails ends the notification.

## Main definitions

* `Action.Asks`, `Action.Settles` — an action that only asks the repository, and what it comes to.
* `Action.Leads` — an action whose stages either end it, or lead to another action.
* `Repository.Knows`, `Repository.Lacks` — all that is to be known about a connection, and the
  ways in which it cannot be had.
* `Notifier.Ready`, `Notifier.Abandons` — all that a job event is published with, and how it is
  abandoned; `Notifier.SchemaReady` and `Notifier.AbandonsSchema` for changed schemas.

## Main results

* `Repository.settles_metadata` — a connection is known, or one of five look-ups fails.
* `Notifier.leads_notifyJob`, `Notifier.leads_notifySchemaChange` — **a notification is abandoned,
  or it is ready and is published.**
* `Notifier.Ready.not_abandons`, `Notifier.SchemaReady.not_abandons` — but never both.
-/

namespace JobHerald

open JobHerald.Action

/-! ### Asking the repository -/

namespace Action

variable {α β : Type} {s : Surroundings}

theorem pure_bind (a : α) (f : α → Action β) : (pure a >>= f) = f a := rfl

theorem bind_assoc {γ : Type} (x : Action α) (f : α → Action β) (g : β → Action γ) :
    x >>= f >>= g = x >>= fun a => f a >>= g := by
  funext s w
  cases hx : x s w with
  | mk r w' =>
    cases r with
    | ok a => rw [bind_ok hx, bind_apply, bind_ok hx, bind_apply]
    | error e => rw [Action.bind_error hx, Action.bind_error (Action.bind_error hx)]

/-- An action that only asks the repository: in every world it has the same result after the same
look-ups. -/
def Asks (x : Action α) (s : Surroundings) (r : Except Failure α) (ls : List Lookup) : Prop :=
  ∀ w : World, x s w = (r, w.extend (ls.map .lookedUp))

theorem asks_pure (a : α) : (pure a : Action α).Asks s (.ok a) [] := by
  intro w
  rw [List.map_nil, World.extend_nil]
  rfl

theorem asks_fail (e : Failure) : (fail e : Action α).Asks s (.error e) [] := by
  intro w
  rw [List.map_nil, World.extend_nil]
  rfl

theorem asks_ofExcept (r : Except Failure α) : (ofExcept r).Asks s r [] := by
  intro w
  rw [List.map_nil, World.extend_nil, ofExcept_apply]

theorem asks_surroundings : surroundings.Asks s (.ok s) [] := by
  intro w
  rw [List.map_nil, World.extend_nil]
  rfl

theorem asks_lookUp {answer r : Except Failure α} (l : Lookup) (h : answer = r) :
    (Repository.lookUp l answer).Asks s r [l] := by
  intro w
  rw [h, Repository.lookUp, bind_ok (record_apply ..), ofExcept_apply]
  rfl

theorem Asks.bind {x : Action α} {f : α → Action β} {a : α} {r : Except Failure β}
    {ls ls' : List Lookup} (hx : x.Asks s (.ok a) ls) (hf : (f a).Asks s r ls') :
    (x >>= f).Asks s r (ls ++ ls') := by
  intro w
  rw [bind_ok (hx w), hf, World.extend_extend, List.map_append]

theorem Asks.bind_error {x : Action α} {f : α → Action β} {e : Failure} {ls : List Lookup}
    (hx : x.Asks s (.error e) ls) : (x >>= f).Asks s (.error e) ls :=
  fun w => Action.bind_error (hx w)

/-- An action that only asks the repository, and either returns a value with a property or
fails for a reason. -/
def Settles (x : Action α) (s : Surroundings) (P : α → Prop) (Q : Prop) : Prop :=
  (∃ a ls, P a ∧ x.Asks s (.ok a) ls) ∨ ∃ e ls, Q ∧ x.Asks s (.error e) ls

variable {P : α → Prop} {P' : β → Prop} {Q : Prop}

theorem settles_pure {a : α} (h : P a) : (pure a : Action α).Settles s P Q :=
  .inl ⟨a, [], h, asks_pure a⟩

theorem settles_fail (e : Failure) (h : Q) : (fail e : Action α).Settles s P Q :=
  .inr ⟨e, [], h, asks_fail e⟩

theorem settles_lookUp {l : Lookup} {answer : Except Failure α}
    (h : ∀ e, answer = .error e → Q) :
    (Repository.lookUp l answer).Settles s (answer = .ok ·) Q := by
  cases hanswer : answer with
  | ok a => exact .inl ⟨a, [l], rfl, asks_lookUp l rfl⟩
  | error e => exact .inr ⟨e, [l], h e hanswer, asks_lookUp l rfl⟩

theorem Settles.mono {x : Action α} {R : α → Prop} {Q' : Prop} (hx : x.Settles s P Q)
    (hP : ∀ a, P a → R a) (hQ : Q → Q') : x.Settles s R Q' := by
  rcases hx with ⟨a, ls, ha, hasks⟩ | ⟨e, ls, hq, hasks⟩
  · exact .inl ⟨a, ls, hP a ha, hasks⟩
  · exact .inr ⟨e, ls, hQ hq, hasks⟩

theorem Settles.bind {x : Action α} {f : α → Action β} (hx : x.Settles s P Q)
    (hf : ∀ a, P a → (f a).Settles s P' Q) : (x >>= f).Settles s P' Q := by
  rcases hx with ⟨a, ls, ha, hasks⟩ | ⟨e, ls, hQ, hasks⟩
  · rcases hf a ha with ⟨b, ls', hb, hasks'⟩ | ⟨e, ls', hQ, hasks'⟩
    · exact .inl ⟨b, _, hb, hasks.bind hasks'⟩
    · exact .inr ⟨e, _, hQ, hasks.bind hasks'⟩
  · exact .inr ⟨e, ls, hQ, hasks.bind_error⟩

/-- A value that is returned has the property of the values that an action settles on. -/
theorem Settles.of_canReturn {x : Action α} {R : Surroundings → Prop}
    (hx : ∀ s, x.Settles s P (R s)) {a : α} (ha : x.CanReturn a) : P a := by
  obtain ⟨s, w, w', hrun⟩ := ha
  rcases hx s with ⟨b, ls, hb, hasks⟩ | ⟨e, ls, -, hasks⟩
  · rw [hasks w] at hrun
    cases hrun
    exact hb
  · rw [hasks w] at hrun
    cases hrun

/-! ### Reading the surroundings -/

/-- An action that does not even ask the repository. -/
def Reads (x : Action α) : Prop := ∀ s, ∃ r, x.Asks s r []

theorem reads_pure (a : α) : (pure a : Action α).Reads := fun _ => ⟨_, asks_pure a⟩

theorem reads_ofExcept (r : Except Failure α) : (ofExcept r).Reads := fun _ => ⟨_, asks_ofExcept r⟩

theorem reads_surroundings : surroundings.Reads := fun _ => ⟨_, asks_surroundings⟩

theorem reads_present (member : String) (found : Option α) : (present member found).Reads := by
  cases found with
  | some a => exact reads_pure a
  | none => exact fun _ => ⟨_, asks_fail _⟩

theorem reads_bind {x : Action α} {f : α → Action β} (hx : x.Reads) (hf : ∀ a, (f a).Reads) :
    (x >>= f).Reads := by
  intro s
  obtain ⟨r, hr⟩ := hx s
  cases r with
  | error e => exact ⟨_, hr.bind_error⟩
  | ok a =>
    obtain ⟨r', hr'⟩ := hf a s
    exact ⟨r', hr.bind hr'⟩

theorem Reads.settles {x : Action α} (hx : x.Reads) (h : ∀ e, x.Asks s (.error e) [] → Q) :
    x.Settles s (fun a => x.Asks s (.ok a) []) Q := by
  obtain ⟨r, hr⟩ := hx s
  cases r with
  | ok a => exact .inl ⟨a, [], hr, hr⟩
  | error e => exact .inr ⟨e, [], h e hr, hr⟩

/-! ### Stages -/

/-- An action that ends without an answer after look-ups and one log entry. -/
def Stops (x : Action (Option β)) (s : Surroundings) : Prop :=
  ∃ (ls : List Lookup) (entry : Log.Entry),
    ∀ w, x s w = (.ok none, w.extend (ls.map .lookedUp ++ [.logged entry]))

/-- An action that does the same as another one after some look-ups. -/
def Continues (x y : Action β) (s : Surroundings) : Prop :=
  ∃ ls : List Lookup, ∀ w, x s w = y s (w.extend (ls.map .lookedUp))

/-- An action that either ends for a reason, or leads to another one with a property. -/
def Leads (x : Action (Option β)) (s : Surroundings) (Q : Prop) (go : Action (Option β) → Prop) :
    Prop := (Q ∧ x.Stops s) ∨ ∃ y, go y ∧ x.Continues y s

variable {go : Action (Option β) → Prop}

theorem leads_refl {x : Action (Option β)} (h : go x) : x.Leads s Q go :=
  .inr ⟨x, h, [], fun w => by rw [List.map_nil, World.extend_nil]⟩

/-- After the same look-ups, an action leads where the other one leads. -/
theorem Leads.of_continues {x y : Action (Option β)} (hxy : x.Continues y s)
    (hy : y.Leads s Q go) : x.Leads s Q go := by
  obtain ⟨ls, hls⟩ := hxy
  rcases hy with ⟨hQ, ls', entry, hstop⟩ | ⟨z, hz, ls', hgo⟩
  · refine .inl ⟨hQ, ls ++ ls', entry, fun w => ?_⟩
    rw [hls, hstop, World.extend_extend, List.map_append, List.append_assoc]
  · refine .inr ⟨z, hz, ls ++ ls', fun w => ?_⟩
    rw [hls, hgo, World.extend_extend, List.map_append]

/-- One stage: it is attempted, and its failure ends the action. -/
theorem Settles.stage {x : Action α} {f : OperationResult α → Action (Option β)}
    (hx : x.Settles s P Q) {event : String} {context : Fields} (hc : Attempt.Clean context)
    (hok : ∀ a, P a → (f (.success a)).Leads s Q go)
    (herror : ∀ r : OperationResult α, r.value? = none → f r = pure none) :
    (attempt x event context >>= f).Leads s Q go := by
  rcases hx with ⟨a, ls, ha, hasks⟩ | ⟨e, ls, hQ, hasks⟩
  · exact .of_continues ⟨ls, fun w => bind_ok (attempt_ok hc (hasks w))⟩ (hok a ha)
  · refine .inl ⟨hQ, ls, Attempt.entry event context (.ofFailure e : OperationResult α),
      fun w => ?_⟩
    rw [bind_ok (attempt_error hc (hasks w)), herror _ (OperationResult.value?_ofFailure e),
      World.extend_extend]
    rfl

end Action

theorem present_some {α : Type} (member : String) (a : α) : present member (some a) = pure a := rfl

theorem canReturn_present {α : Type} {member : String} {found : Option α} {a : α}
    (h : (present member found).CanReturn a) : found = some a := by
  cases found with
  | some b => rw [canReturn_pure h]
  | none =>
    obtain ⟨s, w, w', hrun⟩ := h
    cases hrun

/-! ### Connections -/

namespace Repository

variable (r : Repository)

/-- All that is to be known about a connection. -/
structure Knows (c : Uuid) (m : Metadata) : Prop where
  /-- The connection. -/
  connection : r.connection c = .ok (some m.connection)
  /-- Its source. -/
  source : r.source m.connection.sourceId = .ok m.source
  /-- Its destination. -/
  destination : r.destination m.connection.destinationId = .ok m.destination
  /-- The definition of its source. -/
  sourceDefinition : r.sourceDefinition c = .ok m.sourceDefinition
  /-- The definition of its destination. -/
  destinationDefinition : r.destinationDefinition c = .ok m.destinationDefinition

/-- One of the five look-ups for a connection fails. -/
inductive Lacks (c : Uuid) : Prop
  /-- That of the connection. -/
  | connection {e : Failure} (h : r.connection c = .error e) : Lacks c
  /-- That of its source. -/
  | source {k : Connection} {e : Failure} (hk : r.connection c = .ok (some k))
    (h : r.source k.sourceId = .error e) : Lacks c
  /-- That of its destination. -/
  | destination {k : Connection} {e : Failure} (hk : r.connection c = .ok (some k))
    (h : r.destination k.destinationId = .error e) : Lacks c
  /-- That of the definition of its source. -/
  | sourceDefinition {e : Failure} (h : r.sourceDefinition c = .error e) : Lacks c
  /-- That of the definition of its destination. -/
  | destinationDefinition {e : Failure} (h : r.destinationDefinition c = .error e) : Lacks c

variable {r} {c : Uuid} {m : Metadata} {s : Surroundings}

theorem Knows.not_lacks (h : r.Knows c m) : ¬ r.Lacks c := by
  intro hlacks
  cases hlacks with
  | connection he =>
    rw [h.connection] at he
    cases he
  | source hk he =>
    rw [h.connection] at hk
    cases hk
    rw [h.source] at he
    cases he
  | destination hk he =>
    rw [h.connection] at hk
    cases hk
    rw [h.destination] at he
    cases he
  | sourceDefinition he =>
    rw [h.sourceDefinition] at he
    cases he
  | destinationDefinition he =>
    rw [h.destinationDefinition] at he
    cases he

theorem Knows.unique {m' : Metadata} (h : r.Knows c m) (h' : r.Knows c m') : m = m' := by
  obtain ⟨k, source, destination, sourceDefinition, destinationDefinition⟩ := m
  obtain ⟨hk, hs, hd, hsd, hdd⟩ := h
  obtain ⟨hk', hs', hd', hsd', hdd'⟩ := h'
  rw [hk'] at hk
  cases hk
  rw [hs'] at hs
  cases hs
  rw [hd'] at hd
  cases hd
  rw [hsd'] at hsd
  cases hsd
  rw [hdd'] at hdd
  cases hdd
  rfl

theorem Knows.source_eq_some (hr : r.Sound) (h : r.Knows c m) :
    ∃ source, m.source = some source := by
  cases hs : m.source with
  | some source => exact ⟨source, rfl⟩
  | none => exact absurd (h.source.trans (congrArg _ hs)) (hr.source _)

theorem Knows.destination_eq_some (hr : r.Sound) (h : r.Knows c m) :
    ∃ destination, m.destination = some destination := by
  cases hd : m.destination with
  | some destination => exact ⟨destination, rfl⟩
  | none => exact absurd (h.destination.trans (congrArg _ hd)) (hr.destination _)

theorem Knows.sourceDefinition_eq_some (hr : r.Sound) (h : r.Knows c m) :
    ∃ definition, m.sourceDefinition = some definition := by
  cases hd : m.sourceDefinition with
  | some definition => exact ⟨definition, rfl⟩
  | none => exact absurd (h.sourceDefinition.trans (congrArg _ hd)) (hr.sourceDefinition _)

theorem Knows.destinationDefinition_eq_some (hr : r.Sound) (h : r.Knows c m) :
    ∃ definition, m.destinationDefinition = some definition := by
  cases hd : m.destinationDefinition with
  | some definition => exact ⟨definition, rfl⟩
  | none =>
    exact absurd (h.destinationDefinition.trans (congrArg _ hd)) (hr.destinationDefinition _)

/-- A connection is known, or one of its look-ups fails. -/
theorem settles_metadata (hr : r.Sound) (c : Uuid) :
    (r.metadata c).Settles s (r.Knows c) (r.Lacks c) := by
  refine (settles_lookUp fun e he => .connection he).bind fun found hfound => ?_
  cases found with
  | none => exact absurd hfound (hr.connection c)
  | some k =>
    refine (settles_pure rfl).bind fun k' (hk : k = k') => ?_
    subst hk
    -- the look-ups follow in this order, and the first failure ends them
    refine (settles_lookUp fun e he => .source hfound he).bind fun source hsource => ?_
    refine (settles_lookUp fun e he => .destination hfound he).bind fun destination hdest => ?_
    refine (settles_lookUp fun e he => .sourceDefinition he).bind fun sourceDefinition hsd => ?_
    refine (settles_lookUp fun e he => .destinationDefinition he).bind fun _ hdd => ?_
    exact settles_pure ⟨hfound, hsource, hdest, hsd, hdd⟩

end Repository

/-! ### Job events -/

namespace Notifier

variable (n : Notifier)

/-- The workspace of a job event: the one that is known already, or the one that owns the job. -/
inductive Finds (job : Job) : Option Workspace → Workspace → Prop
  /-- It is known already. -/
  | known (w : Workspace) : Finds job (some w) w
  /-- It is looked up. -/
  | owner {id : Uuid} {w : Workspace} (hid : n.repository.workspaceOfJob job.id = .ok (some id))
    (h : n.repository.workspace id = .ok (some w)) : Finds job none w

/-- The ways in which the workspace of a job event cannot be found. -/
inductive Loses (job : Job) : Option Workspace → Prop
  /-- The look-up of its identifier fails. -/
  | owner {e : Failure} (h : n.repository.workspaceOfJob job.id = .error e) : Loses job none
  /-- The job has no workspace. -/
  | nobody (h : n.repository.workspaceOfJob job.id = .ok none) : Loses job none
  /-- Its look-up fails. -/
  | workspace {id : Uuid} {e : Failure}
    (hid : n.repository.workspaceOfJob job.id = .ok (some id))
    (h : n.repository.workspace id = .error e) : Loses job none

/-- All that a job event is published with. -/
structure Ready (s : Surroundings) (event : JobEvent) (job : Job) (attempts : List AttemptStats)
    (known : Option Workspace) (reason : Option String) (w : Workspace) (c : Uuid) (m : Metadata)
    (notice : Notice) : Prop where
  /-- The workspace is found. -/
  workspace : n.Finds job known w
  /-- The job's scope names a connection. -/
  scope : job.connectionId = .ok c
  /-- The connection is known. -/
  metadata : n.repository.Knows c m
  /-- The notice can be made. -/
  notice : (n.jobNotice event job attempts w m reason).Asks s (.ok notice) []

/-- The ways in which a job event is abandoned. -/
inductive Abandons (s : Surroundings) (event : JobEvent) (job : Job)
    (attempts : List AttemptStats) (known : Option Workspace) (reason : Option String) : Prop
  /-- Its workspace cannot be found. -/
  | workspace (h : n.Loses job known) : Abandons s event job attempts known reason
  /-- The job's scope does not name a connection. -/
  | scope {f : Uuid.Fault} (h : job.connectionId = .error f) :
    Abandons s event job attempts known reason
  /-- One of the look-ups of the connection fails. -/
  | connection {c : Uuid} (hc : job.connectionId = .ok c) (h : n.repository.Lacks c) :
    Abandons s event job attempts known reason
  /-- The notice cannot be made. -/
  | notice {w : Workspace} {c : Uuid} {m : Metadata} {e : Failure} (hw : n.Finds job known w)
    (hc : job.connectionId = .ok c) (hm : n.repository.Knows c m)
    (h : (n.jobNotice event job attempts w m reason).Asks s (.error e) []) :
    Abandons s event job attempts known reason

variable {n} {s : Surroundings} {event : JobEvent} {job : Job} {attempts : List AttemptStats}
  {known : Option Workspace} {reason : Option String} {w : Workspace} {c : Uuid} {m : Metadata}
  {notice : Notice}

theorem Finds.not_loses (h : n.Finds job known w) : ¬ n.Loses job known := by
  intro hloses
  cases h with
  | known w => cases hloses
  | owner hid h =>
    cases hloses with
    | owner he =>
      rw [hid] at he
      cases he
    | nobody hnone =>
      rw [hid] at hnone
      cases hnone
    | workspace hid' he =>
      rw [hid] at hid'
      cases hid'
      rw [h] at he
      cases he

theorem Finds.unique {w' : Workspace} (h : n.Finds job known w) (h' : n.Finds job known w') :
    w = w' := by
  cases h with
  | known w =>
    cases h'
    rfl
  | owner hid h =>
    cases h' with
    | owner hid' h' =>
      rw [hid] at hid'
      cases hid'
      rw [h] at h'
      cases h'
      rfl

/-- A workspace that is resolved is found, whether it was known already or not. -/
theorem finds_of_canReturn
    (h : (n.resolveWorkspace job known).CanReturn (some (some w))) : n.Finds job known w := by
  cases known with
  | some w' =>
    cases canReturn_pure h
    exact .known w
  | none =>
    obtain ⟨r, hattempt, hvalue⟩ := canReturn_bind h
    have hfound := canReturn_of_attempt Attempt.clean_nil hattempt (canReturn_pure hvalue)
    obtain ⟨id, hid, hw⟩ := n.canReturn_workspaceForJob hfound
    exact .owner hid hw

/-- What is ready to be published is not abandoned. -/
theorem Ready.not_abandons (h : n.Ready s event job attempts known reason w c m notice) :
    ¬ n.Abandons s event job attempts known reason := by
  intro habandons
  cases habandons with
  | workspace hloses => exact h.workspace.not_loses hloses
  | scope hscope =>
    rw [h.scope] at hscope
    cases hscope
  | connection hc hlacks =>
    rw [h.scope] at hc
    cases hc
    exact h.metadata.not_lacks hlacks
  | notice hw hc hm hfails =>
    rw [h.scope] at hc
    cases hc
    -- what is known is unique, and an action has one result in a world
    rw [← h.workspace.unique hw, ← h.metadata.unique hm] at hfails
    have hrun := (h.notice .initial).symm.trans (hfails .initial)
    cases hrun

theorem settles_workspaceForJob (hr : n.repository.Sound) (job : Job) :
    (n.workspaceForJob job).Settles s (fun found => ∃ w, found = some w ∧ n.Finds job none w)
      (n.Loses job none) := by
  refine (settles_lookUp fun e he => .owner he).bind fun owner howner => ?_
  cases owner with
  | none => exact settles_fail _ (.nobody howner)
  | some id =>
    refine (settles_lookUp fun e he => .workspace howner he).mono (fun found hfound => ?_)
      fun h => h
    cases found with
    -- a sound repository has the workspaces that it names
    | none => exact absurd hfound (hr.workspace id)
    | some w => exact ⟨w, rfl, .owner howner hfound⟩

theorem settles_metadataForJob (hr : n.repository.Sound) :
    (n.metadataForJob job).Settles s
      (fun m => ∃ c, job.connectionId = .ok c ∧ n.repository.Knows c m)
      (n.Abandons s event job attempts known reason) := by
  cases hc : job.connectionId with
  -- a scope that is no identifier fails before anything is looked up
  | error f =>
    have hasks : (n.metadataForJob job).Asks s (.error (.identifier f)) [] := by
      rw [metadataForJob, hc]
      exact (asks_fail _).bind_error
    exact .inr ⟨_, _, .scope hc, hasks⟩
  | ok c =>
    have hsettles : (n.metadataForJob job).Settles s (n.repository.Knows c)
        (n.repository.Lacks c) := by
      rw [metadataForJob, hc]
      exact Repository.settles_metadata hr c
    exact hsettles.mono (fun m hm => ⟨c, rfl, hm⟩) fun h => .connection hc h

theorem reads_jobNotice (event : JobEvent) (job : Job) (attempts : List AttemptStats)
    (w : Workspace) (m : Metadata) (reason : Option String) :
    (n.jobNotice event job attempts w m reason).Reads := by
  have hsummary : (n.summary job attempts w m reason).Reads :=
    reads_bind (reads_present _ _) fun _ => reads_bind (reads_present _ _) fun _ =>
      reads_ofExcept _
  -- only the clock is read, and nothing is done
  have hevent : (connectionEvent job w m reason).Reads := by
    refine reads_bind (reads_present _ _) fun source => ?_
    refine reads_bind (reads_present _ _) fun destination => ?_
    refine reads_bind reads_surroundings fun s => ?_
    refine reads_bind (reads_ofExcept _) fun description => ?_
    exact reads_bind (reads_ofExcept _) fun connection => reads_pure _
  cases event with
  | failure => exact reads_bind hsummary fun _ => reads_pure _
  | success => exact reads_bind hsummary fun _ => reads_pure _
  | disabled => exact reads_bind hevent fun _ => reads_pure _
  | disableWarning => exact reads_bind hevent fun _ => reads_pure _

/-- The ways in which a job event is abandoned, by trigger. -/
inductive AbandonsTrigger (n : Notifier) (s : Surroundings) (t : Trigger) (job : Job)
    (attempts : List AttemptStats) (known : Option Workspace) (reason : Option String) : Prop
  /-- The trigger is no job event. -/
  | trigger (h : t.jobEvent? = none) : AbandonsTrigger n s t job attempts known reason
  /-- The event is abandoned. -/
  | event {event : JobEvent} (he : t.jobEvent? = some event)
    (h : n.Abandons s event job attempts known reason) :
    AbandonsTrigger n s t job attempts known reason

/-- The action that publishes a job event which is ready. -/
def Publishes (n : Notifier) (s : Surroundings) (event : JobEvent) (job : Job)
    (attempts : List AttemptStats) (known : Option Workspace) (reason : Option String)
    (y : Action (Option DispatchReport)) : Prop :=
  ∃ w c m notice, n.Ready s event job attempts known reason w c m notice ∧
    y = n.publish w event.trigger notice (pure c) (jobAttributes job m)

theorem leads_notifyWorkspace (hr : n.repository.Sound) (hw : n.Finds job known w) :
    (n.notifyWorkspace event job attempts w reason).Leads s
      (n.Abandons s event job attempts known reason)
      (n.Publishes s event job attempts known reason) := by
  refine (settles_metadataForJob hr).stage (clean_workspace w.id) ?_ fun r hnone => by rw [hnone]
  rintro m ⟨c, hc, hm⟩
  have hnotice : (n.jobNotice event job attempts w m reason).Settles s
      (fun notice => (n.jobNotice event job attempts w m reason).Asks s (.ok notice) [])
      (n.Abandons s event job attempts known reason) :=
    (reads_jobNotice event job attempts w m reason).settles fun e he => .notice hw hc hm he
  refine hnotice.stage Attempt.clean_nil (fun notice hasks => ?_) fun r hnone => by rw [hnone]
  -- what is left is the announcement itself
  refine leads_refl ⟨w, c, m, notice, ⟨hw, hc, hm, hasks⟩, ?_⟩
  rw [hc]
  rfl

theorem notifyEvent_known : n.notifyEvent event job attempts (some w) reason =
    n.notifyWorkspace event job attempts w reason := by
  rw [notifyEvent, resolveWorkspace, pure_bind]
  simp only [present_some, pure_bind]

/-- **A job event is abandoned, or it is ready and is published.**  Each stage is an attempt that
ends the run if it has no value. -/
theorem leads_notifyEvent (hr : n.repository.Sound) (event : JobEvent) (job : Job)
    (attempts : List AttemptStats) (known : Option Workspace) (reason : Option String) :
    (n.notifyEvent event job attempts known reason).Leads s
      (n.Abandons s event job attempts known reason)
      (n.Publishes s event job attempts known reason) := by
  cases known with
  | some w =>
    rw [notifyEvent_known]
    exact leads_notifyWorkspace hr (.known w)
  | none =>
    -- finding the workspace is a stage of its own here, with its own entry
    rw [notifyEvent, resolveWorkspace, bind_assoc]
    have hfound : (n.workspaceForJob job).Settles s
        (fun found => ∃ w, found = some w ∧ n.Finds job none w)
        (n.Abandons s event job attempts none reason) :=
      (settles_workspaceForJob hr job).mono (fun _ h => h) .workspace
    refine hfound.stage Attempt.clean_nil ?_ fun r hnone => ?_
    · rintro found ⟨w, rfl, hw⟩
      simp only [OperationResult.value?_success, present_some, pure_bind]
      exact leads_notifyWorkspace hr hw
    · rw [hnone, pure_bind]

theorem leads_notifyJob (hr : n.repository.Sound) (t : Trigger) (job : Job)
    (attempts : List AttemptStats) (known : Option Workspace) (reason : Option String)
    (s : Surroundings) :
    ∃ b body, n.notifyJob t job attempts known reason = within b body ∧
      body.Leads s (n.AbandonsTrigger s t job attempts known reason) fun y =>
        ∃ event, t.jobEvent? = some event ∧ n.Publishes s event job attempts known reason y := by
  refine ⟨_, _, rfl, ?_⟩
  cases ht : t.jobEvent? with
  | none =>
    exact .inl ⟨.trigger ht, [], _, fun w => bind_ok (log_apply ..)⟩
  | some event =>
    rcases leads_notifyEvent hr event job attempts known reason with ⟨h, hstops⟩ | ⟨y, hy, hgo⟩
    · exact .inl ⟨.event ht h, hstops⟩
    · exact .inr ⟨y, ⟨event, rfl, hy⟩, hgo⟩

end Notifier

/-! ### Changed schemas -/

namespace Notifier

variable (n : Notifier)

/-- All that a changed schema is announced with. -/
structure SchemaReady (c : Uuid) (id : Uuid) (w : Workspace) (m : Metadata) : Prop where
  /-- The identifier of the workspace is found. -/
  owner : n.repository.workspaceOfConnection c = .ok (some id)
  /-- The workspace is found. -/
  workspace : n.repository.workspace id = .ok (some w)
  /-- The connection is known. -/
  metadata : n.repository.Knows c m

/-- The ways in which the announcement of a changed schema is abandoned. -/
inductive AbandonsSchema (c : Uuid) : Prop
  /-- The look-up of the workspace's identifier fails. -/
  | owner {e : Failure} (h : n.repository.workspaceOfConnection c = .error e) : AbandonsSchema c
  /-- The connection has no workspace. -/
  | nobody (h : n.repository.workspaceOfConnection c = .ok none) : AbandonsSchema c
  /-- The look-up of the workspace fails. -/
  | workspace {id : Uuid} {e : Failure}
    (hid : n.repository.workspaceOfConnection c = .ok (some id))
    (h : n.repository.workspace id = .error e) : AbandonsSchema c
  /-- One of the look-ups of the connection fails. -/
  | connection (h : n.repository.Lacks c) : AbandonsSchema c

variable {n} {s : Surroundings} {c id : Uuid} {w : Workspace} {m : Metadata}

/-- What is ready to be announced is not abandoned. -/
theorem SchemaReady.not_abandons (h : n.SchemaReady c id w m) : ¬ n.AbandonsSchema c := by
  intro habandons
  cases habandons with
  | owner he =>
    rw [h.owner] at he
    cases he
  | nobody hnone =>
    rw [h.owner] at hnone
    cases hnone
  | workspace hid he =>
    rw [h.owner] at hid
    cases hid
    rw [h.workspace] at he
    cases he
  | connection hlacks => exact h.metadata.not_lacks hlacks

theorem settles_schemaContext (hr : n.repository.Sound) (c : Uuid) (diff : CatalogDiff)
    (breaking : Bool) :
    (n.schemaContext c diff breaking).Settles s
      (fun context => ∃ id, n.SchemaReady c id context.1 context.2.1) (n.AbandonsSchema c) := by
  have hworkspace : (n.workspaceForConnection c).Settles s
      (fun found => n.repository.workspaceOfConnection c = .ok (some found.1) ∧
        ∃ w, found.2 = some w ∧ n.repository.workspace found.1 = .ok (some w))
      (n.AbandonsSchema c) := by
    refine (settles_lookUp fun e he => .owner he).bind fun owner howner => ?_
    cases owner with
    | none => exact settles_fail _ (.nobody howner)
    | some id =>
      refine (settles_lookUp fun e he => .workspace howner he).bind fun found hfound => ?_
      cases found with
      | none => exact absurd hfound (hr.workspace id)
      | some w => exact settles_pure ⟨howner, w, rfl, hfound⟩
  rw [schemaContext]
  refine hworkspace.bind fun found hfound => ?_
  obtain ⟨id, found⟩ := found
  obtain ⟨hid, w, hw, hworkspace⟩ := hfound
  subst hw
  -- what the connection lacks is a reason to abandon the announcement
  have hmetadata : (n.repository.metadata c).Settles s (n.repository.Knows c)
      (n.AbandonsSchema c) :=
    (Repository.settles_metadata hr c).mono (fun _ h => h) .connection
  refine hmetadata.bind fun m hm => ?_
  -- the source of a connection that is known is there
  obtain ⟨source, hsource⟩ := hm.source_eq_some hr
  rw [present_some, hsource, present_some]
  exact settles_pure ⟨id, hid, hworkspace, hm⟩

/-- The action that announces a changed schema which is ready. -/
def PublishesSchema (n : Notifier) (c : Uuid) (diff : CatalogDiff) (breaking : Bool)
    (y : Action (Option DispatchReport)) : Prop :=
  ∃ id w m update, n.SchemaReady c id w m ∧
    y = n.publish w .schemaChange (.schemaPropagated diff.summary update) (pure c)
      (schemaAttributes breaking m)

/-- **A changed schema is abandoned, or it is ready and is announced.** -/
theorem leads_notifySchemaChange (hr : n.repository.Sound) (c : Uuid) (diff : CatalogDiff)
    (breaking : Bool) (s : Surroundings) :
    ∃ b body, n.notifySchemaChange c diff breaking = within b body ∧
      body.Leads s (n.AbandonsSchema c) (n.PublishesSchema c diff breaking) := by
  refine ⟨_, _, rfl, (settles_schemaContext hr c diff breaking).stage Attempt.clean_nil ?_
    fun r hnone => by rw [hnone]⟩
  rintro ⟨w, m, update⟩ ⟨id, hready⟩
  exact leads_refl ⟨id, w, m, update, hready, rfl⟩

end Notifier

end JobHerald
