import JobHerald.Proofs.Notifier.Resolved

/-!
# Records that are missing

A look-up may succeed and answer nothing.  Whatever is missing, a changed schema is announced
or abandoned, and so is a job event, unless what is missing is the workspace of the job: it is
named for the log outside of any attempt, and to name nothing is a failure.

## Main definitions

* `Action.IsAbandoned`, `Action.BreaksOff` — runs that end after look-ups, with one log entry
  and without any.
* `Repository.hollow` — a repository that names a workspace, and has no records.

## Main results

* `Notifier.breaksOff_notifyJob` — a job event breaks off if the workspace of the job is missing.
* `Notifier.isAbandoned_notifySchemaChange` — a changed schema is abandoned if the workspace of
  its connection is missing.
* `Notifier.survives_missing_records` — **no other missing record makes a notification fail.**
-/

namespace JobHerald

open JobHerald.Action

/-! ### Runs that end early -/

namespace Action

variable {β : Type} {s : Surroundings}

/-- A run that ends without an answer: it leaves only look-ups and one log entry behind. -/
def IsAbandoned (x : Action (Option β)) (s : Surroundings) (w : World) : Prop :=
  ∃ (w' : World) (ls : List Lookup) (entry : Log.Entry), x s w = (.ok none, w') ∧
    w'.journal = w.journal ++ (ls.map .lookedUp ++ [.logged entry])

/-- A run that ends with a failure, and leaves only look-ups behind. -/
def BreaksOff (x : Action β) (s : Surroundings) (w : World) (e : Failure) : Prop :=
  ∃ (w' : World) (ls : List Lookup), x s w = (.error e, w') ∧
    w'.journal = w.journal ++ ls.map .lookedUp

theorem BreaksOff.not_neverFails {x : Action β} {w : World} {e : Failure}
    (h : x.BreaksOff s w e) : ¬ x.NeverFails := by
  intro hnever
  obtain ⟨w', ls, hrun, -⟩ := h
  obtain ⟨a, w'', ha⟩ := hnever s w
  rw [hrun] at ha
  cases ha

/-- Stages that cannot be passed end the run, with one entry and without an answer. -/
theorem Stops.isAbandoned {x : Action (Option β)} (h : x.Stops s) (b : Log.Binding) (w : World) :
    (within b x).IsAbandoned s w := by
  obtain ⟨ls, entry, hstop⟩ := h
  exact ⟨_, ls, entry, within_apply (hstop _), rfl⟩

/-- An action that asks and fails breaks off. -/
theorem Asks.breaksOff {x : Action β} {e : Failure} {ls : List Lookup}
    (h : x.Asks s (.error e) ls) (b : Log.Binding) (w : World) :
    (within b x).BreaksOff s w e :=
  ⟨_, ls, within_apply (h _), rfl⟩

end Action

/-! ### What is asked of a repository without records -/

namespace Repository

variable {s : Surroundings}

/-- Whatever is missing, asking for a connection comes to something. -/
theorem settles_metadata_anyway (r : Repository) (c : Uuid) :
    (r.metadata c).Settles s (fun _ => True) True := by
  refine (settles_lookUp fun _ _ => trivial).bind fun found _ => ?_
  refine ((reads_present "source_id" found).settles fun _ _ => trivial).bind fun k _ => ?_
  refine (settles_lookUp fun _ _ => trivial).bind fun source _ => ?_
  refine (settles_lookUp fun _ _ => trivial).bind fun destination _ => ?_
  refine (settles_lookUp fun _ _ => trivial).bind fun sourceDefinition _ => ?_
  refine (settles_lookUp fun _ _ => trivial).bind fun destinationDefinition _ => ?_
  exact settles_pure trivial

/-- A repository that names the same workspace for everything, and has no records. -/
def hollow (id : Uuid) : Repository where
  workspaceOfJob _ := .ok (some id)
  workspaceOfConnection _ := .ok (some id)
  workspace _ := .ok none
  connection _ := .ok none
  source _ := .ok none
  destination _ := .ok none
  sourceDefinition _ := .ok none
  destinationDefinition _ := .ok none

end Repository

namespace Notifier

variable (n : Notifier)

/-! ### Job events -/

theorem asks_workspaceForJob {s : Surroundings} {job : Job}
    (hm : n.repository.Misses (n.repository.workspaceOfJob job.id)) :
    ∃ ls, (n.workspaceForJob job).Asks s (.ok none) ls := by
  obtain ⟨id, howner, hnone⟩ := hm
  exact ⟨_, (asks_lookUp _ howner).bind (asks_lookUp _ hnone)⟩

/-- **A job event breaks off if the workspace of the job is missing**: the look-up counts as a
success, and then nothing is named. -/
theorem breaksOff_notifyJob {t : Trigger} {event : JobEvent} (ht : t.jobEvent? = some event)
    {job : Job} (hm : n.repository.Misses (n.repository.workspaceOfJob job.id))
    (attempts : List AttemptStats) (reason : Option String) (s : Surroundings) (w : World) :
    (n.notifyJob t job attempts none reason).BreaksOff s w (.nothingHas "workspace_id") := by
  obtain ⟨ls, hasks⟩ := n.asks_workspaceForJob (s := s) hm
  have hresolved : (n.resolveWorkspace job none).Asks s (.ok (some none)) ls := fun w =>
    bind_ok (attempt_ok Attempt.clean_nil (hasks w))
  have hevent : (n.notifyEvent event job attempts none reason).Asks s
      (.error (.nothingHas "workspace_id")) (ls ++ []) :=
    hresolved.bind (asks_fail _).bind_error
  rw [notifyJob, ht]
  exact hevent.breaksOff _ w

/-- A job event fails if and only if the workspace of the job is missing. -/
theorem neverFails_notifyJob_iff (t : Trigger) (job : Job) (attempts : List AttemptStats)
    (reason : Option String) :
    (n.notifyJob t job attempts none reason).NeverFails ↔
      ∀ event, t.jobEvent? = some event →
        ¬ n.repository.Misses (n.repository.workspaceOfJob job.id) := by
  constructor
  · intro h event ht hm
    exact (n.breaksOff_notifyJob ht hm attempts reason .busy .initial).not_neverFails h
  · exact fun hm => n.neverFails_notifyJob_of_not_misses t hm attempts none reason

theorem isAbandoned_notifyJob {t : Trigger} (ht : t.jobEvent? = none) (job : Job)
    (attempts : List AttemptStats) (reason : Option String) (s : Surroundings) (w : World) :
    (n.notifyJob t job attempts none reason).IsAbandoned s w := by
  rw [notifyJob, ht]
  exact Stops.isAbandoned ⟨[], _, fun w => bind_ok (log_apply ..)⟩ _ w

/-! ### Changed schemas -/

/-- Without the workspace there is nothing to announce. -/
theorem settles_schemaContext_of_misses {s : Surroundings} {c : Uuid}
    (hm : n.repository.Misses (n.repository.workspaceOfConnection c)) (diff : CatalogDiff)
    (breaking : Bool) :
    (n.schemaContext c diff breaking).Settles s (fun _ => False) True := by
  obtain ⟨id, howner, hnone⟩ := hm
  -- the look-up answers that there is no such workspace
  have hworkspace : (n.workspaceForConnection c).Settles s (· = (id, none)) True := by
    have hfound : (n.repository.findWorkspace id >>= fun found => pure (id, found)).Asks s
        (.ok (id, none)) _ := (asks_lookUp _ hnone).bind (asks_pure _)
    exact .inl ⟨_, _, rfl, (asks_lookUp _ howner).bind hfound⟩
  refine hworkspace.bind ?_
  rintro _ rfl
  refine (n.repository.settles_metadata_anyway c).bind fun m _ => ?_
  -- whatever the metadata are, the missing workspace is noticed after them
  exact .inr ⟨_, _, trivial, (asks_fail _).bind_error⟩

/-- **A changed schema is abandoned if the workspace of its connection is missing**: the look-up is
inside the attempt. -/
theorem isAbandoned_notifySchemaChange {c : Uuid}
    (hm : n.repository.Misses (n.repository.workspaceOfConnection c)) (diff : CatalogDiff)
    (breaking : Bool) (s : Surroundings) (w : World) :
    (n.notifySchemaChange c diff breaking).IsAbandoned s w := by
  have hleads : ∃ b body, n.notifySchemaChange c diff breaking = within b body ∧
      body.Leads s True fun _ => False :=
    ⟨_, _, rfl, (n.settles_schemaContext_of_misses hm diff breaking).stage Attempt.clean_nil
      (fun _ h => h.elim) fun r hnone => by rw [hnone]⟩
  obtain ⟨b, body, heq, ⟨-, hstops⟩ | ⟨_, hnever, -⟩⟩ := hleads
  · rw [heq]
    exact hstops.isAbandoned b w
  · exact hnever.elim

/-! ### Missing records -/

/-- **No missing record makes a notification fail, except for the workspace of a job.**  Changed
schemas never fail, and if their workspace is missing they are abandoned.  A job event fails
exactly if the workspace of the job is missing: then it breaks off after the look-ups. -/
theorem survives_missing_records (n : Notifier) :
    (∀ c diff breaking, (n.notifySchemaChange c diff breaking).NeverFails) ∧
    (∀ c diff breaking s w, n.repository.Misses (n.repository.workspaceOfConnection c) →
      (n.notifySchemaChange c diff breaking).IsAbandoned s w) ∧
    (∀ t job attempts reason, (n.notifyJob t job attempts none reason).NeverFails ↔
      ∀ event, t.jobEvent? = some event →
        ¬ n.repository.Misses (n.repository.workspaceOfJob job.id)) ∧
    (∀ t job attempts reason s w, t.jobEvent? = none →
      (n.notifyJob t job attempts none reason).IsAbandoned s w) ∧
    ∀ t event job attempts reason s w, t.jobEvent? = some event →
      n.repository.Misses (n.repository.workspaceOfJob job.id) →
      (n.notifyJob t job attempts none reason).BreaksOff s w (.nothingHas "workspace_id") :=
  ⟨n.neverFails_notifySchemaChange,
    fun _ diff breaking s w hm => n.isAbandoned_notifySchemaChange hm diff breaking s w,
    n.neverFails_notifyJob_iff,
    fun _ job attempts reason s w ht => n.isAbandoned_notifyJob ht job attempts reason s w,
    fun _ _ _ attempts reason s w ht hm => n.breaksOff_notifyJob ht hm attempts reason s w⟩

/-- A notifier whose repository has no records. -/
def unfounded : Notifier :=
  ⟨.hollow default, Analytics.logging,
    Dispatch.dispatcher ⟨none, Metrics.logging, Channel.create⟩, ⟨""⟩⟩

theorem misses_unfounded : unfounded.repository.Misses (.ok (some default)) := ⟨_, rfl, rfl⟩

theorem survives_missing_records_unfounded :
    unfounded.repository.Misses (unfounded.repository.workspaceOfConnection default) ∧
      unfounded.repository.Misses (unfounded.repository.workspaceOfJob failedJob.id) ∧
      Trigger.schemaChange.jobEvent? = none ∧ Trigger.failure.jobEvent? = some .failure ∧
      (unfounded.notifySchemaChange default ⟨[]⟩ true).IsAbandoned .busy .initial ∧
      (unfounded.notifyJob .schemaChange failedJob [] none none).IsAbandoned .busy .initial ∧
      (unfounded.notifyJob .failure failedJob [] none none).BreaksOff .busy .initial
        (.nothingHas "workspace_id") := by
  obtain ⟨-, hschema, -, hother, hevent⟩ := survives_missing_records unfounded
  exact ⟨misses_unfounded, misses_unfounded, rfl, rfl,
    hschema default ⟨[]⟩ true .busy .initial misses_unfounded,
    hother .schemaChange failedJob [] none .busy .initial rfl,
    hevent .failure .failure failedJob [] none .busy .initial rfl misses_unfounded⟩

/-- The failure of a job whose workspace is missing makes the notification fail, while a changed
schema of the same workspace is abandoned. -/
theorem missing_workspace_escapes :
    unfounded.repository.workspaceOfJob failedJob.id = .ok (some default) ∧
      unfounded.repository.workspace default = .ok none ∧
      (unfounded.failJob none failedJob [] .busy .initial).1
        = .error (.nothingHas "workspace_id") ∧
      (unfounded.notifySchemaChange default ⟨[]⟩ true .busy .initial).1 = .ok none := by
  obtain ⟨w, ls, hjob, -⟩ := unfounded.breaksOff_notifyJob (t := .failure) rfl
    misses_unfounded [] none .busy .initial
  obtain ⟨w', ls', entry, hschema, -⟩ := unfounded.isAbandoned_notifySchemaChange (c := default)
    misses_unfounded ⟨[]⟩ true .busy .initial
  exact ⟨rfl, rfl, congrArg Prod.fst hjob, congrArg Prod.fst hschema⟩

end Notifier

end JobHerald
