import JobHerald.Job.Notifier
import JobHerald.Proofs.Action.Pairing

/-!
# Two notifications at once

A notifier only reads the clock and asks its repository, and leaves the rest to its dispatcher and
its analytics.  If these do alike in two runs, so does the notifier.

## Main definitions

* `Pairing.Notifies` — a notifier whose dispatcher and analytics do.

## Main results

* `Pairing.Notifies.notifyJob`, `Pairing.Notifies.notifySchemaChange`,
  `Pairing.Notifies.notifyBreakingChange`, `Pairing.Notifies.sendsTest` — **all that such a
  notifier does, it does alike.**
* `Pairing.steady_analyticsLogging`, `Pairing.steady_analyticsCollector` — reports to the sinks
  for notifications.
-/

namespace JobHerald

open JobHerald.Action

namespace Pairing

variable {P : Pairing} {α β : Type}

/-! ### Steps -/

theorem steady_present (member : String) (a : Option α) : P.Steady (present member a) := by
  cases a with
  | some a => exact pairs_pure rfl
  | none => exact pairs_fail _

theorem steady_lookUp (l : Lookup) (answer : Except Failure α) :
    P.Steady (Repository.lookUp l answer) :=
  pairs_bind_eq (steady_record rfl) fun _ => steady_ofExcept answer

/-- The contexts of alike worlds may be any. -/
theorem Alike.recontext {w w' : World} (h : P.Alike w w') (context context' : Fields) :
    P.Alike { w with context } { w' with context := context' } where
  settings := by
    have hsettings := h.settings
    rwa [← settings_of_context P.left w context, ← settings_of_context P.right w' context']
      at hsettings
  journal := h.journal

/-- An action inside a dispatch. -/
theorem steady_within {b : Log.Binding} {x : Action α} (hx : P.Steady x) :
    P.Steady (within b x) := by
  intro w w' hw
  -- the contexts that the two runs enter may differ: entries are recorded without them
  obtain ⟨hsame, halike⟩ := hx _ _ (hw.recontext (Log.enter w.context (b.fields P.left.fresh))
    (Log.enter w'.context (b.fields P.right.fresh)))
  exact ⟨hsame, halike.recontext _ _⟩

/-- What is known about a connection is asked from the repository. -/
theorem steady_metadata (r : Repository) (connection : Uuid) :
    P.Steady (r.metadata connection) := by
  refine pairs_bind_eq (steady_lookUp _ _) fun found => ?_
  refine pairs_bind_eq (steady_present _ found) fun c => ?_
  refine pairs_bind_eq (steady_lookUp _ _) fun source => ?_
  refine pairs_bind_eq (steady_lookUp _ _) fun destination => ?_
  refine pairs_bind_eq (steady_lookUp _ _) fun sourceDefinition => ?_
  exact pairs_bind_eq (steady_lookUp _ _) fun destinationDefinition => pairs_pure rfl

/-! ### Notifiers -/

/-- A notifier whose dispatcher and analytics do alike in both runs. -/
structure Notifies (P : Pairing) (n : Notifier) : Prop where
  /-- Analytics are told alike. -/
  analytics : ∀ workspace action fs, P.Steady (n.analytics workspace action fs)
  /-- Notices are dispatched alike. -/
  dispatch : ∀ t b notice receiver, P.Steady (n.dispatcher.dispatch t b notice receiver)
  /-- Notices are delivered alike through one channel. -/
  deliver : ∀ kind config notice, P.Steady (n.dispatcher.deliver kind config notice)
  /-- Tests are sent alike. -/
  sendTest : ∀ b message, P.Steady (n.dispatcher.sendTest b message)

section Stages

variable (n : Notifier) (job : Job) (w : Workspace) (m : Metadata) (reason : Option String)

theorem steady_workspaceForJob : P.Steady (n.workspaceForJob job) := by
  refine pairs_bind_eq (steady_lookUp _ _) fun found => ?_
  cases found with
  | none => exact pairs_fail _
  | some id => exact steady_lookUp _ _

theorem steady_resolveWorkspace (known : Option Workspace) :
    P.Steady (n.resolveWorkspace job known) := by
  cases known with
  | some w => exact pairs_pure rfl
  | none =>
    exact pairs_bind_eq (pairs_attempt_eq Attempt.clean_nil (steady_workspaceForJob n job))
      fun r => pairs_pure rfl

theorem steady_metadataForJob : P.Steady (n.metadataForJob job) :=
  pairs_bind_eq (steady_ofExcept _) fun connection => steady_metadata _ connection

theorem steady_summary (attempts : List AttemptStats) :
    P.Steady (n.summary job attempts w m reason) := by
  refine pairs_bind_eq (steady_present _ _) fun source => ?_
  exact pairs_bind_eq (steady_present _ _) fun destination => steady_ofExcept _

/-- The event of a connection is described at the time that the clock shows. -/
theorem steady_connectionEvent : P.Steady (Notifier.connectionEvent job w m reason) := by
  refine pairs_bind_eq (steady_present _ _) fun source => ?_
  refine pairs_bind_eq (steady_present _ _) fun destination => ?_
  have hsurroundings : P.Pairs (fun s s' => s'.clock = s.clock) surroundings surroundings :=
    fun _ _ hw => ⟨.ok P.clock, hw⟩
  refine pairs_bind hsurroundings fun s s' hclock => ?_
  rw [hclock]
  refine pairs_bind_eq (steady_ofExcept _) fun description => ?_
  exact pairs_bind_eq (steady_ofExcept _) fun connection => pairs_pure rfl

theorem steady_jobNotice (event : JobEvent) (attempts : List AttemptStats) :
    P.Steady (n.jobNotice event job attempts w m reason) := by
  cases event with
  | failure => exact pairs_bind_eq (steady_summary n job w m reason _) fun s => pairs_pure rfl
  | success => exact pairs_bind_eq (steady_summary n job w m reason _) fun s => pairs_pure rfl
  | disabled => exact pairs_bind_eq (steady_connectionEvent job w m reason) fun s => pairs_pure rfl
  | disableWarning =>
    exact pairs_bind_eq (steady_connectionEvent job w m reason) fun s => pairs_pure rfl

theorem steady_bindingFor (t : Trigger) : P.Steady (Notifier.bindingFor w t) := by
  rw [Notifier.bindingFor]
  cases w.policy with
  | some p => exact pairs_pure rfl
  | none => exact pairs_log_bind (pairs_pure rfl)

theorem steady_jobAttributes : P.Steady (Notifier.jobAttributes job m) := by
  refine pairs_bind_eq (steady_present _ _) fun source => ?_
  exact pairs_bind_eq (steady_present _ _) fun destination => pairs_pure rfl

theorem steady_schemaContext (connection : Uuid) (diff : CatalogDiff) (breaking : Bool) :
    P.Steady (n.schemaContext connection diff breaking) := by
  -- a connection without an owner fails on both sides
  have hworkspace : P.Steady (n.workspaceForConnection connection) := by
    refine pairs_bind_eq (steady_lookUp _ _) fun found => ?_
    cases found with
    | none => exact pairs_fail _
    | some id => exact pairs_bind_eq (steady_lookUp _ _) fun w => pairs_pure rfl
  refine pairs_bind_eq hworkspace fun found => ?_
  refine pairs_bind_eq (steady_metadata _ connection) fun m => ?_
  refine pairs_bind_eq (steady_present _ _) fun w => ?_
  exact pairs_bind_eq (steady_present _ _) fun source => pairs_pure rfl

end Stages

namespace Notifies

variable {n : Notifier} (h : P.Notifies n)

include h

theorem dispatchFor (w : Workspace) (t : Trigger) (notice : Notice) :
    P.Steady (n.dispatchFor w t notice) := by
  have hdispatch : P.Steady (do
      let binding ← Notifier.bindingFor w t
      n.dispatcher.dispatch t binding notice (Notifier.receiverOf w)) :=
    pairs_bind_eq (steady_bindingFor w t) fun binding => h.dispatch _ _ _ _
  exact pairs_bind_eq (pairs_attempt_eq Attempt.clean_nil hdispatch) fun r => pairs_pure rfl

theorem track (w : Workspace) (t : Trigger) (r : DispatchReport) (connection : Uuid)
    {attributes : Action Fields} (hattributes : P.Steady attributes) :
    P.Steady (n.track w t r connection attributes) := by
  rw [Notifier.track]
  split
  · exact pairs_pure rfl
  · have htell : P.Steady (do
        let base ← attributes
        n.analytics w.id t.word (base ++ Tracking.notification connection r)) :=
      pairs_bind_eq hattributes fun base => h.analytics _ _ _
    exact pairs_bind_eq (pairs_attempt_eq Attempt.clean_nil htell) fun r => pairs_pure rfl

theorem publish (w : Workspace) (t : Trigger) (notice : Notice) {connection : Action Uuid}
    {attributes : Action Fields} (hconnection : P.Steady connection)
    (hattributes : P.Steady attributes) :
    P.Steady (n.publish w t notice connection attributes) := by
  refine pairs_bind_eq (h.dispatchFor w t notice) fun found => ?_
  cases found with
  | none => exact pairs_pure rfl
  | some report =>
    refine pairs_bind_eq hconnection fun id => ?_
    exact pairs_bind_eq (h.track w t report id hattributes) fun _ => pairs_pure rfl

theorem announceJob (event : JobEvent) (job : Job) (attempts : List AttemptStats) (w : Workspace)
    (m : Metadata) (reason : Option String) :
    P.Steady (n.announceJob event job attempts w m reason) := by
  refine pairs_bind_eq (pairs_attempt_eq Attempt.clean_nil
    (steady_jobNotice n job w m reason event attempts)) fun built => ?_
  cases built.value? with
  | none => exact pairs_pure rfl
  | some notice => exact h.publish w _ notice (steady_ofExcept _) (steady_jobAttributes job m)

theorem notifyWorkspace (event : JobEvent) (job : Job) (attempts : List AttemptStats)
    (w : Workspace) (reason : Option String) :
    P.Steady (n.notifyWorkspace event job attempts w reason) := by
  refine pairs_bind_eq (pairs_attempt_eq (Attempt.clean_cons.mpr ⟨by decide, Attempt.clean_nil⟩)
    (steady_metadataForJob n job)) fun resolved => ?_
  cases resolved.value? with
  | none => exact pairs_pure rfl
  | some m => exact h.announceJob event job attempts w m reason

/-- A job event is notified alike. -/
theorem notifyJob (t : Trigger) (job : Job) (attempts : List AttemptStats)
    (workspace : Option Workspace) (reason : Option String) :
    P.Steady (n.notifyJob t job attempts workspace reason) := by
  refine steady_within ?_
  cases t.jobEvent? with
  -- a trigger of another sort is only logged
  | none => exact pairs_log_bind (pairs_pure rfl)
  | some event =>
    refine pairs_bind_eq (steady_resolveWorkspace n job workspace) fun resolved => ?_
    cases resolved with
    | none => exact pairs_pure rfl
    | some found =>
      exact pairs_bind_eq (steady_present _ found) fun w =>
        h.notifyWorkspace event job attempts w reason

/-- A changed schema is notified alike. -/
theorem notifySchemaChange (connection : Uuid) (diff : CatalogDiff) (breaking : Bool) :
    P.Steady (n.notifySchemaChange connection diff breaking) := by
  refine steady_within (pairs_bind_eq (pairs_attempt_eq Attempt.clean_nil
    (steady_schemaContext n connection diff breaking)) fun resolved => ?_)
  cases resolved.value? with
  | none => exact pairs_pure rfl
  | some found =>
    have hattributes : P.Steady (Notifier.schemaAttributes breaking found.2.1) :=
      pairs_bind_eq (steady_present _ _) fun source => pairs_pure rfl
    exact h.publish found.1 _ _ (pairs_pure rfl) hattributes

/-- A breaking change is notified alike. -/
theorem notifyBreakingChange (change : BreakingChange) (syncsDisabled : Bool) :
    P.Steady (n.notifyBreakingChange change syncsDisabled) := by
  refine steady_within (pairs_bind_eq (pairs_attempt_eq Attempt.clean_nil (h.deliver _ _ _))
    fun r => ?_)
  cases r.value? with
  | none => exact pairs_pure rfl
  | some a => exact pairs_pure rfl

/-- A test is sent alike. -/
theorem sendsTest (binding : ChannelBinding) (message : String) :
    P.Steady (n.sendTest binding message) :=
  steady_within (pairs_bind_eq (pairs_attempt_eq Attempt.clean_nil (h.sendTest binding message))
    fun _ => pairs_log_bind (pairs_pure rfl))

end Notifies

/-! ### The sinks for notifications -/

/-- Reports into the log. -/
theorem steady_analyticsLogging (workspace : Uuid) (action : String) (fs : Fields) :
    P.Steady (Analytics.logging workspace action fs) := by
  rcases Analytics.logging_cases workspace action fs with ⟨e, h⟩ | ⟨l, event, fs', h⟩
  · exact h ▸ pairs_fail e
  · exact h ▸ steady_log l event fs'

/-- Reports to a collector, which counts the reports before. -/
theorem steady_analyticsCollector (fault : Nat → Option Failure) (workspace : Uuid)
    (action : String) (fs : Fields) :
    P.Steady (Analytics.collector fault workspace action fs) :=
  steady_kept (Analytics.collector_apply fault workspace action fs) (fun _ => rfl) rfl

end Pairing

end JobHerald
