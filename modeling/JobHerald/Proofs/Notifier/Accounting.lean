import Mathlib.Tactic.Choose
import JobHerald.Proofs.Notifier.Abandonment

/-!
# What analytics are told

A notification tells analytics of one event if some channel did something, and of nothing
otherwise.  Everything else has been done before: what comes out, and the event itself, do not
depend on who is told, and what becomes of the call is only seen in the log.

## Main definitions

* `Analytics.Call`, `Analytics.tell` — an event for analytics, and telling it.
* `Action.Accounts` — a notification whose last step is to tell analytics what is due.
* `Action.TellsOnce` — the same, of one run.
* `Notifier.Reports`, `Notifier.Due` — the event of a report, and what is due for an answer.

## Main results

* `Action.Accounts.bind` — steps before the last one may do anything.
* `Notifier.accounts_publish` — a notice that is published tells what is due.
* `Notifier.analytics_told_once` — **analytics are told once of each notification that fired.**
-/

namespace JobHerald

open JobHerald.Action

/-! ### Events for analytics -/

/-- An event that analytics are told of. -/
structure Analytics.Call where
  /-- The workspace. -/
  workspace : Uuid
  /-- The action. -/
  action : String
  /-- Its attributes. -/
  attributes : Fields

/-- Analytics are told of an event, if there is one; their failure is logged. -/
def Analytics.tell (k : Analytics) : Option Analytics.Call → Action Unit
  | none => pure ()
  | some call => do
      let _ ← attempt (k call.workspace call.action call.attributes)
        "notification_tracking_failed" []

theorem Analytics.neverFails_tell (k : Analytics) (call : Option Analytics.Call) :
    (k.tell call).NeverFails := by
  cases call with
  | none => exact neverFails_pure ()
  | some call =>
    exact neverFails_bind (neverFails_attempt Attempt.clean_nil) fun _ _ => neverFails_pure ()

namespace Action

variable {α : Type} {due : Option DispatchReport → Option Analytics.Call → Prop}

/-- The last step of a notification: analytics are told, and the report is answered. -/
def finish (k : Analytics) (told : Option DispatchReport × Option Analytics.Call) :
    Action (Option DispatchReport) := do
  k.tell told.2
  return told.1

/-- A notification, given the analytics it tells, whose last step is to tell them.  The steps
before come to a report and an event that are due, and do not know who is told. -/
def Accounts (x : Analytics → Action (Option DispatchReport))
    (due : Option DispatchReport → Option Analytics.Call → Prop) : Prop :=
  ∃ core : Action (Option DispatchReport × Option Analytics.Call),
    (∀ k, x k = core >>= finish k) ∧ ∀ told, core.CanReturn told → due told.1 told.2

theorem accounts_finish {report : Option DispatchReport} {call : Option Analytics.Call}
    (h : due report call) : Accounts (fun k => finish k (report, call)) due := by
  refine ⟨pure (report, call), fun k => (pure_bind _ _).symm, fun told htold => ?_⟩
  rw [← canReturn_pure htold]
  exact h

theorem accounts_none (h : due none none) : Accounts (fun _ => pure none) due :=
  accounts_finish h

/-- The steps before the last one may do anything, as long as what follows them accounts. -/
theorem Accounts.bind {x : Action α} {f : α → Analytics → Action (Option DispatchReport)}
    (h : ∀ a, x.CanReturn a → Accounts (f a) due) :
    Accounts (fun k => x >>= fun a => f a k) due := by
  classical
  choose core hcore using h
  -- a value that is never returned leads nowhere
  refine ⟨x >>= fun a => if ha : x.CanReturn a then core a ha else fail .longInteger,
    fun k => ?_, fun told htold => ?_⟩
  · show (x >>= fun a => f a k) = _
    funext s w
    cases hx : x s w with
    | mk r w' =>
      cases r with
      | error e => rw [Action.bind_error hx, Action.bind_error (Action.bind_error hx)]
      | ok a =>
        have ha : x.CanReturn a := ⟨s, w, w', hx⟩
        rw [bind_ok hx, bind_assoc, bind_ok hx, dif_pos ha, (hcore a ha).1 k]
  · obtain ⟨a, ha, htold⟩ := canReturn_bind htold
    rw [dif_pos ha] at htold
    exact (hcore a ha).2 told htold

/-- A run that tells analytics of what is due, once or not at all, after it has done everything
else.  The answer, the event and the world in which it is told are the same whoever is told, and
whatever becomes of it; afterwards only the context is given back. -/
def TellsOnce (x : Analytics → Action (Option DispatchReport)) (s : Surroundings) (w : World)
    (due : Option DispatchReport → Option Analytics.Call → Prop) : Prop :=
  ∃ answer call w₁ saved, due answer call ∧
    ∀ k : Analytics, ∃ w₂, k.tell call s w₁ = (.ok (), w₂) ∧
      x k s w = (.ok answer, { w₂ with context := Log.leave w₂.context saved })

theorem Accounts.tellsOnce {x : Analytics → Action (Option DispatchReport)} {b : Log.Binding}
    (h : Accounts x due) (hnever : ∀ k, (within b (x k)).NeverFails) (s : Surroundings)
    (w : World) : TellsOnce (fun k => within b (x k)) s w due := by
  obtain ⟨core, hcore, hdue⟩ := h
  have hrun : ∀ k, x k s { w with context := Log.enter w.context (b.fields s.fresh) }
      = (core >>= finish k) s { w with context := Log.enter w.context (b.fields s.fresh) } :=
    fun k => by rw [hcore k]
  cases hsteps : core s { w with context := Log.enter w.context (b.fields s.fresh) } with
  | mk r w₁ =>
    cases r with
    | error e =>
      -- then the notification would fail
      obtain ⟨answer, w', hanswer⟩ := hnever (fun _ _ _ => pure ()) s w
      rw [within_apply ((hrun _).trans (Action.bind_error hsteps))] at hanswer
      cases hanswer
    | ok told =>
      refine ⟨told.1, told.2, w₁, Log.save w.context (b.fields s.fresh),
        hdue told ⟨_, _, _, hsteps⟩, fun k => ?_⟩
      obtain ⟨u, w₂, htell⟩ := k.neverFails_tell told.2 s w₁
      have hfinish : finish k told s w₁ = (.ok told.1, w₂) := bind_ok htell
      exact ⟨w₂, htell, within_apply ((hrun k).trans ((bind_ok hsteps).trans hfinish))⟩

end Action

/-! ### Attributes -/

/-- Attributes that leave the names alone under which the channels are told. -/
def Tracking.Apart (fs : Fields) : Prop :=
  "notification_types" ∉ fs.names ∧ "notification_type" ∉ fs.names

namespace Tracking

theorem apart_append {fs gs : Fields} (hf : Apart fs) (hg : Apart gs) : Apart (fs ++ gs) := by
  have hnames : Fields.names (fs ++ gs) = fs.names ++ gs.names := List.map_append
  constructor
  · rw [hnames, List.mem_append]
    exact not_or.mpr ⟨hf.1, hg.1⟩
  · rw [hnames, List.mem_append]
    exact not_or.mpr ⟨hf.2, hg.2⟩

theorem apart_job (j : Job) : Apart (job j) := by
  unfold job
  split <;> simp [Apart, Fields.names]

theorem apart_sourceDefinition (d : ConnectorDefinition) : Apart (sourceDefinition d) := by
  have hnames : Fields.names (sourceDefinition d) = ["connector_source",
      "connector_source_definition_id", "connector_source_docker_repository",
      "connector_source_version"] := rfl
  rw [Apart, hnames]
  decide

theorem apart_destinationDefinition (d : ConnectorDefinition) :
    Apart (destinationDefinition d) := by
  have hnames : Fields.names (destinationDefinition d) = ["connector_destination",
      "connector_destination_definition_id", "connector_destination_docker_repository",
      "connector_destination_version"] := rfl
  rw [Apart, hnames]
  decide

end Tracking

/-! ### What is due -/

namespace Notifier

/-- The event of a report: it names the workspace and the trigger, and tells which channels did
something, in the order of the binding. -/
structure Reports (w : Workspace) (t : Trigger) (r : DispatchReport) (call : Analytics.Call) :
    Prop where
  /-- The workspace is the one that was notified. -/
  workspace : call.workspace = w.id
  /-- The action is the trigger. -/
  action : call.action = t.word
  /-- The attempts are in the order of the binding. -/
  order : ∃ b, (w.policy.bind fun p => p.bindingFor t) = some b ∧
    r.attempts.map (·.kind) = b.kinds.map some
  /-- The labels of the channels that did something are told. -/
  labels : Fields.get? "notification_types" call.attributes = some (.arr (r.labels.map .str))
  /-- The last of them is told apart. -/
  last : ∃ label, r.labels.getLast? = some label ∧
    Fields.get? "notification_type" call.attributes = some (.str label)

/-- What is due for an answer: nothing without a report or if all channels were skipped, and an
event if some channel delivered or failed. -/
inductive Due (owner : Workspace → Prop) (t : Trigger) :
    Option DispatchReport → Option Analytics.Call → Prop
  /-- The notification was abandoned. -/
  | abandoned : Due owner t none none
  /-- All channels were skipped. -/
  | skipped {r : DispatchReport} (h : ∀ a ∈ r.attempts, a.outcome = .skipped) :
    Due owner t (some r) none
  /-- Some channel delivered or failed. -/
  | fired {r : DispatchReport} {w : Workspace} {call : Analytics.Call} (hw : owner w)
    (h : ∃ a ∈ r.attempts, a.outcome = .delivered ∨ a.outcome = .failed)
    (hcall : Reports w t r call) : Due owner t (some r) (some call)

/-! ### Notices that are dispatched -/

variable {n : Notifier} {d : Dispatch}

/-- The same notifier with others that it tells. -/
def reporting (n : Notifier) (k : Analytics) : Notifier := { n with analytics := k }

theorem canReturn_bindingFor {w : Workspace} {t : Trigger} {b : Option ChannelBinding}
    (h : (bindingFor w t).CanReturn b) : b = w.policy.bind fun p => p.bindingFor t := by
  rw [bindingFor] at h
  cases hpolicy : w.policy with
  | some p =>
    rw [hpolicy] at h
    exact (canReturn_pure h).symm
  | none =>
    rw [hpolicy] at h
    obtain ⟨u, -, h⟩ := canReturn_bind h
    exact (canReturn_pure h).symm

theorem canReturn_dispatchFor (hd : n.dispatcher = d.dispatcher) {w : Workspace} {t : Trigger}
    {notice : Notice} {r : DispatchReport} (h : (n.dispatchFor w t notice).CanReturn (some r)) :
    (d.dispatch t (w.policy.bind fun p => p.bindingFor t) notice (receiverOf w)).CanReturn r := by
  obtain ⟨result, hresult, h⟩ := canReturn_bind h
  have hreport := canReturn_of_attempt Attempt.clean_nil hresult (canReturn_pure h)
  obtain ⟨b, hb, hreport⟩ := canReturn_bind hreport
  rw [canReturn_bindingFor hb, hd] at hreport
  exact hreport

/-- What a job event is told with can be had, since the connectors are there. -/
theorem jobAttributes_eq (hr : n.repository.Sound) {c : Uuid} {m : Metadata}
    (hm : n.repository.Knows c m) (job : Job) :
    ∃ base, jobAttributes job m = pure base ∧ Tracking.Apart base := by
  obtain ⟨source, hsource⟩ := hm.sourceDefinition_eq_some hr
  obtain ⟨destination, hdestination⟩ := hm.destinationDefinition_eq_some hr
  refine ⟨_, by rw [jobAttributes, hsource, hdestination]; rfl, ?_⟩
  exact Tracking.apart_append (Tracking.apart_append (Tracking.apart_job job)
    (Tracking.apart_sourceDefinition source)) (Tracking.apart_destinationDefinition destination)

theorem schemaAttributes_eq (hr : n.repository.Sound) {c : Uuid} {m : Metadata}
    (hm : n.repository.Knows c m) (breaking : Bool) :
    ∃ base, schemaAttributes breaking m = pure base ∧ Tracking.Apart base := by
  obtain ⟨source, hsource⟩ := hm.sourceDefinition_eq_some hr
  refine ⟨_, by rw [schemaAttributes, hsource]; rfl, ?_⟩
  have hbreaking : Tracking.Apart [("is_breaking_change", .bool breaking)] := by
    simp [Tracking.Apart, Fields.names]
  exact Tracking.apart_append hbreaking (Tracking.apart_sourceDefinition source)

/-! ### Publishing -/

/-- The event of a report, with attributes of its own. -/
def callFor (w : Workspace) (t : Trigger) (r : DispatchReport) (c : Uuid) (base : Fields) :
    Analytics.Call :=
  ⟨w.id, t.word, base ++ Tracking.notification c r⟩

/-- Tracking tells analytics of the event of a report, unless nothing fired. -/
theorem track_reporting (n : Notifier) (k : Analytics) (w : Workspace) (t : Trigger)
    (r : DispatchReport) (c : Uuid) (base : Fields) :
    (n.reporting k).track w t r c (pure base)
      = k.tell (if r.fired.isEmpty then none else some (callFor w t r c base)) := by
  unfold track
  split <;> rfl

theorem reports_callFor {w : Workspace} {t : Trigger} {r : DispatchReport} {c : Uuid}
    {base : Fields} (hbase : Tracking.Apart base)
    (horder : ∃ b, (w.policy.bind fun p => p.bindingFor t) = some b ∧
      r.attempts.map (·.kind) = b.kinds.map some) (hfired : r.fired ≠ []) :
    Reports w t r (callFor w t r c base) where
  workspace := rfl
  action := rfl
  order := horder
  labels := by
    rw [callFor, Fields.get?_append, Fields.get?_eq_none_iff.mpr hbase.1, r.labels_eq]
    simp [Tracking.notification, Fields.get?]
  last := by
    -- an attempt has fired, so that there is a last label
    have hlabels : r.fired.map Tracking.labelOf ≠ [] := fun h => hfired (List.map_eq_nil_iff.mp h)
    have hlast := List.getLast?_eq_some_getLast hlabels
    refine ⟨_, by rw [r.labels_eq, hlast], ?_⟩
    rw [callFor, Fields.get?_append, Fields.get?_eq_none_iff.mpr hbase.2, Tracking.notification,
      hlast]
    simp [Fields.get?]

/-- A notice that is published tells what is due: analytics are told once if an attempt has fired,
and otherwise not at all. -/
theorem accounts_publish (hd : n.dispatcher = d.dispatcher) {owner : Workspace → Prop}
    {w : Workspace} (hw : owner w) (t : Trigger) (notice : Notice) (c : Uuid) {base : Fields}
    (hbase : Tracking.Apart base) :
    Accounts (fun k => (n.reporting k).publish w t notice (pure c) (pure base)) (Due owner t) := by
  refine Accounts.bind (x := n.dispatchFor w t notice) fun answer hanswer => ?_
  cases answer with
  | none => exact accounts_none .abandoned
  | some r =>
    have hfinish : (fun k => (n.reporting k).track w t r c (pure base) >>= fun _ => pure (some r))
        = fun k => finish k (some r,
          if r.fired.isEmpty then none else some (callFor w t r c base)) := by
      funext k
      rw [track_reporting]
      rfl
    show Accounts (fun k => (n.reporting k).track w t r c (pure base) >>= fun _ => pure (some r)) _
    rw [hfinish]
    refine accounts_finish ?_
    by_cases hfired : r.fired = []
    · rw [if_pos (List.isEmpty_iff.mpr hfired)]
      refine .skipped fun a ha => ?_
      have hquiet := List.filter_eq_nil_iff.mp hfired a ha
      simpa [ChannelAttempt.isFired] using hquiet
    · have hnonempty : ¬ r.fired.isEmpty = true := fun h => hfired (List.isEmpty_iff.mp h)
      rw [if_neg hnonempty]
      obtain ⟨a, ha⟩ := List.exists_mem_of_ne_nil _ hfired
      obtain ⟨ha, houtcome⟩ := List.mem_filter.mp ha
      rcases Dispatch.canReturn_dispatch (canReturn_dispatchFor hd hanswer) with
        ⟨b, hb, -, hdeliveries⟩ | hunbound
      · have horder := Dispatch.kinds_of_deliveries hdeliveries
        refine .fired hw ⟨a, ha, ?_⟩ (reports_callFor hbase ⟨b, hb, horder⟩ hfired)
        cases ho : a.outcome with
        | delivered => exact .inl rfl
        | failed => exact .inr rfl
        | skipped => simp [ChannelAttempt.isFired, ho] at houtcome
      · -- without a binding, the only attempt is a skipped one
        rw [hunbound, List.mem_singleton] at ha
        rw [ha] at houtcome
        cases houtcome

/-! ### Job events -/

section Events

variable {event : JobEvent} {job : Job} {attempts : List AttemptStats} {known : Option Workspace}
  {reason : Option String} {w : Workspace}

theorem accounts_notifyWorkspace (hd : n.dispatcher = d.dispatcher) (hr : n.repository.Sound)
    (hw : n.Finds job known w) :
    Accounts (fun k => (n.reporting k).notifyWorkspace event job attempts w reason)
      (Due (n.Finds job known) event.trigger) := by
  refine Accounts.bind (x := attempt (n.metadataForJob job) "notification_metadata_lookup_failed"
    [("workspace_id", .str w.id.render)]) fun resolved hresolved => ?_
  cases hvalue : resolved.value? with
  | none => exact accounts_none .abandoned
  | some m =>
    have hreturned := canReturn_of_attempt (clean_workspace w.id) hresolved hvalue
    have hsettles : ∀ s, (n.metadataForJob job).Settles s
        (fun m => ∃ c, job.connectionId = .ok c ∧ n.repository.Knows c m)
        (n.Abandons s event job attempts known reason) := fun s => settles_metadataForJob hr
    obtain ⟨c, hc, hm⟩ := Settles.of_canReturn hsettles hreturned
    refine Accounts.bind (x := attempt (n.jobNotice event job attempts w m reason)
      "notification_build_failed" []) fun built _ => ?_
    cases built.value? with
    | none => exact accounts_none .abandoned
    | some notice =>
      obtain ⟨base, hattributes, hbase⟩ := jobAttributes_eq hr hm job
      have hpublish := accounts_publish hd hw event.trigger notice c hbase
      -- the announcement reads the identifier of the connection again, and reads the same
      have hconnection : ofExcept (job.connectionId.mapError Failure.identifier) = pure c := by
        rw [hc]
        rfl
      rw [← hconnection, ← hattributes] at hpublish
      exact hpublish

theorem accounts_notifyEvent (hd : n.dispatcher = d.dispatcher) (hr : n.repository.Sound) :
    Accounts (fun k => (n.reporting k).notifyEvent event job attempts known reason)
      (Due (n.Finds job known) event.trigger) := by
  cases known with
  | some w =>
    simp only [notifyEvent_known]
    exact accounts_notifyWorkspace hd hr (.known w)
  | none =>
    refine Accounts.bind (x := n.resolveWorkspace job none) fun found hfound => ?_
    cases found with
    | none => exact accounts_none .abandoned
    | some found =>
      obtain ⟨r, hattempt, hvalue⟩ := canReturn_bind hfound
      have hreturned := canReturn_of_attempt Attempt.clean_nil hattempt (canReturn_pure hvalue)
      -- a sound repository answers with a workspace, not with none
      obtain ⟨w, rfl, hw⟩ := Settles.of_canReturn (fun s => settles_workspaceForJob hr job)
        hreturned
      show Accounts (fun k => present "workspace_id" (some w) >>= fun w =>
        (n.reporting k).notifyWorkspace event job attempts w reason) _
      simp only [present_some, pure_bind]
      exact accounts_notifyWorkspace hd hr hw

end Events

theorem notifyJob_tellsOnce (n : Notifier) (hd : n.dispatcher = d.dispatcher)
    (hr : n.repository.Sound) (t : Trigger) (job : Job) (attempts : List AttemptStats)
    (known : Option Workspace) (reason : Option String) (s : Surroundings) (w : World) :
    TellsOnce (fun k => (n.reporting k).notifyJob t job attempts known reason) s w
      (Due (n.Finds job known) t) := by
  have hnever : ∀ k, ((n.reporting k).notifyJob t job attempts known reason).NeverFails :=
    fun k => (n.reporting k).neverFails_notifyJob hr t job attempts known reason
  refine Accounts.tellsOnce ?_ hnever s w
  cases ht : t.jobEvent? with
  -- a trigger of another sort is abandoned
  | none =>
    exact Accounts.bind (x := log .warning "job_notification_unsupported_trigger" []) fun _ _ =>
      accounts_none .abandoned
  | some event =>
    have htrigger : event.trigger = t := by
      cases t <;> cases ht <;> rfl
    have hevent : Accounts (fun k => (n.reporting k).notifyEvent event job attempts known reason)
        (Due (n.Finds job known) event.trigger) := accounts_notifyEvent hd hr
    rw [htrigger] at hevent
    exact hevent

/-! ### Changed schemas -/

/-- The workspace that owns a connection. -/
def Owns (n : Notifier) (c : Uuid) (w : Workspace) : Prop :=
  ∃ id, n.repository.workspaceOfConnection c = .ok (some id) ∧
    n.repository.workspace id = .ok (some w)

theorem notifySchemaChange_tellsOnce (n : Notifier) (hd : n.dispatcher = d.dispatcher)
    (hr : n.repository.Sound) (c : Uuid) (diff : CatalogDiff) (breaking : Bool)
    (s : Surroundings) (w : World) :
    TellsOnce (fun k => (n.reporting k).notifySchemaChange c diff breaking) s w
      (Due (n.Owns c) .schemaChange) := by
  have hnever : ∀ k, ((n.reporting k).notifySchemaChange c diff breaking).NeverFails :=
    fun k => (n.reporting k).neverFails_notifySchemaChange c diff breaking
  refine Accounts.tellsOnce ?_ hnever s w
  refine Accounts.bind (x := attempt (n.schemaContext c diff breaking)
    "notification_metadata_lookup_failed" []) fun resolved hresolved => ?_
  cases hvalue : resolved.value? with
  | none => exact accounts_none .abandoned
  | some context =>
    have hreturned := canReturn_of_attempt Attempt.clean_nil hresolved hvalue
    obtain ⟨id, hready⟩ := Settles.of_canReturn
      (fun s => settles_schemaContext hr c diff breaking) hreturned
    obtain ⟨base, hattributes, hbase⟩ := schemaAttributes_eq hr hready.metadata breaking
    -- the workspace of the context owns the connection
    have howns : n.Owns c context.1 := ⟨id, hready.owner, hready.workspace⟩
    have hpublish := accounts_publish hd howns .schemaChange
      (.schemaPropagated diff.summary context.2.2) c hbase
    rw [← hattributes] at hpublish
    exact hpublish

/-- **Analytics are told once of each notification that fired**, of nothing else, and after
everything else.  The event names the workspace that was found and the trigger, and tells the labels
of the channels that delivered or failed, in the order of the binding. -/
theorem analytics_told_once (n : Notifier) (d : Dispatch) (hd : n.dispatcher = d.dispatcher)
    (hr : n.repository.Sound) :
    (∀ t job attempts known reason s w,
      TellsOnce (fun k => (n.reporting k).notifyJob t job attempts known reason) s w
        (Due (n.Finds job known) t)) ∧
    ∀ c diff breaking s w,
      TellsOnce (fun k => (n.reporting k).notifySchemaChange c diff breaking) s w
        (Due (n.Owns c) .schemaChange) :=
  ⟨notifyJob_tellsOnce n hd hr, notifySchemaChange_tellsOnce n hd hr⟩

end Notifier

/-- A repository that knows one workspace, in which everything has the same name. -/
def Repository.knowing (w : Workspace) (name : String) : Repository where
  workspaceOfJob _ := .ok (some w.id)
  workspaceOfConnection _ := .ok (some w.id)
  workspace _ := .ok (some w)
  connection id := .ok (some ⟨id, name, default, default⟩)
  source id := .ok (some ⟨id, name, none⟩)
  destination id := .ok (some ⟨id, name, none⟩)
  sourceDefinition _ := .ok (some ⟨default, name, "", ""⟩)
  destinationDefinition _ := .ok (some ⟨default, name, "", ""⟩)

theorem Repository.sound_knowing (w : Workspace) (name : String) : (knowing w name).Sound := by
  constructor <;> intro _ h <;> simp [knowing] at h

namespace Notifier

/-- A notifier whose channels cannot be made, and whose analytics fail.  Its repository knows one
workspace, which wants to be told of changed schemas twice. -/
def watched : Notifier where
  repository := .knowing ⟨default, "Acme", none,
    some ⟨[(.schemaChange, ⟨[.webhook, .email], none, some ⟨"https://hooks.example.org"⟩⟩)]⟩⟩ "Crm"
  analytics := Analytics.collector fun _ => some .longInteger
  dispatcher := Dispatch.dispatcher ⟨none, Metrics.logging, fun _ _ _ _ => .fail .longInteger⟩
  urls := ⟨""⟩

theorem analytics_told_once_watched :
    watched.repository.Sound ∧
      TellsOnce (fun k => (watched.reporting k).notifySchemaChange default ⟨[]⟩ true) .busy .initial
        (Due (watched.Owns default) .schemaChange) ∧
      ((watched.notifySchemaChange default ⟨[]⟩ true .busy .initial).2.journal.filterMap
        Effect.tracking?).length = 1 := by
  have hsound := Repository.sound_knowing ⟨default, "Acme", none,
    some ⟨[(.schemaChange, ⟨[.webhook, .email], none, some ⟨"https://hooks.example.org"⟩⟩)]⟩⟩ "Crm"
  exact ⟨hsound, (analytics_told_once watched _ rfl hsound).2 default ⟨[]⟩ true .busy .initial, rfl⟩

end Notifier

end JobHerald
