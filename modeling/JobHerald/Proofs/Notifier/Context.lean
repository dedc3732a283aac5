import JobHerald.Proofs.Log.Bracketing
import JobHerald.Proofs.Notifier.Resolved

/-!
# The caller's context

Every operation of a notifier is one dispatch.  What happens inside may end early or late; as long
as the collaborators of the notifier leave the context alone, the caller finds it as it was.

## Main definitions

* `Action.KeepsContext` — an action after which the context is as it was before.
* `Dispatcher.KeepsContext`, `Analytics.KeepsContext` — collaborators that leave the context alone.
* `Notifier.KeepsContext` — a notifier all of whose operations leave the caller's context alone.

## Main results

* `Action.keepsContext_within` — a dispatch keeps the context if what is inside keeps it.
* `Dispatch.keepsContext_dispatcher` — the dispatchers of this library leave the context alone.
* `Notifier.keepsContext_of_collaborators` — so does a notifier whose collaborators do.
* `Notifier.context_bracketed` — **the logging context is bracketed.**
-/

namespace JobHerald

open JobHerald.Action

/-! ### Actions that keep the context -/

namespace Action

variable {α β : Type} {x : Action α}

/-- An action after which the context is as it was before, whether it returns or fails. -/
def KeepsContext (x : Action α) : Prop := ∀ s w, (x s w).2.context = w.context

/-- What stays in a scope only writes effects and loads the settings. -/
theorem StaysIn.keepsContext {c : Scope} (hx : x.StaysIn c) : x.KeepsContext := by
  intro s w
  obtain ⟨r, settings, es, hrun, -⟩ := hx.run s w
  rw [hrun]
  rfl

theorem keepsContext_pure (a : α) : (pure a : Action α).KeepsContext := fun _ _ => rfl

theorem keepsContext_log (l : Log.Level) (event : String) (fs : Fields) :
    (log l event fs).KeepsContext := fun _ _ => rfl

theorem keepsContext_bind {f : α → Action β} (hx : x.KeepsContext)
    (hf : ∀ a, (f a).KeepsContext) : (x >>= f).KeepsContext := by
  intro s w
  have hfirst := hx s w
  cases hrun : x s w with
  | mk r w' =>
    rw [hrun] at hfirst
    cases r with
    -- the second action begins with the context that the first has kept
    | ok a =>
      rw [bind_ok hrun, hf a s w']
      exact hfirst
    | error e =>
      rw [Action.bind_error hrun]
      exact hfirst

theorem keepsContext_attempt {event : String} {context : Fields} (hc : Attempt.Clean context)
    (hx : x.KeepsContext) : (attempt x event context).KeepsContext := by
  intro s w
  have hkept := hx s w
  cases hrun : x s w with
  | mk r w' =>
    rw [hrun] at hkept
    cases r with
    | ok a =>
      rw [attempt_ok hc hrun]
      exact hkept
    -- the entry about the failure leaves the context
    | error e =>
      rw [attempt_error hc hrun]
      exact hkept

/-- A dispatch keeps the context if what is inside keeps it. -/
theorem keepsContext_within (b : Log.Binding) (hx : x.KeepsContext) :
    (within b x).KeepsContext := by
  intro s w
  -- inside there is another context, and that one is kept
  have hkept := hx s { w with context := Log.enter w.context (b.fields s.fresh) }
  cases hrun : x s { w with context := Log.enter w.context (b.fields s.fresh) } with
  | mk r w' =>
    rw [hrun] at hkept
    rw [within_apply hrun]
    show Log.leave w'.context _ = w.context
    rw [hkept]
    exact Log.leave_enter (b.nodup_names_fields s.fresh) w.context

/-- Whatever happens inside a dispatch, its end gives back the fields that were bound. -/
theorem get?_within (b : Log.Binding) (x : Action α) (s : Surroundings) (w : World) (k : String) :
    Fields.get? k (within b x s w).2.context =
      if k ∈ (b.fields s.fresh).names then Fields.get? k w.context
      else Fields.get? k
        (x s { w with context := Log.enter w.context (b.fields s.fresh) }).2.context := by
  cases hrun : x s { w with context := Log.enter w.context (b.fields s.fresh) } with
  | mk r w' =>
    rw [within_apply hrun]
    exact Log.get?_leave k w.context w'.context (b.fields s.fresh)

end Action

/-! ### Collaborators -/

/-- A dispatcher whose operations leave the context alone. -/
structure Dispatcher.KeepsContext (d : Dispatcher) : Prop where
  /-- A notice through a binding. -/
  dispatch : ∀ t b n receiver, (d.dispatch t b n receiver).KeepsContext
  /-- A notice through one channel. -/
  deliver : ∀ kind config n, (d.deliver kind config n).KeepsContext
  /-- A test through a binding. -/
  sendTest : ∀ b message, (d.sendTest b message).KeepsContext

/-- Analytics that leave the context alone. -/
def Analytics.KeepsContext (k : Analytics) : Prop := ∀ w event fs, (k w event fs).KeepsContext

theorem Analytics.Unaware.keepsContext {k : Analytics} (hk : k.Unaware) : k.KeepsContext :=
  fun w event fs => (hk w event fs).keepsContext

/-- Dispatchers leave the context alone if their channels are tame, and their metrics only look at
effects. -/
theorem Dispatch.keepsContext_dispatcher {d : Dispatch} (hd : d.maker.Tame)
    (hm : d.metrics.Unaware) : d.dispatcher.KeepsContext where
  dispatch t b n receiver := (unaware_dispatch hd hm t b n receiver).keepsContext
  deliver kind config n := (wire_deliver hd none none kind config n).keepsContext
  sendTest b message := (staysIn_forEach (fun entry : ChannelKind × Option ChannelConfig =>
    wire_deliver hd none none entry.1 entry.2 (.test message)) b.entries).keepsContext

/-! ### Steps of a notifier -/

namespace Notifier

/-- A notifier all of whose operations leave the caller's context alone. -/
structure KeepsContext (n : Notifier) : Prop where
  /-- A job event, by trigger. -/
  notifyJob : ∀ t job attempts known reason,
    (n.notifyJob t job attempts known reason).KeepsContext
  /-- A job failed. -/
  failJob : ∀ reason job attempts, (n.failJob reason job attempts).KeepsContext
  /-- A job succeeded. -/
  succeedJob : ∀ job attempts, (n.succeedJob job attempts).KeepsContext
  /-- A connection was disabled. -/
  disableConnection : ∀ job attempts, (n.disableConnection job attempts).KeepsContext
  /-- A connection is about to be disabled. -/
  warnBeforeDisabling : ∀ job attempts, (n.warnBeforeDisabling job attempts).KeepsContext
  /-- The schema of a connection changed. -/
  notifySchemaChange : ∀ c diff breaking, (n.notifySchemaChange c diff breaking).KeepsContext
  /-- A breaking change is to come, or has disabled syncs. -/
  notifyBreakingChange : ∀ change disabled,
    (n.notifyBreakingChange change disabled).KeepsContext
  /-- A test through every channel of a binding. -/
  sendTest : ∀ b message, (n.sendTest b message).KeepsContext

variable {n : Notifier} (hd : n.dispatcher.KeepsContext) (ha : n.analytics.KeepsContext)

theorem unaware_workspaceForJob (n : Notifier) (job : Job) :
    (n.workspaceForJob job).StaysIn .unaware := by
  refine staysIn_bind (Repository.unaware_lookUp _ _) fun owner => ?_
  cases owner with
  | none => exact unaware_fail _
  | some id => exact Repository.unaware_lookUp _ _

theorem unaware_schemaContext (n : Notifier) (c : Uuid) (diff : CatalogDiff) (breaking : Bool) :
    (n.schemaContext c diff breaking).StaysIn .unaware := by
  have hworkspace : (n.workspaceForConnection c).StaysIn .unaware := by
    refine staysIn_bind (Repository.unaware_lookUp _ _) fun owner => ?_
    cases owner with
    | none => exact unaware_fail _
    | some id => exact staysIn_bind (Repository.unaware_lookUp _ _) fun _ => unaware_pure _
  refine staysIn_bind hworkspace fun found => ?_
  refine staysIn_bind (n.repository.unaware_metadata c) fun m => ?_
  refine staysIn_bind (reads_present _ _).unaware fun w => ?_
  exact staysIn_bind (reads_present _ _).unaware fun source => unaware_pure _

theorem unaware_schemaAttributes (breaking : Bool) (m : Metadata) :
    (schemaAttributes breaking m).StaysIn .unaware :=
  staysIn_bind (reads_present _ _).unaware fun _ => unaware_pure _

include hd in
theorem keepsContext_dispatchFor (w : Workspace) (t : Trigger) (notice : Notice) :
    (n.dispatchFor w t notice).KeepsContext := by
  refine keepsContext_bind (keepsContext_attempt Attempt.clean_nil ?_) fun _ => keepsContext_pure _
  exact keepsContext_bind (unaware_bindingFor w t).keepsContext fun b => hd.dispatch t b notice _

include ha in
theorem keepsContext_track (w : Workspace) (t : Trigger) (r : DispatchReport) (c : Uuid)
    {attributes : Action Fields} (h : attributes.KeepsContext) :
    (n.track w t r c attributes).KeepsContext := by
  rw [track]
  split
  · exact keepsContext_pure ()
  · refine keepsContext_bind (keepsContext_attempt Attempt.clean_nil ?_) fun _ =>
      keepsContext_pure ()
    exact keepsContext_bind h fun base => ha _ _ _

include hd ha

theorem keepsContext_publish (w : Workspace) (t : Trigger) (notice : Notice)
    {connection : Action Uuid} (hconnection : connection.KeepsContext)
    {attributes : Action Fields} (h : attributes.KeepsContext) :
    (n.publish w t notice connection attributes).KeepsContext := by
  refine keepsContext_bind (keepsContext_dispatchFor hd w t notice) fun report => ?_
  cases report with
  | none => exact keepsContext_pure none
  | some report =>
    refine keepsContext_bind hconnection fun c => ?_
    exact keepsContext_bind (keepsContext_track ha w t report c h) fun _ => keepsContext_pure _

theorem keepsContext_notifyWorkspace (event : JobEvent) (job : Job)
    (attempts : List AttemptStats) (w : Workspace) (reason : Option String) :
    (n.notifyWorkspace event job attempts w reason).KeepsContext := by
  refine keepsContext_bind (keepsContext_attempt (clean_workspace w.id)
    (n.unaware_metadataForJob job).keepsContext) fun resolved => ?_
  cases resolved.value? with
  | none => exact keepsContext_pure none
  | some m =>
    refine keepsContext_bind (keepsContext_attempt Attempt.clean_nil
      (reads_jobNotice event job attempts w m reason).unaware.keepsContext) fun built => ?_
    cases built.value? with
    | none => exact keepsContext_pure none
    | some notice =>
      exact keepsContext_publish hd ha w event.trigger notice
        (unaware_ofExcept _).keepsContext (unaware_jobAttributes job m).keepsContext

theorem keepsContext_notifyEvent (event : JobEvent) (job : Job) (attempts : List AttemptStats)
    (known : Option Workspace) (reason : Option String) :
    (n.notifyEvent event job attempts known reason).KeepsContext := by
  -- a known workspace is not looked up
  have hresolve : (n.resolveWorkspace job known).KeepsContext := by
    cases known with
    | some w => exact keepsContext_pure _
    | none =>
      exact keepsContext_bind (keepsContext_attempt Attempt.clean_nil
        (n.unaware_workspaceForJob job).keepsContext) fun _ => keepsContext_pure _
  refine keepsContext_bind hresolve fun found => ?_
  cases found with
  | none => exact keepsContext_pure none
  | some found =>
    exact keepsContext_bind (reads_present _ found).unaware.keepsContext fun w =>
      keepsContext_notifyWorkspace hd ha event job attempts w reason

theorem keepsContext_notifyJob (t : Trigger) (job : Job) (attempts : List AttemptStats)
    (known : Option Workspace) (reason : Option String) :
    (n.notifyJob t job attempts known reason).KeepsContext := by
  refine keepsContext_within _ ?_
  cases t.jobEvent? with
  | some event => exact keepsContext_notifyEvent hd ha event job attempts known reason
  | none => exact keepsContext_bind (keepsContext_log _ _ _) fun _ => keepsContext_pure none

theorem keepsContext_notifySchemaChange (c : Uuid) (diff : CatalogDiff) (breaking : Bool) :
    (n.notifySchemaChange c diff breaking).KeepsContext := by
  refine keepsContext_within _ ?_
  refine keepsContext_bind (keepsContext_attempt Attempt.clean_nil
    (n.unaware_schemaContext c diff breaking).keepsContext) fun resolved => ?_
  cases resolved.value? with
  | none => exact keepsContext_pure none
  | some context =>
    obtain ⟨w, m, update⟩ := context
    exact keepsContext_publish hd ha w .schemaChange _ (keepsContext_pure c)
      (unaware_schemaAttributes breaking m).keepsContext

omit ha in
theorem keepsContext_notifyBreakingChange (change : BreakingChange) (syncsDisabled : Bool) :
    (n.notifyBreakingChange change syncsDisabled).KeepsContext := by
  refine keepsContext_within _ ?_
  refine keepsContext_bind (keepsContext_attempt Attempt.clean_nil (hd.deliver _ _ _)) fun r => ?_
  cases r.value? with
  | some a => exact keepsContext_pure a
  | none => exact keepsContext_pure _

omit ha in
theorem keepsContext_sendTest (b : ChannelBinding) (message : String) :
    (n.sendTest b message).KeepsContext := by
  refine keepsContext_within _ ?_
  refine keepsContext_bind (keepsContext_attempt Attempt.clean_nil (hd.sendTest b message))
    fun r => ?_
  exact keepsContext_bind (keepsContext_log _ _ _) fun _ => keepsContext_pure _

/-- A notifier leaves the caller's context alone if its collaborators do. -/
theorem keepsContext_of_collaborators : n.KeepsContext where
  notifyJob := keepsContext_notifyJob hd ha
  failJob reason job attempts := keepsContext_notifyJob hd ha .failure job attempts none reason
  succeedJob job attempts := keepsContext_notifyJob hd ha .success job attempts none none
  disableConnection job attempts := keepsContext_notifyJob hd ha .disabled job attempts none none
  warnBeforeDisabling job attempts :=
    keepsContext_notifyJob hd ha .disableWarning job attempts none none
  notifySchemaChange := keepsContext_notifySchemaChange hd ha
  notifyBreakingChange := keepsContext_notifyBreakingChange hd
  sendTest := keepsContext_sendTest hd

omit hd ha

/-- **The logging context is bracketed.**  The end of a dispatch gives back the fields that were
bound, whatever happened inside.  A program of nested dispatches leaves the context as it was,
however it ends; at every point, each field is that of the innermost dispatch around that binds it,
or else that of the start, and there is a correlation identifier.  So every operation of a notifier
leaves the caller's context alone. -/
theorem context_bracketed :
    (∀ (α : Type) (b : Log.Binding) (x : Action α) s w k,
      Fields.get? k (within b x s w).2.context =
        if k ∈ (b.fields s.fresh).names then Fields.get? k w.context
        else Fields.get? k
          (x s { w with context := Log.enter w.context (b.fields s.fresh) }).2.context) ∧
    (∀ (p : Log.Program) s w, ∃ w' es,
      p.run s w = ((p.meaning (Log.viewOf w)).2, w') ∧ w'.context = w.context ∧
        w'.journal = w.journal ++ es ∧
        List.Forall₂ Log.Program.Sight.ShownBy (p.meaning (Log.viewOf w)).1 es) ∧
    (∀ (o : Log.Opening) (body : Log.Program) view,
      ∀ sight ∈ ((Log.Program.dispatch o body).meaning view).1, sight.view.IsCorrelated) ∧
    ∀ n : Notifier, n.dispatcher.KeepsContext → n.analytics.KeepsContext → n.KeepsContext := by
  refine ⟨fun _ => get?_within, fun p s w => ?_, Log.Program.isCorrelated_dispatch,
    fun n hd ha => keepsContext_of_collaborators hd ha⟩
  obtain ⟨es, hrun, hshown⟩ := p.run_eq_meaning s w
  exact ⟨_, es, hrun, rfl, rfl, hshown⟩

/-- A notification of a failed job in the middle of another one leaves the fields of that one. -/
theorem context_bracketed_alerting :
    alerting.dispatcher.KeepsContext ∧ alerting.analytics.KeepsContext ∧ alerting.KeepsContext ∧
      (alerting.failJob none failedJob [] .busy
        ⟨none, [("job_id", .str "7"), ("request", .str "r-1")], []⟩).2.context
          = [("job_id", .str "7"), ("request", .str "r-1")] := by
  have hmetrics : (Metrics.collector fun _ => some .longInteger).Unaware :=
    Metrics.unaware_collector _
  have hdispatcher : alerting.dispatcher.KeepsContext :=
    Dispatch.keepsContext_dispatcher Channel.tame_create hmetrics
  have hanalytics : alerting.analytics.KeepsContext :=
    (Analytics.unaware_collector _).keepsContext
  obtain ⟨-, -, -, hnotifiers⟩ := context_bracketed
  have hkeeps := hnotifiers alerting hdispatcher hanalytics
  exact ⟨hdispatcher, hanalytics, hkeeps, hkeeps.failJob none failedJob [] .busy _⟩

end Notifier

end JobHerald
