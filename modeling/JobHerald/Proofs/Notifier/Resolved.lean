import JobHerald.Proofs.Dispatch.Order
import JobHerald.Proofs.Notifier.Accounting

/-!
# Workspaces that are known already

Whoever reports a job may name its workspace, which saves the notifier two look-ups.  Nothing that
comes after the look-ups takes notice of them, neither the stages of the notifier, nor the channels,
nor the sinks, so that nothing else changes.

## Main definitions

* `Action.Scope.unaware` — the scope of what takes no notice of look-ups.
* `Metrics.Unaware`, `Analytics.Unaware` — sinks that take no notice of them.

## Main results

* `Metrics.unaware_collector`, `Analytics.unaware_logging`, … — the sinks of this library take no
  notice of look-ups.
* `Notifier.unaware_notifyWorkspace` — nor does a notifier once its workspace is known.
* `Notifier.known_workspace_saves_lookups` — **a job event about a known workspace does the same as
  one about a workspace that is looked up, but for the two look-ups.**
-/

namespace JobHerald

open JobHerald.Action

/-! ### Taking no notice of look-ups -/

/-- Whether an effect is a look-up. -/
def Effect.isLookup (e : Effect) : Bool := e.lookup?.isSome

namespace Action

/-- What takes no notice of look-ups: it sees all other effects, and writes and fails in any way. -/
def Scope.unaware : Scope := ⟨fun e => !e.isLookup, fun _ => True, fun _ => True⟩

theorem Scope.wire_within_unaware : wire.Within unaware where
  sees e h := by
    cases e with
    | requested rq => rfl
    | _ => cases h
  writes _ _ := trivial
  fails _ _ := trivial

/-- After look-ups, a world looks the same as before. -/
theorem Scope.alike_lookups (w : World) (ls : List Lookup) :
    Scope.unaware.Alike w (w.extend (ls.map .lookedUp)) where
  settings := rfl
  seen := by
    have hunseen : (ls.map Effect.lookedUp).filter Scope.unaware.sees = [] := by
      rw [List.filter_eq_nil_iff]
      intro e he
      obtain ⟨l, -, rfl⟩ := List.mem_map.mp he
      simp [Scope.unaware, Effect.isLookup, Effect.lookup?]
    rw [World.journal_extend, List.filter_append, hunseen, List.append_nil]

variable {α β γ : Type}

theorem unaware_pure (a : α) : (pure a : Action α).StaysIn .unaware := staysIn_pure a

theorem unaware_fail (e : Failure) : (fail e : Action α).StaysIn .unaware := staysIn_fail trivial

theorem unaware_log (l : Log.Level) (event : String) (fs : Fields) :
    (log l event fs).StaysIn .unaware :=
  staysIn_log (fun _ _ => trivial) l event fs

theorem unaware_ofExcept (r : Except Failure α) : (ofExcept r).StaysIn .unaware :=
  staysIn_ofExcept fun _ _ => trivial

theorem unaware_attempt {x : Action α} {event : String} {context : Fields}
    (hc : Attempt.Clean context) (hx : x.StaysIn .unaware) :
    (attempt x event context).StaysIn .unaware :=
  staysIn_attempt hc (fun _ _ => trivial) hx

/-- What only reads the surroundings takes no notice of anything. -/
theorem Reads.unaware {x : Action α} (hx : x.Reads) : x.StaysIn .unaware := by
  choose r hr using hx
  refine staysIn_of_const r (fun s w => ?_) fun _ _ _ => trivial
  rw [hr s w, List.map_nil, World.extend_nil]

/-- A loop stays in the scope of its steps. -/
theorem staysIn_forEach {c : Scope} {f : γ → Action α} (hf : ∀ a, (f a).StaysIn c)
    (as : List γ) : (forEach f as).StaysIn c := by
  induction as with
  | nil => exact staysIn_pure []
  | cons a as ih =>
    exact staysIn_bind (hf a) fun b => staysIn_bind ih fun bs => staysIn_pure (b :: bs)

end Action

/-! ### Sinks -/

/-- Metrics that take no notice of look-ups. -/
def Metrics.Unaware (m : Metrics) : Prop := ∀ t k o, (m t k o).StaysIn .unaware

/-- Analytics that take no notice of look-ups. -/
def Analytics.Unaware (k : Analytics) : Prop := ∀ w event fs, (k w event fs).StaysIn .unaware

/-- A sink that keeps what it is told, and may fail depending on how much it was told before. -/
theorem Action.unaware_kept {β : Type} {x : Action Unit} {f : Effect → Option β} {e : Effect}
    {fault : Nat → Option Failure}
    (hx : ∀ s w, x s w = ((fault (w.journal.filterMap f).length).elim (.ok ()) .error,
      w.extend [e])) (hf : ∀ l, f (.lookedUp l) = none) : x.StaysIn .unaware := by
  intro s w
  -- what is counted is seen in every world, since it is no look-up
  have hsees : ∀ e, (f e).isSome = true → Scope.unaware.sees e = true := by
    intro e he
    cases e with
    | lookedUp l =>
      rw [hf l] at he
      cases he
    | _ => rfl
  refine ⟨(fault (w.journal.filterMap f).length).elim (.ok ()) .error, w.settings, [e],
    fun _ _ => trivial, fun _ _ => trivial, fun w' hw' => ?_⟩
  rw [hx, hw'.filterMap_eq hsees, ← hw'.settings]
  rfl

theorem Metrics.unaware_logging : logging.Unaware := fun _ _ _ => unaware_log _ _ _

theorem Metrics.unaware_collector (fault : Nat → Option Failure) : (collector fault).Unaware :=
  fun t k o => unaware_kept (collector_apply fault t k o) fun _ => rfl

theorem Analytics.unaware_logging : logging.Unaware := by
  intro w event fs
  rcases logging_cases w event fs with ⟨e, h⟩ | ⟨l, name, fs', h⟩
  · exact h ▸ unaware_fail e
  · exact h ▸ unaware_log l name fs'

theorem Analytics.unaware_collector (fault : Nat → Option Failure) : (collector fault).Unaware :=
  fun w event fs => unaware_kept (collector_apply fault w event fs) fun _ => rfl

/-! ### Dispatching -/

namespace Dispatch

variable {d : Dispatch}

theorem unaware_report (hm : d.metrics.Unaware) (a : ChannelAttempt) :
    (d.report a).StaysIn .unaware :=
  staysIn_bind (unaware_attempt Attempt.clean_nil (hm _ _ _)) fun _ => unaware_pure ()

theorem unaware_skip (hm : d.metrics.Unaware) (t : Trigger) : (d.skip t).StaysIn .unaware := by
  refine staysIn_bind (unaware_log _ _ _) fun _ => ?_
  exact staysIn_bind (unaware_report hm _) fun _ => unaware_pure _

/-- What tame channels do, and what is reported of it, takes no notice of look-ups. -/
theorem unaware_dispatch (hd : d.maker.Tame) (hm : d.metrics.Unaware) (t : Trigger)
    (binding : Option ChannelBinding) (n : Notice) (receiver : Option String) :
    (d.dispatch t binding n receiver).StaysIn .unaware := by
  cases binding with
  | none => exact unaware_skip hm t
  | some b =>
    rw [dispatch]
    split
    · exact unaware_skip hm t
    -- a delivery looks at the transport only, and a report takes no notice of look-ups
    · have hentry : ∀ entry, (d.deliverEntry t receiver n entry).StaysIn .unaware := fun entry =>
        staysIn_bind ((wire_deliver hd (some t) receiver entry.1 entry.2 n).mono
          Scope.wire_within_unaware) fun a =>
          staysIn_bind (unaware_report hm a) fun _ => unaware_pure a
      refine staysIn_bind (staysIn_forEach hentry _) fun _ => ?_
      exact staysIn_bind (unaware_log _ _ _) fun _ => unaware_pure _

end Dispatch

/-! ### Notifying -/

theorem Repository.unaware_lookUp {α : Type} (l : Lookup) (answer : Except Failure α) :
    (lookUp l answer).StaysIn .unaware :=
  staysIn_bind (staysIn_record trivial) fun _ => unaware_ofExcept answer

theorem Repository.unaware_metadata (r : Repository) (c : Uuid) :
    (r.metadata c).StaysIn .unaware := by
  refine staysIn_bind (unaware_lookUp _ _) fun found => ?_
  refine staysIn_bind (reads_present _ found).unaware fun connection => ?_
  refine staysIn_bind (unaware_lookUp _ _) fun source => ?_
  refine staysIn_bind (unaware_lookUp _ _) fun destination => ?_
  refine staysIn_bind (unaware_lookUp _ _) fun sourceDefinition => ?_
  exact staysIn_bind (unaware_lookUp _ _) fun destinationDefinition => unaware_pure _

namespace Notifier

variable {n : Notifier} {d : Dispatch} (hd : n.dispatcher = d.dispatcher) (hmaker : d.maker.Tame)
  (hm : d.metrics.Unaware) (ha : n.analytics.Unaware)

theorem unaware_metadataForJob (n : Notifier) (job : Job) :
    (n.metadataForJob job).StaysIn .unaware :=
  staysIn_bind (unaware_ofExcept _) fun c => n.repository.unaware_metadata c

theorem unaware_bindingFor (w : Workspace) (t : Trigger) : (bindingFor w t).StaysIn .unaware := by
  rw [bindingFor]
  cases w.policy with
  | some p => exact unaware_pure _
  | none => exact staysIn_bind (unaware_log _ _ _) fun _ => unaware_pure none

theorem unaware_jobAttributes (job : Job) (m : Metadata) :
    (jobAttributes job m).StaysIn .unaware := by
  refine staysIn_bind (reads_present _ _).unaware fun source => ?_
  exact staysIn_bind (reads_present _ _).unaware fun destination => unaware_pure _

include hd hmaker hm in
theorem unaware_dispatchFor (w : Workspace) (t : Trigger) (notice : Notice) :
    (n.dispatchFor w t notice).StaysIn .unaware := by
  refine staysIn_bind (unaware_attempt Attempt.clean_nil ?_) fun _ => unaware_pure _
  refine staysIn_bind (unaware_bindingFor w t) fun binding => ?_
  rw [hd]
  exact Dispatch.unaware_dispatch hmaker hm t binding notice _

include ha in
theorem unaware_track (w : Workspace) (t : Trigger) (r : DispatchReport) (c : Uuid)
    {attributes : Action Fields} (h : attributes.StaysIn .unaware) :
    (n.track w t r c attributes).StaysIn .unaware := by
  rw [track]
  split
  · exact unaware_pure ()
  · refine staysIn_bind (unaware_attempt Attempt.clean_nil ?_) fun _ => unaware_pure ()
    exact staysIn_bind h fun base => ha _ _ _

include hd hmaker hm ha

theorem unaware_publish (w : Workspace) (t : Trigger) (notice : Notice) {connection : Action Uuid}
    (hconnection : connection.StaysIn .unaware) {attributes : Action Fields}
    (h : attributes.StaysIn .unaware) :
    (n.publish w t notice connection attributes).StaysIn .unaware := by
  refine staysIn_bind (unaware_dispatchFor hd hmaker hm w t notice) fun report => ?_
  cases report with
  | none => exact unaware_pure none
  | some report =>
    refine staysIn_bind hconnection fun c => ?_
    exact staysIn_bind (unaware_track ha w t report c h) fun _ => unaware_pure _

/-- Once its workspace is known, a job event takes no notice of the look-ups so far. -/
theorem unaware_notifyWorkspace (event : JobEvent) (job : Job) (attempts : List AttemptStats)
    (w : Workspace) (reason : Option String) :
    (n.notifyWorkspace event job attempts w reason).StaysIn .unaware := by
  refine staysIn_bind (unaware_attempt (clean_workspace w.id) (n.unaware_metadataForJob job))
    fun resolved => ?_
  cases resolved.value? with
  | none => exact unaware_pure none
  | some m =>
    refine staysIn_bind (unaware_attempt Attempt.clean_nil
      (reads_jobNotice event job attempts w m reason).unaware) fun built => ?_
    -- a notice that cannot be built is not announced
    cases built.value? with
    | none => exact unaware_pure none
    | some notice =>
      exact unaware_publish hd hmaker hm ha w event.trigger notice (unaware_ofExcept _)
        (unaware_jobAttributes job m)

omit hd hmaker hm ha in
/-- If the workspace of a job is found, looking it up is all that is done before the stages of a
known workspace. -/
theorem notifyEvent_found {event : JobEvent} {job : Job} {attempts : List AttemptStats}
    {reason : Option String} {id : Uuid} {x : Workspace}
    (howner : n.repository.workspaceOfJob job.id = .ok (some id))
    (hworkspace : n.repository.workspace id = .ok (some x)) (s : Surroundings) (w : World) :
    n.notifyEvent event job attempts none reason s w =
      n.notifyWorkspace event job attempts x reason s
        (w.extend ([.workspaceOfJob job.id, .workspace id].map .lookedUp)) := by
  have hasks : (n.workspaceForJob job).Asks s (.ok (some x)) [.workspaceOfJob job.id, .workspace id]
      := (asks_lookUp _ howner).bind (asks_lookUp _ hworkspace)
  have hresolve : n.resolveWorkspace job none s w =
      (.ok (some (some x)), w.extend ([.workspaceOfJob job.id, .workspace id].map .lookedUp)) :=
    bind_ok (attempt_ok Attempt.clean_nil (hasks w))
  rw [notifyEvent, bind_ok hresolve]
  simp only [present_some, pure_bind]

/-- **A job event about a known workspace does the same as one about a workspace that is looked up,
but for the two look-ups**: it comes to the same result, and leaves the same effects behind in the
same order, whatever fails after the look-ups. -/
theorem known_workspace_saves_lookups {t : Trigger} {event : JobEvent}
    (ht : t.jobEvent? = some event) (job : Job) (attempts : List AttemptStats)
    (reason : Option String) {id : Uuid} {x : Workspace}
    (howner : n.repository.workspaceOfJob job.id = .ok (some id))
    (hworkspace : n.repository.workspace id = .ok (some x)) (s : Surroundings) (w : World) :
    ∃ r w₁ w₂ es,
      n.notifyJob t job attempts (some x) reason s w = (r, w₁) ∧
      n.notifyJob t job attempts none reason s w = (r, w₂) ∧
      w₁.journal = w.journal ++ es ∧
      w₂.journal = w.journal ++
        ([.lookedUp (.workspaceOfJob job.id), .lookedUp (.workspace id)] ++ es) ∧
      w₂.settings = w₁.settings ∧ w₂.context = w₁.context := by
  -- both runs come to the stages of the known workspace, in worlds that look the same to these
  let b : Log.Binding := { Log.Binding.none with job := .int job.id, trigger := .str t.word }
  let entered : World := { w with context := Log.enter w.context (b.fields s.fresh) }
  obtain ⟨r, settings, es, -, -, hrun⟩ :=
    unaware_notifyWorkspace hd hmaker hm ha event job attempts x reason s entered
  have hknown : n.notifyEvent event job attempts (some x) reason s entered =
      (r, { entered.extend es with settings := settings }) := by
    rw [notifyEvent_known]
    exact hrun _ (.refl entered)
  have hfound : n.notifyEvent event job attempts none reason s entered =
      (r, { (entered.extend ([.workspaceOfJob job.id, .workspace id].map .lookedUp)).extend es with
        settings := settings }) :=
    (notifyEvent_found howner hworkspace s entered).trans
      (hrun _ (Scope.alike_lookups entered _))
  have hbody : ∀ known, n.notifyJob t job attempts known reason =
      within b (n.notifyEvent event job attempts known reason) := by
    intro known
    rw [notifyJob, ht]
  refine ⟨r, _, _, es, (congrFun₂ (hbody _) s w).trans (within_apply hknown),
    (congrFun₂ (hbody _) s w).trans (within_apply hfound), rfl, ?_, rfl, rfl⟩
  exact List.append_assoc ..

omit hd hmaker hm ha

/-- A workspace that wants to be told of failed jobs by email and on a webhook. -/
def alerted : Workspace :=
  ⟨default, "Acme", some ⟨"ops@acme.example"⟩,
    some ⟨[(.failure, ⟨[.email, .webhook], none, some ⟨"https://hooks.example.org"⟩⟩)]⟩⟩

/-- A notifier with the channels of this library, all of whose sinks fail. -/
def alerting : Notifier where
  repository := .knowing alerted "Crm"
  analytics := Analytics.collector fun _ => some .longInteger
  dispatcher := Dispatch.dispatcher
    ⟨none, Metrics.collector fun _ => some .longInteger, Channel.create⟩
  urls := ⟨""⟩

/-- A failed job. -/
def failedJob : Job :=
  ⟨42, .sync, "00000000-0000-0000-0000-000000000000", .failed, ⟨0, .unknown⟩, ⟨0, .unknown⟩,
    none, 1⟩

theorem known_workspace_saves_lookups_alerting :
    ChannelMaker.Tame Channel.create ∧
      (Metrics.collector fun _ => some .longInteger).Unaware ∧
      (Analytics.collector fun _ => some .longInteger).Unaware ∧
      alerting.repository.workspaceOfJob failedJob.id = .ok (some alerted.id) ∧
      alerting.repository.workspace alerted.id = .ok (some alerted) ∧
      ∃ r w₁ w₂ es,
        alerting.notifyJob .failure failedJob [] (some alerted) none .busy .initial = (r, w₁) ∧
        alerting.notifyJob .failure failedJob [] none none .busy .initial = (r, w₂) ∧
        w₁.journal = es ∧
        w₂.journal = [.lookedUp (.workspaceOfJob 42), .lookedUp (.workspace default)] ++ es := by
  have hmetrics : (Metrics.collector fun _ => some .longInteger).Unaware :=
    Metrics.unaware_collector _
  have hanalytics : (Analytics.collector fun _ => some .longInteger).Unaware :=
    Analytics.unaware_collector _
  have howner : alerting.repository.workspaceOfJob failedJob.id = .ok (some alerted.id) := rfl
  have hworkspace : alerting.repository.workspace alerted.id = .ok (some alerted) := rfl
  obtain ⟨r, w₁, w₂, es, hknown, hfound, hjournal₁, hjournal₂, -, -⟩ :=
    known_workspace_saves_lookups (n := alerting)
      (d := ⟨none, Metrics.collector fun _ => some .longInteger, Channel.create⟩) rfl
      Channel.tame_create hmetrics hanalytics (t := .failure) rfl failedJob [] none howner
      hworkspace .busy .initial
  exact ⟨Channel.tame_create, hmetrics, hanalytics, howner, hworkspace, r, w₁, w₂, es, hknown,
    hfound, hjournal₁, hjournal₂⟩

end Notifier

end JobHerald
