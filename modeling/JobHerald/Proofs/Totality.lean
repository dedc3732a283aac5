import JobHerald.Job.Notifier
import JobHerald.Proofs.Action.Run

/-!
# Operations that never fail

Notifying is best effort: whatever the repository, the channels, the transport and the
sinks do, the caller gets an answer.  Most steps run inside attempts.  The few that do
not — naming the workspace in a log entry, naming the connection of a report — are only
reached after an attempt has shown that they can be taken.

## Main definitions

* `Action.NeverFails` — actions without failures.
* `Repository.Sound` — a repository whose records are there whenever a look-up succeeds.
* `Notifier.Dependable` — a notifier none of whose operations fails.

## Main results

* `Dispatch.neverFails_dispatch`, `Dispatch.neverFails_deliver`, `Dispatch.neverFails_sendTest` —
  dispatching never fails, whatever makes the channels.
* `Notifier.operations_never_fail` — **no operation of a notifier fails.**
-/

namespace JobHerald

/-! ### Actions without failures -/

namespace Action

variable {α β : Type}

/-- An action that returns a value in every run. -/
def NeverFails (x : Action α) : Prop := ∀ s w, ∃ a w', x s w = (.ok a, w')

theorem neverFails_pure (a : α) : (pure a : Action α).NeverFails :=
  fun _ w => ⟨a, w, rfl⟩

theorem neverFails_log (l : Log.Level) (event : String) (fs : Fields) :
    (log l event fs).NeverFails :=
  fun _ _ => ⟨(), _, rfl⟩

theorem neverFails_info (event : String) (fs : Fields) : (info event fs).NeverFails :=
  neverFails_log .info event fs

theorem neverFails_ofExcept {r : Except Failure α} {a : α} (h : r = .ok a) :
    (ofExcept r).NeverFails :=
  fun s w => ⟨a, w, by rw [ofExcept_apply, h]⟩

/-- The second action has to return for the values that the first can return. -/
theorem neverFails_bind {x : Action α} {f : α → Action β} (hx : x.NeverFails)
    (hf : ∀ a, x.CanReturn a → (f a).NeverFails) : (x >>= f).NeverFails := by
  intro s w
  obtain ⟨a, w', ha⟩ := hx s w
  rw [bind_ok ha]
  exact hf a ⟨s, w, w', ha⟩ s w'

theorem neverFails_within {x : Action α} (b : Log.Binding) (hx : x.NeverFails) :
    (within b x).NeverFails := by
  intro s w
  obtain ⟨a, w', ha⟩ := hx s { w with context := Log.enter w.context (b.fields s.fresh) }
  exact ⟨a, _, within_apply ha⟩

theorem neverFails_forEach {γ : Type} {f : γ → Action α} (hf : ∀ c, (f c).NeverFails) :
    ∀ cs : List γ, (forEach f cs).NeverFails := by
  intro cs
  induction cs with
  | nil => exact neverFails_pure []
  | cons c cs ih =>
    exact neverFails_bind (hf c) fun a _ => neverFails_bind ih fun as _ => neverFails_pure (a :: as)

/-- **An attempt never fails**, whatever it attempts, if its context has no field with a reserved
name. -/
theorem neverFails_attemptUnless {declined : α → Bool} {x : Action α} {event : String}
    {context : Fields} (hc : Attempt.Clean context) :
    (attemptUnless declined x event context).NeverFails := by
  intro s w
  cases h : x s w with
  | mk r w' =>
    cases r with
    | ok a => exact ⟨_, _, attemptUnless_ok hc h⟩
    | error e => exact ⟨_, _, attemptUnless_error hc h⟩

theorem neverFails_attempt {x : Action α} {event : String} {context : Fields}
    (hc : Attempt.Clean context) : (attempt x event context).NeverFails :=
  neverFails_attemptUnless hc

end Action

/-! ### Dispatching -/

namespace Dispatch

open JobHerald.Action

variable (d : Dispatch)

theorem clean_kind (k : ChannelKind) : Attempt.Clean [("channel_kind", .str k.word)] := by
  simp only [Attempt.clean_cons, Attempt.clean_nil]
  decide

theorem clean_kind_capability (k : ChannelKind) (c : Capability) :
    Attempt.Clean [("channel_kind", .str k.word), ("capability", .str c.word)] := by
  simp only [Attempt.clean_cons, Attempt.clean_nil]
  decide

theorem neverFails_logDelivery (k : ChannelKind) (n : Notice) (o : DeliveryOutcome) :
    (logDelivery k n o).NeverFails := by
  cases o with
  | delivered => exact neverFails_info _ _
  | skipped => exact neverFails_pure ()
  | failed => exact neverFails_pure ()

theorem neverFails_labelOf (k : ChannelKind) (c : Channel) : (labelOf k c).NeverFails :=
  neverFails_bind (neverFails_attempt (clean_kind k)) fun _ _ => neverFails_pure _

theorem neverFails_attemptThrough (t : Option Trigger) (k : ChannelKind) (c : Channel)
    (n : Notice) : (attemptThrough t k c n).NeverFails := by
  refine neverFails_bind (neverFails_attemptUnless (clean_kind_capability k _)) fun r _ => ?_
  refine neverFails_bind (neverFails_logDelivery k n _) fun _ _ => ?_
  exact neverFails_bind (neverFails_labelOf k c) fun _ _ => neverFails_pure _

/-- A notice through one channel never fails, whatever makes the channel. -/
theorem neverFails_deliver (t : Option Trigger) (receiver : Option String) (k : ChannelKind)
    (config : Option ChannelConfig) (n : Notice) :
    (d.deliver t receiver k config n).NeverFails := by
  refine neverFails_bind (neverFails_attempt (clean_kind k)) fun made _ => ?_
  cases made.value? with
  | none => exact neverFails_pure _
  | some c => exact neverFails_attemptThrough t k c n

theorem neverFails_report (a : ChannelAttempt) : (d.report a).NeverFails :=
  neverFails_bind (neverFails_attempt Attempt.clean_nil) fun _ _ => neverFails_pure ()

theorem neverFails_skip (t : Trigger) : (d.skip t).NeverFails := by
  refine neverFails_bind (neverFails_info _ _) fun _ _ => ?_
  exact neverFails_bind (d.neverFails_report _) fun _ _ => neverFails_pure _

theorem neverFails_deliverAll (t : Trigger) (b : ChannelBinding) (n : Notice)
    (receiver : Option String) : (d.deliverAll t b n receiver).NeverFails := by
  have hentry : ∀ entry, (d.deliverEntry t receiver n entry).NeverFails := fun entry =>
    neverFails_bind (d.neverFails_deliver _ _ _ _ _) fun a _ =>
      neverFails_bind (d.neverFails_report a) fun _ _ => neverFails_pure a
  refine neverFails_bind (neverFails_forEach hentry _) fun attempts _ => ?_
  exact neverFails_bind (neverFails_info _ _) fun _ _ => neverFails_pure _

/-- A notice through a binding never fails. -/
theorem neverFails_dispatch (t : Trigger) (b : Option ChannelBinding) (n : Notice)
    (receiver : Option String) : (d.dispatch t b n receiver).NeverFails := by
  cases b with
  | none => exact d.neverFails_skip t
  | some b =>
    rw [dispatch]
    split
    · exact d.neverFails_skip t
    · exact d.neverFails_deliverAll t b n receiver

/-- A test through a binding never fails. -/
theorem neverFails_sendTest (b : ChannelBinding) (message : String) :
    (d.sendTest b message).NeverFails :=
  neverFails_forEach (fun _ => d.neverFails_deliver _ _ _ _ _) b.entries

end Dispatch

/-! ### Notifying -/

/-- A repository whose records are there whenever a look-up succeeds.  Only the look-ups of
workspace identifiers may answer that there is none. -/
structure Repository.Sound (r : Repository) : Prop where
  /-- Workspaces are there. -/
  workspace : ∀ id, r.workspace id ≠ .ok none
  /-- Connections are there. -/
  connection : ∀ id, r.connection id ≠ .ok none
  /-- Sources are there. -/
  source : ∀ id, r.source id ≠ .ok none
  /-- Destinations are there. -/
  destination : ∀ id, r.destination id ≠ .ok none
  /-- Definitions of sources are there. -/
  sourceDefinition : ∀ connection, r.sourceDefinition connection ≠ .ok none
  /-- Definitions of destinations are there. -/
  destinationDefinition : ∀ connection, r.destinationDefinition connection ≠ .ok none

/-- A workspace is known by its identifier, but there is nothing under it. -/
def Repository.Misses (r : Repository) (owner : Except Failure (Option Uuid)) : Prop :=
  ∃ id, owner = .ok (some id) ∧ r.workspace id = .ok none

theorem Repository.Sound.not_misses {r : Repository} (hr : r.Sound)
    (owner : Except Failure (Option Uuid)) : ¬ r.Misses owner :=
  fun ⟨id, _, hnone⟩ => hr.workspace id hnone

theorem Repository.canReturn_lookUp {α : Type} {l : Lookup} {answer : Except Failure α} {a : α}
    (h : (lookUp l answer).CanReturn a) : answer = .ok a := by
  obtain ⟨u, -, hanswer⟩ := Action.canReturn_bind h
  exact Action.canReturn_ofExcept hanswer

/-- A repository that knows one workspace, the owner of everything, and fails otherwise. -/
def Repository.owning (w : Workspace) (e : Failure) : Repository where
  workspaceOfJob _ := .ok (some w.id)
  workspaceOfConnection _ := .ok (some w.id)
  workspace _ := .ok (some w)
  connection _ := .error e
  source _ := .error e
  destination _ := .error e
  sourceDefinition _ := .error e
  destinationDefinition _ := .error e

theorem Repository.sound_owning (w : Workspace) (e : Failure) : (owning w e).Sound := by
  constructor <;> intro _ h <;> simp [owning] at h

namespace Notifier

open JobHerald.Action

variable (n : Notifier)

theorem neverFails_dispatchFor (w : Workspace) (t : Trigger) (notice : Notice) :
    (n.dispatchFor w t notice).NeverFails :=
  neverFails_bind (neverFails_attempt Attempt.clean_nil) fun _ _ => neverFails_pure _

theorem neverFails_track (w : Workspace) (t : Trigger) (r : DispatchReport) (connection : Uuid)
    (attributes : Action Fields) : (n.track w t r connection attributes).NeverFails := by
  rw [track]
  split
  · exact neverFails_pure ()
  · exact neverFails_bind (neverFails_attempt Attempt.clean_nil) fun _ _ => neverFails_pure ()

/-- The connection is named outside of any attempt, so it has to be at hand. -/
theorem neverFails_publish (w : Workspace) (t : Trigger) (notice : Notice)
    {connection : Action Uuid} (hc : connection.NeverFails) (attributes : Action Fields) :
    (n.publish w t notice connection attributes).NeverFails := by
  refine neverFails_bind (n.neverFails_dispatchFor w t notice) fun answer _ => ?_
  cases answer with
  | none => exact neverFails_pure none
  | some report =>
    refine neverFails_bind hc fun c _ => ?_
    exact neverFails_bind (n.neverFails_track _ _ _ _ _) fun _ _ => neverFails_pure _

theorem neverFails_resolveWorkspace (job : Job) (known : Option Workspace) :
    (n.resolveWorkspace job known).NeverFails := by
  cases known with
  | some w => exact neverFails_pure _
  | none =>
    exact neverFails_bind (neverFails_attempt Attempt.clean_nil) fun _ _ => neverFails_pure _

theorem canReturn_workspaceForJob {job : Job} {found : Option Workspace}
    (h : (n.workspaceForJob job).CanReturn found) :
    ∃ id, n.repository.workspaceOfJob job.id = .ok (some id) ∧
      n.repository.workspace id = .ok found := by
  obtain ⟨owner, howner, hanswer⟩ := canReturn_bind h
  cases owner with
  | none =>
    obtain ⟨s, w, w', hrun⟩ := hanswer
    cases hrun
  | some id => exact ⟨id, Repository.canReturn_lookUp howner, Repository.canReturn_lookUp hanswer⟩

/-- A workspace that was found is there, so that it can be named in the next log entry. -/
theorem canReturn_resolveWorkspace {job : Job} {known found : Option Workspace}
    (hm : ¬ n.repository.Misses (n.repository.workspaceOfJob job.id))
    (h : (n.resolveWorkspace job known).CanReturn (some found)) : ∃ w, found = some w := by
  cases known with
  | some w => exact ⟨w, (Option.some.inj (canReturn_pure h)).symm⟩
  | none =>
    obtain ⟨r, hattempt, hvalue⟩ := canReturn_bind h
    have hfound := canReturn_of_attempt Attempt.clean_nil hattempt (canReturn_pure hvalue)
    -- it was answered by a look-up, which does not answer that there is nothing
    obtain ⟨id, howner, hid⟩ := n.canReturn_workspaceForJob hfound
    cases found with
    | none => exact absurd ⟨id, howner, hid⟩ hm
    | some w => exact ⟨w, rfl⟩

/-- A connection that was looked up for a job is named by the job's scope. -/
theorem canReturn_metadataForJob {job : Job} {m : Metadata}
    (h : (n.metadataForJob job).CanReturn m) : ∃ c, job.connectionId = .ok c := by
  obtain ⟨c, hc, -⟩ := canReturn_bind h
  have hok := canReturn_ofExcept hc
  cases hscope : job.connectionId with
  | ok c => exact ⟨c, rfl⟩
  | error f =>
    rw [hscope] at hok
    cases hok

theorem clean_workspace (id : Uuid) : Attempt.Clean [("workspace_id", .str id.render)] := by
  simp only [Attempt.clean_cons, Attempt.clean_nil]
  decide

theorem neverFails_announceJob (event : JobEvent) (job : Job) (attempts : List AttemptStats)
    (w : Workspace) (m : Metadata) (reason : Option String) {c : Uuid}
    (hc : job.connectionId = .ok c) :
    (n.announceJob event job attempts w m reason).NeverFails := by
  refine neverFails_bind (neverFails_attempt Attempt.clean_nil) fun built _ => ?_
  cases built.value? with
  | none => exact neverFails_pure none
  | some notice =>
    have hnamed : (job.connectionId.mapError Failure.identifier) = .ok c := by rw [hc]; rfl
    exact n.neverFails_publish w _ notice (neverFails_ofExcept hnamed) _

theorem neverFails_notifyWorkspace (event : JobEvent) (job : Job) (attempts : List AttemptStats)
    (w : Workspace) (reason : Option String) :
    (n.notifyWorkspace event job attempts w reason).NeverFails := by
  refine neverFails_bind (neverFails_attempt (clean_workspace w.id)) fun resolved hresolved => ?_
  cases hvalue : resolved.value? with
  | none => exact neverFails_pure none
  | some m =>
    -- the connection has been looked up, so the scope of the job names it
    have hm := canReturn_of_attempt (clean_workspace w.id) hresolved hvalue
    obtain ⟨c, hc⟩ := n.canReturn_metadataForJob hm
    exact n.neverFails_announceJob event job attempts w m reason hc

theorem neverFails_notifyEvent (event : JobEvent) {job : Job}
    (hm : ¬ n.repository.Misses (n.repository.workspaceOfJob job.id))
    (attempts : List AttemptStats) (known : Option Workspace) (reason : Option String) :
    (n.notifyEvent event job attempts known reason).NeverFails := by
  refine neverFails_bind (n.neverFails_resolveWorkspace job known) fun found hfound => ?_
  cases found with
  | none => exact neverFails_pure none
  | some w =>
    obtain ⟨w, rfl⟩ := n.canReturn_resolveWorkspace hm hfound
    exact neverFails_bind (neverFails_pure w) fun w _ =>
      n.neverFails_notifyWorkspace event job attempts w reason

/-- A job event only fails if there is nothing under the identifier of the job's workspace. -/
theorem neverFails_notifyJob_of_not_misses (t : Trigger) {job : Job}
    (hm : ∀ event, t.jobEvent? = some event →
      ¬ n.repository.Misses (n.repository.workspaceOfJob job.id))
    (attempts : List AttemptStats) (known : Option Workspace) (reason : Option String) :
    (n.notifyJob t job attempts known reason).NeverFails := by
  refine neverFails_within _ ?_
  cases ht : t.jobEvent? with
  | some event => exact n.neverFails_notifyEvent event (hm event ht) attempts known reason
  | none => exact neverFails_bind (neverFails_log _ _ _) fun _ _ => neverFails_pure none

theorem neverFails_notifyJob (hr : n.repository.Sound) (t : Trigger) (job : Job)
    (attempts : List AttemptStats) (known : Option Workspace) (reason : Option String) :
    (n.notifyJob t job attempts known reason).NeverFails :=
  n.neverFails_notifyJob_of_not_misses t (fun _ _ => hr.not_misses _) attempts known reason

theorem neverFails_notifySchemaChange (connection : Uuid) (diff : CatalogDiff) (breaking : Bool) :
    (n.notifySchemaChange connection diff breaking).NeverFails := by
  refine neverFails_within _ ?_
  refine neverFails_bind (neverFails_attempt Attempt.clean_nil) fun resolved _ => ?_
  cases resolved.value? with
  | none => exact neverFails_pure none
  | some context => exact n.neverFails_publish _ _ _ (neverFails_pure connection) _

theorem neverFails_notifyBreakingChange (change : BreakingChange) (syncsDisabled : Bool) :
    (n.notifyBreakingChange change syncsDisabled).NeverFails := by
  refine neverFails_within _ ?_
  refine neverFails_bind (neverFails_attempt Attempt.clean_nil) fun r _ => ?_
  cases r.value? with
  | none => exact neverFails_pure _
  | some a => exact neverFails_pure a

theorem neverFails_sendTest (b : ChannelBinding) (message : String) :
    (n.sendTest b message).NeverFails := by
  refine neverFails_within _ ?_
  refine neverFails_bind (neverFails_attempt Attempt.clean_nil) fun r _ => ?_
  exact neverFails_bind (neverFails_info _ _) fun _ _ => neverFails_pure _

/-- A notifier none of whose operations fails. -/
structure Dependable (n : Notifier) : Prop where
  /-- Job events, for each trigger, with or without a known workspace. -/
  notifyJob : ∀ t job attempts known reason,
    (n.notifyJob t job attempts known reason).NeverFails
  /-- Failed jobs. -/
  failJob : ∀ reason job attempts, (n.failJob reason job attempts).NeverFails
  /-- Successful jobs. -/
  succeedJob : ∀ job attempts, (n.succeedJob job attempts).NeverFails
  /-- Disabled connections. -/
  disableConnection : ∀ job attempts, (n.disableConnection job attempts).NeverFails
  /-- Connections about to be disabled. -/
  warnBeforeDisabling : ∀ job attempts, (n.warnBeforeDisabling job attempts).NeverFails
  /-- Changed schemas. -/
  notifySchemaChange : ∀ connection diff breaking,
    (n.notifySchemaChange connection diff breaking).NeverFails
  /-- Breaking changes. -/
  notifyBreakingChange : ∀ change syncsDisabled,
    (n.notifyBreakingChange change syncsDisabled).NeverFails
  /-- Tests. -/
  sendTest : ∀ b message, (n.sendTest b message).NeverFails

/-- **No operation of a notifier fails.**  The dispatcher, the sinks and the replies of the
transport are arbitrary, and each look-up may fail; only what a look-up promises has to be
there when it succeeds. -/
theorem operations_never_fail (n : Notifier) (hr : n.repository.Sound) : n.Dependable where
  notifyJob := n.neverFails_notifyJob hr
  failJob reason job attempts := n.neverFails_notifyJob hr .failure job attempts none reason
  succeedJob job attempts := n.neverFails_notifyJob hr .success job attempts none none
  disableConnection job attempts := n.neverFails_notifyJob hr .disabled job attempts none none
  warnBeforeDisabling job attempts :=
    n.neverFails_notifyJob hr .disableWarning job attempts none none
  notifySchemaChange := n.neverFails_notifySchemaChange
  notifyBreakingChange := n.neverFails_notifyBreakingChange
  sendTest := n.neverFails_sendTest

/-- A notifier whose repository only knows one workspace, and whose channels and sinks fail
whenever they are called. -/
def beset (w : Workspace) (e : Failure) : Notifier :=
  ⟨.owning w e, fun _ _ _ => .fail e,
    Dispatch.dispatcher ⟨none, fun _ _ _ => .fail e, fun _ _ _ _ => .fail e⟩, ⟨""⟩⟩

theorem dependable_beset :
    (beset ⟨default, "Acme", none, none⟩ .longInteger).repository.Sound ∧
      (beset ⟨default, "Acme", none, none⟩ .longInteger).Dependable :=
  ⟨Repository.sound_owning _ _, operations_never_fail _ (Repository.sound_owning _ _)⟩

end Notifier

end JobHerald
