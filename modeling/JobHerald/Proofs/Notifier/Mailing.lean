import Mathlib.Order.Nat
import JobHerald.Proofs.Channel.Mailing
import JobHerald.Proofs.Dispatch.Ending
import JobHerald.Proofs.Notifier.Resolved

/-!
# Who gets emails

A notification is about a workspace: the owner of a job, or of a connection.  Its emails go to that
workspace alone.  The address takes three ways to the email channel, as an argument of the notice,
as a field of what the notice is about and as the receiver of the channel, and is the same on all of
them.

## Main definitions

* `NotifySettings.templateOf` — the template for a trigger.
* `Workspace.emailEntries` — how many emails a workspace wants for a trigger.
* `Metrics.Offline`, `Analytics.Offline` — sinks that make no request.
* `Mail.IsOwed` — the emails that a workspace may get for a trigger.
* `Notifier.EmailsOwner` — requests that include no other emails, and not too many.

## Main results

* `Dispatch.mails_dispatch` — a dispatch sends an email at most for each entry for emails.
* `Notifier.mails_publish` — what is published is mailed to its workspace only.
* `Notifier.emails_owner_only` — **a notification is mailed to the workspace that it is about, with
  the template for its trigger, and to no one else.**
-/

namespace JobHerald

open JobHerald.Action

/-! ### Templates and entries -/

/-- The template for a trigger. -/
def NotifySettings.templateOf (s : NotifySettings) : Trigger → String
  | .failure => s.jobFailureTemplate
  | .success => s.jobSuccessTemplate
  | .disabled => s.disabledTemplate
  | .disableWarning => s.disableWarningTemplate
  | .schemaChange => s.schemaTemplate

/-- How many entries for emails a binding has. -/
def ChannelBinding.emailEntries : Option ChannelBinding → Nat
  | some b => b.kinds.countP (· == .email)
  | none => 0

/-- How many entries for emails a workspace has bound to a trigger. -/
def Workspace.emailEntries (w : Workspace) (t : Trigger) : Nat :=
  ChannelBinding.emailEntries (w.policy.bind fun p => p.bindingFor t)

/-- An email that a workspace may get for a trigger: it goes to the address of the workspace, with
the template of the trigger, on behalf of the account of the settings, and all of these exist. -/
def Mail.IsOwed (x : Workspace) (t : Trigger) (clock : Int) (had : Except Failure Settings)
    (rq : Request) : Prop :=
  ∃ known header email values, had = .ok known ∧ known.notify.header clock = .ok header ∧
    x.email = some email ∧ known.notify.apiUrl ≠ "" ∧ known.notify.templateOf t ≠ "" ∧
    rq = request known header emailEndpoint
      (emailPayload email.address (known.notify.templateOf t) values)

/-! ### Sinks -/

/-- Metrics that make no request and leave the settings alone. -/
def Metrics.Offline (m : Metrics) : Prop := ∀ t k o s w, ∃ r, (m t k o).Ends s w r []

/-- Analytics that make no request and leave the settings alone. -/
def Analytics.Offline (k : Analytics) : Prop := ∀ w event fs s world,
  ∃ r, (k w event fs).Ends s world r []

theorem Metrics.offline_logging : logging.Offline := fun _ _ _ _ _ => ⟨_, ends_log _ _ _⟩

theorem Metrics.offline_collector (fault : Nat → Option Failure) : (collector fault).Offline :=
  fun t k o s w => ⟨_, ends_extend (collector_apply fault t k o s w)⟩

theorem Analytics.offline_logging : logging.Offline := by
  intro w event fs s world
  rcases logging_cases w event fs with ⟨e, h⟩ | ⟨l, name, fs', h⟩
  · exact ⟨_, h ▸ ends_fail e⟩
  · exact ⟨_, h ▸ ends_log l name fs'⟩

theorem Analytics.offline_collector (fault : Nat → Option Failure) : (collector fault).Offline :=
  fun w event fs s world => ⟨_, ends_extend (collector_apply fault w event fs s world)⟩

/-! ### Dispatching -/

section Dispatching

variable {s : Surroundings} {had : Except Failure Settings} {good : Request → Prop}

/-- A channel of this library sends an email at most if it is one for emails. -/
theorem Channel.mails_invoke {known : Settings} {kind : ChannelKind}
    {config : Option ChannelConfig} {receiver : Option String} {n : Notice}
    (hbulk : n.isBulk = false)
    (hgood : ∀ rq, Mail.Account.Emails ⟨known.notify, receiver⟩ n s.clock known rq → good rq) :
    ((ofSettings known kind config receiver).invoke n).Mails s (.ok known) good
      (if kind == .email then 1 else 0) := by
  rw [invoke]
  split
  · cases kind with
    | slack => exact Slack.Target.mails_deliver _ n
    | email => exact (Mail.Account.mails_deliver _ hbulk).mono hgood le_rfl
    | webhook => exact Endpoint.Target.mails_deliver _ n
  · exact (mails_fail _).mono (fun _ h => h) (Nat.zero_le _)

namespace Dispatch

/-- An attempt sends the emails of its announcement. -/
theorem mails_attemptThrough {t : Option Trigger} {kind : ChannelKind} {c : Channel} {n : Notice}
    {k : Nat} (hc : (c.invoke n).Mails s had good k) {label : Json}
    (hlabel : c.label = pure label) :
    (attemptThrough t kind c n).Mails s had good k := by
  intro w hw
  obtain ⟨v, rqs, hends, hmailed⟩ := hc w hw
  exact ⟨_, rqs, ends_attemptThrough hends hlabel, hmailed⟩

variable {given : Option Settings} {metrics : Metrics} {receiver : Option String} {n : Notice}
  (hgiven : ∀ known, given = some known → had = .ok known)

variable (hmetrics : metrics.Offline) (hbulk : n.isBulk = false)
  (hgood : ∀ known, had = .ok known →
    ∀ rq, Mail.Account.Emails ⟨known.notify, receiver⟩ n s.clock known rq → good rq)

section Delivering

include hgiven hbulk hgood

/-- A delivery sends an email at most if it is one for emails. -/
theorem mails_deliver (t : Option Trigger) (kind : ChannelKind) (config : Option ChannelConfig) :
    ((Dispatch.standard given metrics).deliver t receiver kind config n).Mails s had good
      (if kind == .email then 1 else 0) := by
  -- making the channel sends nothing
  have hmade := fun w hw =>
    settingsOr_eq given hgiven hw ▸ ends_made (s := s) (w := w) given kind config receiver
  cases had with
  -- without settings no channel is made, and none is asked
  | error e =>
    refine (mails_bind_of_ends hmade ?_).mono (fun _ h => h) (Nat.zero_le _)
    simp only [Except.map, Attempt.result, OperationResult.value?_ofFailure]
    exact mails_pure _
  | ok known =>
    obtain ⟨label, hlabel⟩ := Channel.exists_label_ofSettings known kind config receiver
    exact mails_bind_of_ends hmade
      (mails_attemptThrough (Channel.mails_invoke hbulk (hgood known rfl)) hlabel)

end Delivering

section Reporting

include hmetrics

theorem mails_report (a : ChannelAttempt) :
    ((Dispatch.standard given metrics).report a).Mails s had good 0 := by
  have hcall : (metrics a.trigger a.kind a.outcome).Mails s had good 0 :=
    mails_of_ends fun w => hmetrics _ _ _ s w
  exact mails_bind_last (mails_attemptUnless Attempt.clean_nil hcall) fun _ => mails_pure ()

theorem mails_skip (t : Trigger) :
    ((Dispatch.standard given metrics).skip t).Mails s had good 0 := by
  refine mails_bind_last (mails_log _ _ _) fun _ => ?_
  exact mails_bind_last (mails_report hmetrics _) fun _ => mails_pure _

include hgiven hbulk hgood

/-- A report of a delivery sends no further email. -/
theorem mails_deliverEntry (t : Trigger) (entry : ChannelKind × Option ChannelConfig) :
    ((Dispatch.standard given metrics).deliverEntry t receiver n entry).Mails s had good
      (if entry.1 == .email then 1 else 0) := by
  refine mails_bind_last (mails_deliver hgiven hbulk hgood (some t) entry.1 entry.2) fun a => ?_
  exact mails_bind_last (mails_report hmetrics a) fun _ => mails_pure a

/-- A dispatch sends an email at most for each entry for emails. -/
theorem mails_dispatch (t : Trigger) (binding : Option ChannelBinding) :
    ((Dispatch.standard given metrics).dispatch t binding n receiver).Mails s had good
      (ChannelBinding.emailEntries binding) := by
  have hskip : ((Dispatch.standard given metrics).skip t).Mails s had good
      (ChannelBinding.emailEntries binding) :=
    (mails_skip hmetrics t).mono (fun _ h => h) (Nat.zero_le _)
  cases binding with
  | none => exact hskip
  | some b =>
    rw [dispatch]
    split
    · exact hskip
    · have hentries := mails_forEach (p := fun entry => entry.1 == .email)
        (mails_deliverEntry hgiven hmetrics hbulk hgood t) b.entries
      -- the entries have the kinds of the binding
      have hcount : ChannelBinding.emailEntries (some b)
          = b.entries.countP fun entry => entry.1 == .email := by
        rw [ChannelBinding.emailEntries, ← b.map_fst_entries, List.countP_map]
        rfl
      rw [hcount]
      refine mails_bind_last hentries fun _ => ?_
      exact mails_bind_last (mails_log _ _ _) fun _ => mails_pure _

end Reporting

end Dispatch

end Dispatching

/-! ### Steps of the notifier -/

section Steps

variable {α : Type} {s : Surroundings} {had : Except Failure Settings} {good : Request → Prop}

/-- What only asks the repository sends no email. -/
theorem Action.Asks.mails {x : Action α} {r : Except Failure α} {ls : List Lookup}
    (hx : x.Asks s r ls) : x.Mails s had good 0 := by
  refine mails_of_ends fun w => ⟨r, ?_⟩
  have hquiet : (ls.map Effect.lookedUp).filterMap Effect.request? = [] := by
    rw [List.filterMap_map, List.filterMap_eq_nil_iff]
    exact fun _ _ => rfl
  rw [← hquiet]
  exact ends_extend (hx w)

theorem Action.Reads.mails {x : Action α} (hx : x.Reads) : x.Mails s had good 0 := by
  obtain ⟨r, hasks⟩ := hx s
  exact hasks.mails

theorem Repository.mails_lookUp (l : Lookup) (answer : Except Failure α) :
    (lookUp l answer).Mails s had good 0 :=
  (asks_lookUp l rfl).mails

theorem Repository.mails_metadata (r : Repository) (c : Uuid) :
    (r.metadata c).Mails s had good 0 := by
  refine mails_bind_last (mails_lookUp _ _) fun found => ?_
  refine mails_bind_last (reads_present _ found).mails fun connection => ?_
  refine mails_bind_last (mails_lookUp _ _) fun source => ?_
  refine mails_bind_last (mails_lookUp _ _) fun destination => ?_
  refine mails_bind_last (mails_lookUp _ _) fun sourceDefinition => ?_
  exact mails_bind_last (mails_lookUp _ _) fun destinationDefinition => mails_pure _

end Steps

namespace Notifier

/-! ### The address of a notice -/

/-- A notice for a workspace about what a trigger stands for. -/
structure IsFor (notice : Notice) (w : Workspace) (t : Trigger) : Prop where
  /-- It names the address of the workspace, if it has one. -/
  receiver : notice.receiver? = receiverOf w
  /-- It is not sent in bulk. -/
  single : notice.isBulk = false
  /-- Its template is that of the trigger. -/
  template : ∀ settings : NotifySettings,
    settings.templateFor notice.capability = settings.templateOf t

variable {n : Notifier} {s : Surroundings} {had : Except Failure Settings}
  {good : Request → Prop} {w : Workspace}

/-- The notice about a job event is one for the workspace. -/
theorem isFor_of_jobNotice {event : JobEvent} {job : Job} {attempts : List AttemptStats}
    {m : Metadata} {reason : Option String} {notice : Notice}
    (h : (n.jobNotice event job attempts w m reason).CanReturn notice) :
    IsFor notice w event.trigger := by
  -- an event of the connection has the address of the workspace in it
  have hevent : ∀ {c : ConnectionEvent}, (connectionEvent job w m reason).CanReturn c →
      c.receiver = w.email := by
    intro c hc
    obtain ⟨source, -, hc⟩ := canReturn_bind hc
    obtain ⟨destination, -, hc⟩ := canReturn_bind hc
    obtain ⟨surroundings, -, hc⟩ := canReturn_bind hc
    obtain ⟨description, -, hc⟩ := canReturn_bind hc
    obtain ⟨connection, -, hc⟩ := canReturn_bind hc
    rw [← canReturn_pure hc]
  cases event with
  | failure =>
    obtain ⟨summary, -, h⟩ := canReturn_bind h
    rw [← canReturn_pure h]
    exact ⟨rfl, rfl, fun _ => rfl⟩
  | success =>
    obtain ⟨summary, -, h⟩ := canReturn_bind h
    rw [← canReturn_pure h]
    exact ⟨rfl, rfl, fun _ => rfl⟩
  | disabled =>
    obtain ⟨c, hc, h⟩ := canReturn_bind h
    rw [← canReturn_pure h]
    exact ⟨congrArg (Option.map Email.address) (hevent hc), rfl, fun _ => rfl⟩
  | disableWarning =>
    obtain ⟨c, hc, h⟩ := canReturn_bind h
    rw [← canReturn_pure h]
    exact ⟨congrArg (Option.map Email.address) (hevent hc), rfl, fun _ => rfl⟩

/-- What an account with the address of a workspace sends about a notice for that workspace is owed
to it: the notice and the account name the same receiver. -/
theorem IsFor.isOwed {notice : Notice} {t : Trigger} (h : IsFor notice w t) {known : Settings}
    {clock : Int} {rq : Request}
    (hrq : Mail.Account.Emails ⟨known.notify, receiverOf w⟩ notice clock known rq) :
    Mail.IsOwed w t clock (.ok known) rq := by
  obtain ⟨header, receiver, values, hheader, hreceiver, hconfigured, rfl⟩ := hrq
  rw [h.template] at hconfigured ⊢
  -- the receiver of the notice and that of the account are both the address of the workspace
  have hnamed : receiverOf w = some receiver := by
    rw [Mail.Account.receiverFor, h.receiver] at hreceiver
    split at hreceiver
    · next hfilter =>
      cases hreceiver
      exact (Option.filter_eq_some_iff.mp hfilter).1
    · exact (Option.filter_eq_some_iff.mp hreceiver).1
  obtain ⟨email, hemail, rfl⟩ := Option.map_eq_some_iff.mp hnamed
  simp only [Mail.Account.isConfigured, Bool.and_eq_true, bne_iff_ne] at hconfigured
  exact ⟨known, header, email, values, rfl, hheader, hemail, hconfigured.1, hconfigured.2, rfl⟩

/-! ### Notifications -/

section Notifying

variable {given : Option Settings} {metrics : Metrics}
  (hd : n.dispatcher = (Dispatch.standard given metrics).dispatcher)
  (hgiven : ∀ known, given = some known → had = .ok known) (hmetrics : metrics.Offline)
  (hanalytics : n.analytics.Offline)

theorem mails_bindingFor (w : Workspace) (t : Trigger) :
    (bindingFor w t).Mails s had good 0 := by
  rw [bindingFor]
  cases w.policy with
  | some p => exact mails_pure _
  | none => exact mails_bind_last (mails_log _ _ _) fun _ => mails_pure none

include hd hgiven hmetrics in
theorem mails_dispatchFor {t : Trigger} {notice : Notice} (hnotice : IsFor notice w t) :
    (n.dispatchFor w t notice).Mails s had (Mail.IsOwed w t s.clock had) (w.emailEntries t) := by
  refine mails_bind_last (mails_attemptUnless Attempt.clean_nil ?_) fun _ => mails_pure _
  refine mails_bind_first (mails_bindingFor w t) fun binding hbinding => ?_
  rw [canReturn_bindingFor hbinding, hd]
  refine Dispatch.mails_dispatch hgiven hmetrics hnotice.single ?_ t _
  rintro known rfl rq hrq
  exact hnotice.isOwed hrq

include hanalytics in
theorem mails_track (w : Workspace) (t : Trigger) (r : DispatchReport) (c : Uuid)
    {attributes : Action Fields} (h : attributes.Mails s had good 0) :
    (n.track w t r c attributes).Mails s had good 0 := by
  rw [track]
  split
  · exact mails_pure ()
  · have hcall : (attributes >>= fun base =>
        n.analytics w.id t.word (base ++ Tracking.notification c r)).Mails s had good 0 :=
      mails_bind_last h fun base => mails_of_ends fun world => hanalytics _ _ _ s world
    exact mails_bind_last (mails_attemptUnless Attempt.clean_nil hcall) fun _ => mails_pure ()

include hd hgiven hmetrics hanalytics

/-- What is published is mailed to its workspace only: the notice, the channel and the binding are
all of that workspace. -/
theorem mails_publish {t : Trigger} {notice : Notice} (hnotice : IsFor notice w t)
    {connection : Action Uuid}
    (hconnection : connection.Mails s had (Mail.IsOwed w t s.clock had) 0)
    {attributes : Action Fields} (h : attributes.Mails s had (Mail.IsOwed w t s.clock had) 0) :
    (n.publish w t notice connection attributes).Mails s had (Mail.IsOwed w t s.clock had)
      (w.emailEntries t) := by
  refine mails_bind_last (mails_dispatchFor hd hgiven hmetrics hnotice) fun report => ?_
  cases report with
  | none => exact mails_pure none
  | some report =>
    refine mails_bind_last hconnection fun c => ?_
    exact mails_bind_last (mails_track hanalytics w t report c h) fun _ => mails_pure _

theorem mails_notifyWorkspace (event : JobEvent) (job : Job) (attempts : List AttemptStats)
    (w : Workspace) (reason : Option String) :
    (n.notifyWorkspace event job attempts w reason).Mails s had
      (Mail.IsOwed w event.trigger s.clock had) (w.emailEntries event.trigger) := by
  -- nothing is mailed before the announcement
  have hmetadata : (n.metadataForJob job).Mails s had
      (Mail.IsOwed w event.trigger s.clock had) 0 :=
    mails_bind_last (mails_ofExcept _) fun c => n.repository.mails_metadata c
  refine mails_bind_first (mails_attemptUnless (clean_workspace w.id) hmetadata)
    fun resolved _ => ?_
  cases resolved.value? with
  | none => exact (mails_pure none).mono (fun _ h => h) (Nat.zero_le _)
  | some m =>
    refine mails_bind_first (mails_attemptUnless Attempt.clean_nil
      (reads_jobNotice event job attempts w m reason).mails) fun built hbuilt => ?_
    cases hvalue : built.value? with
    | none => exact (mails_pure none).mono (fun _ h => h) (Nat.zero_le _)
    | some notice =>
      have hnotice := isFor_of_jobNotice (canReturn_of_attempt Attempt.clean_nil hbuilt hvalue)
      have hattributes : (jobAttributes job m).Mails s had
          (Mail.IsOwed w event.trigger s.clock had) 0 :=
        mails_bind_last (reads_present _ _).mails fun source =>
          mails_bind_last (reads_present _ _).mails fun destination => mails_pure _
      exact mails_publish hd hgiven hmetrics hanalytics hnotice (mails_ofExcept _) hattributes

/-- A job event is mailed to the workspace that is found, whichever that is. -/
theorem mails_notifyEvent {job : Job} {known : Option Workspace} {k : Nat} (event : JobEvent)
    (attempts : List AttemptStats) (reason : Option String)
    (hgood : ∀ w, n.Finds job known w → ∀ rq, Mail.IsOwed w event.trigger s.clock had rq → good rq)
    (hk : ∀ w, n.Finds job known w → w.emailEntries event.trigger ≤ k) :
    (n.notifyEvent event job attempts known reason).Mails s had good k := by
  -- nothing is mailed while the workspace is looked up
  have hresolve : (n.resolveWorkspace job known).Mails s had good 0 := by
    cases known with
    | some w => exact mails_pure _
    | none =>
      have hworkspace : (n.workspaceForJob job).Mails s had good 0 := by
        refine mails_bind_last (Repository.mails_lookUp _ _) fun owner => ?_
        cases owner with
        | none => exact mails_fail _
        | some id => exact Repository.mails_lookUp _ _
      exact mails_bind_last (mails_attemptUnless Attempt.clean_nil hworkspace) fun _ => mails_pure _
  refine mails_bind_first hresolve fun found hfound => ?_
  cases found with
  | none => exact (mails_pure none).mono (fun _ h => h) (Nat.zero_le _)
  | some found =>
    refine mails_bind_first (reads_present _ found).mails fun w hw => ?_
    rw [canReturn_present hw] at hfound
    have hfinds := finds_of_canReturn hfound
    exact (mails_notifyWorkspace hd hgiven hmetrics hanalytics event job attempts w reason).mono
      (hgood w hfinds) (hk w hfinds)

theorem mails_notifyJob {t : Trigger} {job : Job} {known : Option Workspace} {k : Nat}
    (attempts : List AttemptStats) (reason : Option String)
    (hgood : ∀ w, n.Finds job known w → ∀ rq, Mail.IsOwed w t s.clock had rq → good rq)
    (hk : ∀ w, n.Finds job known w → w.emailEntries t ≤ k) :
    (n.notifyJob t job attempts known reason).Mails s had good k := by
  refine mails_within ?_
  cases ht : t.jobEvent? with
  | none =>
    exact (mails_bind_last (mails_log _ _ _) fun _ => mails_pure none).mono (fun _ h => h)
      (Nat.zero_le _)
  | some event =>
    have htrigger : event.trigger = t := by
      cases t <;> cases ht <;> rfl
    subst htrigger
    exact mails_notifyEvent hd hgiven hmetrics hanalytics event attempts reason hgood hk

omit hd hgiven hmetrics hanalytics in
/-- What a changed schema is announced with names the owner of the connection and its address. -/
theorem owns_of_schemaContext {c : Uuid} {diff : CatalogDiff} {breaking : Bool} {m : Metadata}
    {update : SchemaUpdate} (h : (n.schemaContext c diff breaking).CanReturn (w, m, update)) :
    n.Owns c w ∧ update.receiver = w.email := by
  obtain ⟨⟨id, found⟩, hworkspace, h⟩ := canReturn_bind h
  obtain ⟨m', -, h⟩ := canReturn_bind h
  obtain ⟨w', hw', h⟩ := canReturn_bind h
  obtain ⟨source, -, h⟩ := canReturn_bind h
  cases canReturn_pure h
  cases canReturn_present hw'
  obtain ⟨owner, howner, h⟩ := canReturn_bind hworkspace
  cases owner with
  -- without an owner the context cannot be returned
  | none =>
    obtain ⟨s, w, w', hrun⟩ := h
    cases hrun
  | some id' =>
    obtain ⟨found, hfound, h⟩ := canReturn_bind h
    cases canReturn_pure h
    exact ⟨⟨id, Repository.canReturn_lookUp howner, Repository.canReturn_lookUp hfound⟩, rfl⟩

omit hd hgiven hmetrics hanalytics in
theorem mails_schemaContext (c : Uuid) (diff : CatalogDiff) (breaking : Bool) :
    (n.schemaContext c diff breaking).Mails s had good 0 := by
  have hworkspace : (n.workspaceForConnection c).Mails s had good 0 := by
    refine mails_bind_last (Repository.mails_lookUp _ _) fun owner => ?_
    cases owner with
    | none => exact mails_fail _
    | some id => exact mails_bind_last (Repository.mails_lookUp _ _) fun _ => mails_pure _
  refine mails_bind_last hworkspace fun found => ?_
  refine mails_bind_last (n.repository.mails_metadata c) fun m => ?_
  refine mails_bind_last (reads_present _ _).mails fun w => ?_
  exact mails_bind_last (reads_present _ _).mails fun source => mails_pure _

theorem mails_notifySchemaChange {c : Uuid} {k : Nat} (diff : CatalogDiff) (breaking : Bool)
    (hgood : ∀ w, n.Owns c w → ∀ rq, Mail.IsOwed w .schemaChange s.clock had rq → good rq)
    (hk : ∀ w, n.Owns c w → w.emailEntries .schemaChange ≤ k) :
    (n.notifySchemaChange c diff breaking).Mails s had good k := by
  refine mails_within ?_
  refine mails_bind_first (mails_attemptUnless Attempt.clean_nil (mails_schemaContext c diff
    breaking)) fun resolved hresolved => ?_
  cases hvalue : resolved.value? with
  | none => exact (mails_pure none).mono (fun _ h => h) (Nat.zero_le _)
  | some context =>
    obtain ⟨w, m, update⟩ := context
    obtain ⟨howns, hreceiver⟩ :=
      owns_of_schemaContext (canReturn_of_attempt Attempt.clean_nil hresolved hvalue)
    have hnotice : IsFor (.schemaPropagated diff.summary update) w .schemaChange :=
      ⟨congrArg (Option.map Email.address) hreceiver, rfl, fun _ => rfl⟩
    have hattributes : (schemaAttributes breaking m).Mails s had
        (Mail.IsOwed w .schemaChange s.clock had) 0 :=
      mails_bind_last (reads_present _ _).mails fun source => mails_pure _
    exact (mails_publish hd hgiven hmetrics hanalytics hnotice (mails_pure c) hattributes).mono
      (hgood w howns) (hk w howns)

end Notifying

/-! ### Only the owner -/

/-- Requests on behalf of the workspace that a property singles out, about what a trigger stands
for. -/
structure EmailsOwner (owner : Workspace → Prop) (t : Trigger) (clock : Int)
    (had : Except Failure Settings) (rqs : List Request) : Prop where
  /-- Each email among them is owed to the workspace. -/
  owed : ∀ rq ∈ rqs, rq.isAuthorized = true → ∃ w, owner w ∧ Mail.IsOwed w t clock had rq
  /-- There is at most one for each entry for emails that it has bound to the trigger. -/
  few : ∀ w, owner w → rqs.countP Request.isAuthorized ≤ w.emailEntries t
  /-- There is none if the workspace has no address, or the settings name no service or no template
  for the trigger. -/
  silent : ∀ w known, owner w → had = .ok known →
    w.email = none ∨ known.notify.apiUrl = "" ∨ known.notify.templateOf t = "" →
    ∀ rq ∈ rqs, rq.isAuthorized = false

/-- Requests that are bounded by what is owed to the workspace, whichever that is. -/
theorem emailsOwner_of_mails {α : Type} {x : Action α} {owner : Workspace → Prop} {t : Trigger}
    (hunique : ∀ w w', owner w → owner w' → w = w')
    (hx : ∀ good k, (∀ w, owner w → ∀ rq, Mail.IsOwed w t s.clock had rq → good rq) →
      (∀ w, owner w → w.emailEntries t ≤ k) → x.Mails s had good k)
    {world : World} (hworld : (settings s world).1 = had) :
    ∃ r rqs, x.Ends s world r rqs ∧ EmailsOwner owner t s.clock had rqs := by
  -- the bound is that of the one workspace, or nothing at all without any
  obtain ⟨k, hk, hleast⟩ : ∃ k, (∀ w, owner w → w.emailEntries t ≤ k) ∧
      ∀ w, owner w → k ≤ w.emailEntries t := by
    by_cases hnone : ∃ w, owner w
    · obtain ⟨w, hw⟩ := hnone
      exact ⟨w.emailEntries t, fun w' hw' => by rw [hunique w w' hw hw'],
        fun w' hw' => by rw [hunique w w' hw hw']⟩
    · exact ⟨0, fun w hw => absurd ⟨w, hw⟩ hnone, fun w hw => absurd ⟨w, hw⟩ hnone⟩
  obtain ⟨r, rqs, hends, hmailed⟩ :=
    hx (fun rq => ∃ w, owner w ∧ Mail.IsOwed w t s.clock had rq) k
      (fun w hw rq hrq => ⟨w, hw, hrq⟩) hk world hworld
  refine ⟨r, rqs, hends, hmailed.good, fun w hw => hmailed.few.trans (hleast w hw), ?_⟩
  intro w known hw hknown hlacks rq hrq
  by_contra hauthorized
  obtain ⟨w', hw', known', header, email, values, hknown', -, hemail, hservice, htemplate, -⟩ :=
    hmailed.good rq hrq (eq_true_of_ne_false hauthorized)
  rw [hknown, Except.ok.injEq] at hknown'
  subst hknown'
  rw [← hunique w w' hw hw'] at hemail
  rcases hlacks with hlacks | hlacks | hlacks
  · rw [hlacks] at hemail
    cases hemail
  · exact hservice hlacks
  · exact htemplate hlacks

/-- **A notification is mailed to the workspace that it is about, with the template for its trigger,
and to no one else.**  This holds of job events, whether their workspace is known or looked up, and
of changed schemas, whatever the repository answers, the policy binds and the transport replies, as
long as the channels are made for the settings of the process. -/
theorem emails_owner_only (n : Notifier) {given : Option Settings} {metrics : Metrics}
    (hd : n.dispatcher = (Dispatch.standard given metrics).dispatcher) (hmetrics : metrics.Offline)
    (hanalytics : n.analytics.Offline) (s : Surroundings) (world : World)
    (hgiven : ∀ known, given = some known → (settings s world).1 = .ok known) :
    (∀ t job attempts known reason, ∃ r rqs,
      (n.notifyJob t job attempts known reason).Ends s world r rqs ∧
        EmailsOwner (n.Finds job known) t s.clock (settings s world).1 rqs) ∧
      ∀ c diff breaking, ∃ r rqs,
        (n.notifySchemaChange c diff breaking).Ends s world r rqs ∧
          EmailsOwner (n.Owns c) .schemaChange s.clock (settings s world).1 rqs := by
  refine ⟨fun t job attempts known reason => ?_, fun c diff breaking => ?_⟩
  · exact emailsOwner_of_mails (fun w w' hw hw' => hw.unique hw')
      (fun good k => mails_notifyJob hd hgiven hmetrics hanalytics attempts reason) rfl
  · refine emailsOwner_of_mails ?_
      (fun good k => mails_notifySchemaChange hd hgiven hmetrics hanalytics diff breaking) rfl
    -- a connection has one owner, and that identifier one workspace
    rintro w w' ⟨id, hid, hw⟩ ⟨id', hid', hw'⟩
    rw [hid] at hid'
    cases hid'
    rw [hw] at hw'
    cases hw'
    rfl

/-- Settings that name an email service, and templates for failed jobs and for announcements. -/
def emailing : Settings :=
  { Settings.bare with
    notify :=
      ⟨"https://notify.example/", some "herald", some "secret", "failed", "", "", "", "", "warning",
        "disabled"⟩ }

/-- The workspace that wants to be told of a failed job by email gets one. -/
theorem emails_owner_only_alerting :
    Metrics.Offline (Metrics.collector fun _ => some .longInteger) ∧
      Analytics.Offline alerting.analytics ∧ alerting.Finds failedJob none alerted ∧
      ∃ r rqs, (alerting.notifyJob .failure failedJob [] none none).Ends .busy (.settled emailing)
          r rqs ∧
        EmailsOwner (alerting.Finds failedJob none) .failure 0 (.ok emailing) rqs ∧
        rqs.countP Request.isAuthorized = 1 := by
  have hmetrics : Metrics.Offline (Metrics.collector fun _ => some .longInteger) :=
    Metrics.offline_collector _
  have hanalytics : Analytics.Offline alerting.analytics :=
    Analytics.offline_collector fun _ => some .longInteger
  have hcount : ((alerting.notifyJob .failure failedJob [] none none .busy
      (.settled emailing)).2.journal.filterMap Effect.request?).countP Request.isAuthorized
        = 1 := by
    decide +kernel
  obtain ⟨r, rqs, hends, howner⟩ := (@emails_owner_only alerting none _ rfl hmetrics
    hanalytics .busy (.settled emailing) nofun).1 .failure failedJob [] none none
  refine ⟨hmetrics, hanalytics, .owner rfl rfl, r, rqs, hends, howner, ?_⟩
  obtain ⟨w', es, hrun, hjournal, rfl, -⟩ := hends
  rw [hrun, hjournal] at hcount
  exact hcount

end Notifier

end JobHerald
