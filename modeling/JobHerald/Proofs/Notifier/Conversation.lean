import JobHerald.Proofs.Dispatch.Pairing
import JobHerald.Proofs.Notifier.Pairing

/-!
# Conversations

A dispatcher and a notifier can be asked for many things, one after the other, with settings that
are given to them or else with those of the process; the notifier may be given a dispatcher of its
own.  Whatever two processes differ in, a conversation adds nothing to it: the channels and the
notifiers that are made are the same, as long as the settings differ in the account of the email
service alone.

## Main definitions

* `Conversation` — all that can be asked of a dispatcher and a notifier.
* `Pairing.Agrees` — processes from whose settings the same channels are made.

## Main results

* `Dispatch.dispatcher_eq` — dispatchers are the same if the channels that they make are.
* `Conversation.steady` — **a conversation does alike in both processes.**
-/

namespace JobHerald

open JobHerald.Action

/-! ### What is made -/

/-- The operations of dispatching do not use the settings but for making channels. -/
theorem Dispatch.dispatcher_eq {d d' : Dispatch} (hmetrics : d'.metrics = d.metrics)
    (hmaker : ∀ kind config receiver, d'.maker kind config d'.settings receiver
      = d.maker kind config d.settings receiver) : d'.dispatcher = d.dispatcher := by
  -- a delivery uses the settings in the making of its channel only
  have hdeliver : d'.deliver = d.deliver := by
    funext trigger receiver kind config n
    rw [deliver, deliver, hmaker]
  have hreport : d'.report = d.report := by
    funext a
    rw [report, report, hmetrics]
  have hentry : d'.deliverEntry = d.deliverEntry := by
    funext trigger receiver n entry
    rw [deliverEntry, deliverEntry, hdeliver, hreport]
  have hdispatch : d'.dispatch = d.dispatch := by
    funext t b n receiver
    simp only [dispatch, skip, deliverAll, hreport, hentry]
  have hsendTest : d'.sendTest = d.sendTest := by
    funext b message
    rw [sendTest, sendTest, hdeliver]
  rw [dispatcher, dispatcher, hdispatch, hdeliver, hsendTest]

/-- The notifier that is made from some settings, unless there is a dispatcher with that one. -/
def Notifier.ofSettings (repository : Repository) (analytics : Analytics) (metrics : Metrics)
    (dispatcher : Option Dispatcher) (s : Settings) : Notifier :=
  ⟨repository, analytics, dispatcher.getD (Dispatch.standard (some s) metrics).dispatcher,
    WebUrls.ofBase s.webApp.url⟩

/-- Notifiers are made without a look at the account. -/
theorem Settings.SameButAccount.notifier_eq {known known' : Settings}
    (h : known.SameButAccount known') (repository : Repository) (analytics : Analytics)
    (metrics : Metrics) (dispatcher : Option Dispatcher) :
    Notifier.ofSettings repository analytics metrics dispatcher known'
      = Notifier.ofSettings repository analytics metrics dispatcher known := by
  have hdispatcher : (Dispatch.standard (some known') metrics).dispatcher
      = (Dispatch.standard (some known) metrics).dispatcher := by
    refine Dispatch.dispatcher_eq rfl fun kind config receiver => ?_
    exact congrArg (fun c => (pure c : Action Channel)) (h.ofSettings_eq kind config receiver)
  obtain ⟨clientId, clientSecret, rfl⟩ := h
  rw [Notifier.ofSettings, hdispatcher]
  rfl

/-! ### Conversations -/

/-- A dispatcher with settings of its own, or with none: those of the process are taken then. -/
def Dispatcher.own (metrics : Metrics) (own : Option (Option Settings)) : Option Dispatcher :=
  own.map fun given => (Dispatch.standard given metrics).dispatcher

/-- All that can be asked of a dispatcher and a notifier, one after the other.  The notifier makes
its dispatcher, or is given one. -/
inductive Conversation (given : Option Settings) (own : Option (Option Settings))
    (metrics : Metrics) (analytics : Analytics) (repository : Repository) :
    {α : Type} → Action α → Prop
  /-- A notice through a binding. -/
  | dispatch (t : Trigger) (b : Option ChannelBinding) (n : Notice) (receiver : Option String) :
      Conversation given own metrics analytics repository
        ((Dispatch.standard given metrics).dispatch t b n receiver)
  /-- A notice through one channel. -/
  | deliver (t : Option Trigger) (receiver : Option String) (kind : ChannelKind)
      (config : Option ChannelConfig) (n : Notice) :
      Conversation given own metrics analytics repository
        ((Dispatch.standard given metrics).deliver t receiver kind config n)
  /-- A test through a binding. -/
  | test (b : ChannelBinding) (message : String) :
      Conversation given own metrics analytics repository
        ((Dispatch.standard given metrics).sendTest b message)
  /-- A job event. -/
  | notifyJob (t : Trigger) (job : Job) (attempts : List AttemptStats)
      (workspace : Option Workspace) (reason : Option String) :
      Conversation given own metrics analytics repository
        (Notifier.create repository analytics metrics given (Dispatcher.own metrics own) >>=
          fun n => n.notifyJob t job attempts workspace reason)
  /-- A changed schema. -/
  | notifySchemaChange (connection : Uuid) (diff : CatalogDiff) (breaking : Bool) :
      Conversation given own metrics analytics repository
        (Notifier.create repository analytics metrics given (Dispatcher.own metrics own) >>=
          fun n => n.notifySchemaChange connection diff breaking)
  /-- A breaking change. -/
  | notifyBreakingChange (change : BreakingChange) (syncsDisabled : Bool) :
      Conversation given own metrics analytics repository
        (Notifier.create repository analytics metrics given (Dispatcher.own metrics own) >>=
          fun n => n.notifyBreakingChange change syncsDisabled)
  /-- A test from the notifier. -/
  | sendTest (b : ChannelBinding) (message : String) :
      Conversation given own metrics analytics repository
        (Notifier.create repository analytics metrics given (Dispatcher.own metrics own) >>=
          fun n => n.sendTest b message)
  /-- Nothing. -/
  | done {α : Type} (a : α) : Conversation given own metrics analytics repository (pure a)
  /-- One thing after the other. -/
  | next {α β : Type} {x : Action α} {f : α → Action β}
      (hx : Conversation given own metrics analytics repository x)
      (hf : ∀ a, Conversation given own metrics analytics repository (f a)) :
      Conversation given own metrics analytics repository (x >>= f)

/-- Two processes from whose settings the same channels are made, whether settings are given or
not. -/
def Pairing.Agrees (P : Pairing) (given : Option Settings) : Prop :=
  ∀ known known', P.Supplies given known known' → known.SameButAccount known'

namespace Conversation

open JobHerald.Pairing

variable {P : Pairing} {given : Option Settings} {own : Option (Option Settings)}
  {metrics : Metrics} {analytics : Analytics} {repository : Repository}

/-- Given settings agree with themselves. -/
theorem agrees_some (s : Settings) : P.Agrees (some s) := by
  rintro known known' ⟨rfl, rfl⟩
  exact .refl known'

section Dispatches

variable (hserves : P.Serves) (hagrees : P.Agrees given)

include hserves hagrees

/-- A binding can be exchanged for itself. -/
theorem bindings (receiver : Option String) (n : Notice) (b : ChannelBinding) :
    P.Bindings (Dispatch.standard given metrics) receiver n b b where
  kinds := rfl
  makers kind := pairs_create hserves (fun known known' hknown =>
    ⟨hagrees known known' hknown, .refl known _⟩) kind receiver n

theorem steady_deliver (t : Option Trigger) (receiver : Option String) (kind : ChannelKind)
    (config : Option ChannelConfig) (n : Notice) :
    P.Steady ((Dispatch.standard given metrics).deliver t receiver kind config n) :=
  pairs_deliver (pairs_create hserves (fun known known' hknown =>
    ⟨hagrees known known' hknown, .refl known config⟩) kind receiver n)

theorem steady_dispatch (hmetrics : ∀ t k o, P.Steady (metrics t k o)) (t : Trigger)
    (b : Option ChannelBinding) (n : Notice) (receiver : Option String) :
    P.Steady ((Dispatch.standard given metrics).dispatch t b n receiver) := by
  cases b with
  | none => exact steady_skip hmetrics t
  | some b => exact pairs_dispatch hmetrics (bindings hserves hagrees receiver n b) t

end Dispatches

section Notifiers

variable (hserves : P.Serves) (hmetrics : ∀ t k o, P.Steady (metrics t k o))
  (hanalytics : ∀ w a fs, P.Steady (analytics w a fs))
  (hown : ∀ g, own = some g → P.Agrees g)

include hserves hmetrics hanalytics hown

/-- The notifier that is made from some settings does alike. -/
theorem notifies (s : Settings) :
    P.Notifies
      (Notifier.ofSettings repository analytics metrics (Dispatcher.own metrics own) s) := by
  -- the dispatcher has settings of its own, or those of the notifier
  have hdispatcher : ∀ g, P.Agrees g → P.Notifies
      ⟨repository, analytics, (Dispatch.standard g metrics).dispatcher,
        WebUrls.ofBase s.webApp.url⟩ := fun g hg =>
    { analytics := hanalytics
      dispatch := fun t b n receiver => steady_dispatch hserves hg hmetrics t b n receiver
      deliver := fun kind config n => steady_deliver hserves hg none none kind config n
      sendTest := fun b _ => pairs_sendTest (bindings hserves hg none _ b) }
  cases own with
  | none => exact hdispatcher (some s) (agrees_some s)
  | some g => exact hdispatcher g (hown g rfl)

/-- The same notifier is made in both processes, and does alike. -/
theorem pairs_notifier (hagrees : P.Agrees given) {α : Type} {f : Notifier → Action α}
    (hf : ∀ n, P.Notifies n → P.Steady (f n)) :
    P.Steady (Notifier.create repository analytics metrics given (Dispatcher.own metrics own)
      >>= f) := by
  -- the addresses of the web pages are the same in both processes
  have hcreate : P.Pairs (fun n n' => n' = n ∧ P.Notifies n)
      (Notifier.create repository analytics metrics given (Dispatcher.own metrics own))
      (Notifier.create repository analytics metrics given (Dispatcher.own metrics own)) :=
    pairs_bind (pairs_settingsOr given) fun known known' hknown =>
      pairs_pure ⟨(hagrees known known' hknown).notifier_eq repository analytics metrics _,
        notifies hserves hmetrics hanalytics hown known⟩
  refine pairs_bind hcreate ?_
  rintro n n' ⟨hsame, hn⟩
  rw [hsame]
  exact hf n hn

/-- **A conversation does alike in both processes**, whichever steps it takes and whatever they
depend on. -/
theorem steady (hagrees : P.Agrees given) {α : Type} {x : Action α}
    (h : Conversation given own metrics analytics repository x) : P.Steady x := by
  have hnotifier : ∀ {α : Type} {f : Notifier → Action α},
      (∀ n, P.Notifies n → P.Steady (f n)) →
        P.Steady (Notifier.create repository analytics metrics given (Dispatcher.own metrics own)
      >>= f) :=
    pairs_notifier hserves hmetrics hanalytics hown hagrees
  -- by the steps of the conversation; a step by the notifier makes it first
  induction h with
  | dispatch t b n receiver => exact steady_dispatch hserves hagrees hmetrics t b n receiver
  | deliver t receiver kind config n =>
    exact steady_deliver hserves hagrees t receiver kind config n
  | test b message => exact pairs_sendTest (bindings hserves hagrees none _ b)
  | notifyJob t job attempts workspace reason =>
    exact hnotifier fun n hn => hn.notifyJob t job attempts workspace reason
  | notifySchemaChange connection diff breaking =>
    exact hnotifier fun n hn => hn.notifySchemaChange connection diff breaking
  | notifyBreakingChange change syncsDisabled =>
    exact hnotifier fun n hn => hn.notifyBreakingChange change syncsDisabled
  | sendTest b message => exact hnotifier fun n hn => hn.sendsTest b message
  | done a => exact pairs_pure rfl
  | next _ _ hx hf => exact pairs_bind_eq hx hf

end Notifiers

end Conversation

end JobHerald
