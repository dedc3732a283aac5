import JobHerald.Proofs.Channel.Verdict
import JobHerald.Proofs.Notifier.Conversation

/-!
# Which service emails go to

A dispatcher or a notifier that is given settings makes its channels from them, and the channel for
emails decides by them whether to send, and which template.  The client of the email service is not
given them.  It reads the address, the account, its name and its patience from the settings of the
process, so that emails only go where the given settings say if the two agree.

## Main definitions

* `Mail.SentAs` — a request to the email service as some settings say.
* `Mail.FollowsProcess` — what decides about the requests for an entry for emails.
* `Session` — all that can be asked of a dispatcher and a notifier with given settings.
* `Pairing.ofProcesses` — two processes that the clients cannot tell apart.

## Main results

* `Dispatch.email_posts` — an entry for emails posts to the service if the given settings say so.
* `Session.steady` — a session does alike in processes that the clients cannot tell apart.
* `Session.emails_follow_process` — **both together: emails follow the settings of the process, and
  nothing else does.**
-/

namespace JobHerald

open JobHerald.Action

/-! ### Requests to the service -/

namespace NotifySettings

variable {settings : NotifySettings} {clock : Int} {header : String × String}

/-- A header names the account, and is signed with its secret. -/
theorem exists_of_header (h : settings.header clock = .ok header) :
    ∃ client secret, settings.clientId = some client ∧ settings.clientSecret = some secret ∧
      header = ("Authorization", "Bearer " ++ Token.signed secret client clock) := by
  cases settings.header_cases clock with
  | anonymous _ f hheader =>
    rw [hheader] at h
    cases h
  | clock _ _ hheader =>
    rw [hheader] at h
    cases h
  | key _ _ _ hheader =>
    rw [hheader] at h
    cases h
  | made _ _ hclient hsecret hheader =>
    rw [hheader] at h
    exact ⟨_, _, hclient, hsecret, (Except.ok.inj h).symm⟩

end NotifySettings

namespace Mail

variable {s : Surroundings} {w : World} {known known' : Settings} {clock : Int} {rq : Request}

/-- A request to the email service as settings say: it goes to their address, with a token for their
client that is signed with their secret, under their name, and with their timeout. -/
def SentAs (known : Settings) (clock : Int) (rq : Request) : Prop :=
  ∃ client secret, known.notify.clientId = some client ∧ known.notify.clientSecret = some secret ∧
    ∃ endpoint ∈ [emailEndpoint, bulkEndpoint], ∃ payload,
      rq = request known ("Authorization", "Bearer " ++ Token.signed secret client clock) endpoint
        payload

/-- Settings that the clients cannot tell apart say the same. -/
theorem SentAs.congr (h : SentAs known' clock rq) (hservice : known.SameService known') :
    SentAs known clock rq := by
  obtain ⟨client, secret, hclient, hsecret, endpoint, hendpoint, payload, rfl⟩ := h
  refine ⟨client, secret, hservice.clientId ▸ hclient, hservice.clientSecret ▸ hsecret, endpoint,
    hendpoint, payload, ?_⟩
  rw [request, request, address, address, hservice.apiUrl, hservice.userAgent, hservice.timeout]

/-- The requests of a post are made as the settings of the process say. -/
theorem sentAs_of_mem_asks {endpoint : String} {payload : Json}
    (hendpoint : endpoint ∈ [emailEndpoint, bulkEndpoint]) (h : rq ∈ asks endpoint payload s w) :
    ∃ known, (settings s w).1 = .ok known ∧ SentAs known s.clock rq := by
  obtain ⟨known, header, hknown, hheader, -, rfl⟩ := mem_asks h
  obtain ⟨client, secret, hclient, hsecret, rfl⟩ := NotifySettings.exists_of_header hheader
  exact ⟨known, hknown, client, secret, hclient, hsecret, endpoint, hendpoint, payload, rfl⟩

namespace Account

/-- The requests of an account about a notice: those of a post to the service if it sends the
notice, and otherwise none. -/
inductive Posts (a : Account) (n : Notice) (s : Surroundings) (w : World) : List Request → Prop
  /-- The service is asked. -/
  | asked (hsends : a.sends n = true) {endpoint : String} {payload : Json}
      (hendpoint : endpoint ∈ [emailEndpoint, bulkEndpoint])
      (hpayload : payload.isWithinLimit = true ↔ n.IsCountable) :
      Posts a n s w (asks endpoint payload s w)
  /-- Nothing is asked: the notice is not announced, or it is not sent. -/
  | silent (h : declaration.supports n.capability = false ∨ n.MixesClocks ∨ a.sends n = false) :
      Posts a n s w []

theorem Payload.endpoint_mem {a : Account} {n : Notice} {endpoint : String} {payload : Json}
    (h : a.Payload n endpoint payload) : endpoint ∈ [emailEndpoint, bulkEndpoint] := by
  cases h with
  | email _ _ => simp
  | bulk _ => simp

/-- What the email channel does about a notice makes such requests. -/
theorem posts_deliver (a : Account) (n : Notice) :
    (a.deliver n).Trades s w fun _ rqs => a.Posts n s w rqs := by
  refine (a.announced_deliver n).mono fun v rqs hannounced => ?_
  cases hannounced with
  | declined hunsent => exact .silent (.inr (.inr hunsent))
  | failed hfails _ =>
    -- a declared notice fails for mixed clocks only
    by_cases hn : declaration.supports n.capability = true
    · have hmixed : n.MixesClocks := by_contra fun hclocks => hfails ⟨hn, hclocks⟩
      exact .silent (.inr (.inl hmixed))
    · exact .silent (.inl (eq_false_of_ne_true hn))
  | posted hsends hreached =>
    obtain ⟨-, endpoint, payload, hpayload, rfl⟩ := hreached
    refine .asked (eq_true_of_ne_false hsends) hpayload.endpoint_mem ?_
    rw [hpayload.isWithinLimit, decide_eq_true_iff]

/-- Nothing that comes before changes these requests unless it makes one itself. -/
theorem Posts.of_later {a : Account} {n : Notice} {w' : World} {rqs : List Request}
    (hlater : Later s w w' []) (h : a.Posts n s w' rqs) : a.Posts n s w rqs := by
  cases h with
  | @asked hsends endpoint payload hendpoint hpayload =>
    rw [asks_later endpoint payload hlater]
    exact .asked hsends hendpoint hpayload
  | silent h => exact .silent h

end Account

end Mail

/-- An entry for emails makes the requests of the account that the given settings name, whatever the
process is. -/
theorem Dispatch.email_posts (given : Settings) (metrics : Metrics) (t : Option Trigger)
    (receiver : Option String) (config : Option ChannelConfig) (n : Notice) (s : Surroundings)
    (w : World) :
    ∃ a w' es,
      (standard (some given) metrics).deliver t receiver .email config n s w = (.ok a, w') ∧
        w'.journal = w.journal ++ es ∧
        Mail.Account.Posts ⟨given.notify, receiver⟩ n s w (es.filterMap Effect.request?) := by
  have hused : (settingsOr (some given) s w).1 = .ok given := rfl
  obtain ⟨w₁, hlater, hdeliver⟩ := exists_ends_deliver (n := n) metrics hused t receiver config
  -- an email channel declares all but tests, which therefore fail before the account is asked
  have hinvoke : ((Channel.ofSettings given .email config receiver).invoke n).Trades s w₁
      fun _ rqs => Mail.Account.Posts ⟨given.notify, receiver⟩ n s w₁ rqs := by
    rw [Channel.invoke]
    split
    · exact Mail.Account.posts_deliver ⟨given.notify, receiver⟩ n
    · next hundeclared =>
      exact ⟨_, [], ends_fail _, .silent (.inl (eq_false_of_ne_true hundeclared))⟩
  obtain ⟨v, rqs, hends, hposts⟩ := hinvoke
  obtain ⟨label, w', es, hrun, hjournal, rfl, -⟩ := hdeliver hends
  exact ⟨_, w', es, hrun, hjournal, hposts.of_later hlater⟩

/-- The requests for an entry for emails: the given settings decide whether there is one, and the
settings of the process where it goes. -/
structure Mail.FollowsProcess (given : Settings) (receiver : Option String) (n : Notice)
    (s : Surroundings) (w : World) (rqs : List Request) : Prop where
  /-- Each request is made as the process says. -/
  process : ∀ rq ∈ rqs, ∃ known, (settings s w).1 = .ok known ∧ SentAs known s.clock rq
  /-- If the process agrees with the given settings about the service, that is as they say. -/
  agreed : ∀ known, (settings s w).1 = .ok known → given.SameService known →
    ∀ rq ∈ rqs, SentAs given s.clock rq
  /-- There is no request unless the given settings have what it takes to send the notice. -/
  decided : Account.sends ⟨given.notify, receiver⟩ n = false → rqs = []
  /-- If they do, and the notice can be put into an email, there is one as soon as the process has
  an account. -/
  sent : Account.declaration.supports n.capability = true → ¬ n.MixesClocks → n.IsCountable →
    Account.sends ⟨given.notify, receiver⟩ n = true →
    ∀ known header, (settings s w).1 = .ok known → known.notify.header s.clock = .ok header →
    ∃ rq, rqs = [rq]

theorem Mail.Account.Posts.followsProcess {given : Settings} {receiver : Option String} {n : Notice}
    {s : Surroundings} {w : World} {rqs : List Request}
    (h : Posts ⟨given.notify, receiver⟩ n s w rqs) : FollowsProcess given receiver n s w rqs := by
  cases h with
  | asked hsends hendpoint hpayload =>
    refine ⟨fun rq hrq => sentAs_of_mem_asks hendpoint hrq, fun known hknown hservice rq hrq => ?_,
      fun hnot => absurd hsends (by simp [hnot]), fun _ _ hcount _ known header hknown hheader =>
        ⟨_, asks_sent hknown hheader (hpayload.mpr hcount)⟩⟩
    -- the settings of the process are read twice, and are the same
    obtain ⟨known', hknown', hsent⟩ := sentAs_of_mem_asks hendpoint hrq
    rw [hknown] at hknown'
    cases hknown'
    exact hsent.congr hservice
  | silent hsilent =>
    refine ⟨by simp, by simp, fun _ => rfl, fun hdeclared hclocks _ hsends _ _ _ _ => ?_⟩
    rcases hsilent with hundeclared | hmixed | hnot
    · exact absurd hdeclared (by simp [hundeclared])
    · exact absurd hmixed hclocks
    · exact absurd hsends (by simp [hnot])

/-! ### Sessions -/

/-- All that can be asked of a dispatcher and a notifier with given settings, one after the other:
a conversation in which the notifier makes its own dispatcher. -/
abbrev Session (given : Settings) (metrics : Metrics) (analytics : Analytics)
    (repository : Repository) {α : Type} (x : Action α) : Prop :=
  Conversation (some given) none metrics analytics repository x

/-- Two processes that the clients cannot tell apart, at the same time and with the same replies,
and runs that make the same requests in them. -/
def Pairing.ofProcesses {s s' : Surroundings} (hclock : s'.clock = s.clock)
    (hreplies : s'.replies = s.replies) : Pairing where
  left := s
  right := s'
  known := Settings.SameService
  sends rq rq' := rq' = rq
  same _ := rfl
  clock := hclock
  replies := hreplies

/-- Worlds with the same journal are alike if their settings are. -/
theorem Pairing.alike_ofProcesses {s s' : Surroundings} {w w' : World}
    (hclock : s'.clock = s.clock) (hreplies : s'.replies = s.replies)
    (hjournal : w'.journal = w.journal)
    (hknown : Same Settings.SameService (settings s w).1 (settings s' w').1) :
    (ofProcesses hclock hreplies).Alike w w' where
  settings := hknown
  journal := by
    rw [hjournal, List.forall₂_same]
    exact fun e _ => effects_refl e

namespace Session

variable {given : Settings} {metrics : Metrics} {analytics : Analytics} {repository : Repository}

/-- A session does alike in processes that the clients cannot tell apart. -/
theorem steady {s s' : Surroundings} {hclock : s'.clock = s.clock}
    {hreplies : s'.replies = s.replies}
    (hmetrics : ∀ t k o, (Pairing.ofProcesses hclock hreplies).Steady (metrics t k o))
    (hanalytics : ∀ w a fs, (Pairing.ofProcesses hclock hreplies).Steady (analytics w a fs))
    {α : Type} {x : Action α} (h : Session given metrics analytics repository x) :
    (Pairing.ofProcesses hclock hreplies).Steady x := by
  have hserves : (Pairing.ofProcesses hclock hreplies).Serves :=
    Pairing.serves_of_sameService fun _ _ hknown => hknown
  exact Conversation.steady hserves hmetrics hanalytics (fun _ hown => by cases hown)
    (Conversation.agrees_some given) h

/-- **Emails follow the settings of the process, and nothing else does.**  The given settings decide
whether there is a request for an entry for emails, and the process where it goes and on whose
behalf, which is as the given settings say if the two agree about the service.  And whatever is
asked of a dispatcher and a notifier with given settings does not depend on the process but for what
the clients read, as long as the sinks do not. -/
theorem emails_follow_process :
    (∀ t receiver config n s w, ∃ a w' es,
      (Dispatch.standard (some given) metrics).deliver t receiver .email config n s w
          = (.ok a, w') ∧
        w'.journal = w.journal ++ es ∧
        Mail.FollowsProcess given receiver n s w (es.filterMap Effect.request?)) ∧
      ∀ {α : Type} {x : Action α}, Session given metrics analytics repository x →
        ∀ s s' w w' (hclock : s'.clock = s.clock) (hreplies : s'.replies = s.replies),
          (∀ t k o, (Pairing.ofProcesses hclock hreplies).Steady (metrics t k o)) →
          (∀ w a fs, (Pairing.ofProcesses hclock hreplies).Steady (analytics w a fs)) →
          w'.journal = w.journal →
          Pairing.Same Settings.SameService (settings s w).1 (settings s' w').1 →
          (x s' w').1 = (x s w).1 ∧ (x s' w').2.journal = (x s w).2.journal := by
  refine ⟨fun t receiver config n s w => ?_, fun {α x} hx s s' w w' hclock hreplies hmetrics
    hanalytics hjournal hknown => ?_⟩
  · obtain ⟨a, w', es, hrun, hjournal, hposts⟩ :=
      Dispatch.email_posts given metrics t receiver config n s w
    exact ⟨a, w', es, hrun, hjournal, hposts.followsProcess⟩
  · obtain ⟨hsame, halike⟩ := steady hmetrics hanalytics hx w w'
      (Pairing.alike_ofProcesses hclock hreplies hjournal hknown)
    exact ⟨hsame.eq.symm, Pairing.journal_eq (fun _ _ h => h) halike.journal⟩

/-- Settings that name an email service, and a template for disabled connections. -/
def mailing : Settings :=
  { Settings.bare with
    notify :=
      ⟨"https://given.example/", some "given", some "a", "", "", "disabled", "", "", "", ""⟩ }

/-- A connection that was disabled. -/
def disabled : Notice := .connectionDisabled ⟨none, "source", "destination", "it failed", ⟨0⟩, ⟨0⟩⟩

/-- Where the web application of the process is does not matter to an email: in two processes with
the same service it is sent with the same request, and comes to the same attempt. -/
theorem emails_follow_process_elsewhere :
    let elsewhere := { mailing with webApp := ⟨"https://app.example"⟩ }
    let x := (Dispatch.standard (some mailing) .logging).deliver none (some "a@example.org") .email
      none disabled
    let s := Surroundings.busy
    (x s (.settled elsewhere)).1 = (x s (.settled mailing)).1 ∧
      (x s (.settled elsewhere)).2.journal = (x s (.settled mailing)).2.journal ∧
      ((x s (.settled elsewhere)).2.journal.filterMap Effect.request?).map (·.url)
        = ["https://given.example/v2/notifications/email"] := by
  intro elsewhere x s
  have hknown : Pairing.Same Settings.SameService (settings s (.settled mailing)).1
      (settings s (.settled elsewhere)).1 := .ok ⟨rfl, rfl, rfl, rfl, rfl⟩
  have hx : Session mailing .logging .logging
      (.owning ⟨default, "Acme", none, none⟩ .longInteger) x := .deliver _ _ _ _ _
  obtain ⟨hresult, hjournal⟩ := emails_follow_process.2 hx s s (.settled mailing)
    (.settled elsewhere) rfl rfl Pairing.steady_logging Pairing.steady_analyticsLogging rfl hknown
  exact ⟨hresult, hjournal, by decide +kernel⟩

/-- The settings that are given name a service and an account, but the process decides: where it
names another service the email goes there, and where it names none no email is sent. -/
theorem process_decides :
    let run (s : Surroundings) := (Dispatch.standard (some mailing) .logging).deliver none
      (some "a@example.org") .email none disabled s .initial
    let named := { Surroundings.busy with
      environment := [("NOTIFY_API_URL", "https://process.example"),
        ("NOTIFY_CLIENT_ID", "process"), ("NOTIFY_CLIENT_SECRET", "b")] }
    let asked (w : World) := (w.journal.filterMap Effect.request?).map (·.url)
    Mail.address mailing Mail.emailEndpoint = "https://given.example/v2/notifications/email" ∧
      asked (run named).2 = ["https://process.example/v2/notifications/email"] ∧
      asked (run .busy).2 = [] ∧
      (run named).1.toOption.bind (·.errorCode) = some "HTTP_503" ∧
      (run .busy).1.toOption.bind (·.errorCode) = some "NOTIFY_CREDENTIALS_MISSING" := by
  decide +kernel

end Session

end JobHerald
