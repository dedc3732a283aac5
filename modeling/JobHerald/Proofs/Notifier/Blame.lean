import JobHerald.Proofs.Dispatch.Ending
import JobHerald.Proofs.Dispatch.Surfacing
import JobHerald.Proofs.Notifier.Service

/-!
# What is blamed on missing credentials

The email channel takes every value that cannot be used for missing credentials, unless it is
trouble with a request.  The client of the email service fails like that if the account of the
process has no client or no secret, and then nothing is sent.  It also fails like that for reasons
that have nothing to do with an account: the settings of the process cannot be read, the clock shows
no date, a number is too long to be written, or the transport fails on a value.

## Main definitions

* `Failure.IsBlamed` — the failures that count as missing credentials.
* `Mail.LacksAccount` — the credentials of the process are missing.
* `Mail.Misblamed` — all that counts as missing credentials although there is an account.

## Main results

* `ChannelKind.errorCode_verdict_iff` — the code tells what the post has met.
* `Mail.isBlamed_reach_iff` — every failure on the way to an answer, sorted.
* `Dispatch.credentials_blamed_iff` — **an email counts as one without credentials if they are
  missing, and in the cases listed, but in no other.**
-/

namespace JobHerald

open JobHerald.Action

/-! ### Codes -/

/-- A failure that counts as missing credentials when the email channel meets it: it is about a
value and not about a request (an invalid address is about both), or it has the code already. -/
def Failure.IsBlamed (e : Failure) : Prop :=
  (e.family.isValue = true ∧ e.family.isRequest = false) ∨
    ∃ o, e = .operation o ∧ o.code = "NOTIFY_CREDENTIALS_MISSING"

namespace Failure

theorem isBlamed_credential (f : CredentialFault) : (credential f).IsBlamed := .inl ⟨rfl, rfl⟩

theorem isBlamed_longInteger : longInteger.IsBlamed := .inl ⟨rfl, rfl⟩

/-- A failure that knows its status is not about a request. -/
theorem isRequest_operation (o : OperationFailure) :
    (operation o).family.isRequest = false := by
  obtain ⟨about, message, code⟩ := o
  cases about <;> rfl

theorem not_isBlamed_signingKey {e : Failure} (h : e.family = .signingKey) : ¬ e.IsBlamed := by
  rintro (⟨hvalue, -⟩ | ⟨o, ho, -⟩)
  · rw [h] at hvalue
    cases hvalue
  · exact isForeign_of_signingKey h o ho

/-- A failure that is classified by its family has another code. -/
theorem errorCode_ne_of_isForeign {α : Type} {e : Failure} (h : e.IsForeign) :
    (OperationResult.ofFailure e : OperationResult α).errorCode
      ≠ some "NOTIFY_CREDENTIALS_MISSING" := by
  obtain ⟨status, message, code, hcode, -, hresult⟩ :=
    OperationResult.ofFailure_of_ne_operation (α := α) h
  rw [hresult]
  rintro ⟨⟩
  exact absurd hcode (by decide)

/-- Only a failure that knows its status can bring the code along: the three general codes are
others. -/
theorem errorCode_ofFailure_iff {α : Type} (e : Failure) :
    (OperationResult.ofFailure e : OperationResult α).errorCode
      = some "NOTIFY_CREDENTIALS_MISSING" ↔
      ∃ o, e = .operation o ∧ o.code = "NOTIFY_CREDENTIALS_MISSING" := by
  by_cases h : ∃ o, e = .operation o
  · obtain ⟨o, rfl⟩ := h
    constructor
    · intro hcode
      exact ⟨o, rfl, Option.some.inj hcode⟩
    · rintro ⟨o', ⟨⟩, hcode⟩
      exact congrArg some hcode
  · have hforeign : e.IsForeign := fun o ho => h ⟨o, ho⟩
    refine iff_of_false (errorCode_ne_of_isForeign hforeign) ?_
    rintro ⟨o, ho, -⟩
    exact hforeign o ho

/-- What the email channel makes of a failure has the code exactly if the failure is blamed on
credentials. -/
theorem errorCode_wrap_iff (e : Failure) :
    (Attempt.result Json.isDeclined (.error (ChannelKind.email.wrap e))).errorCode
      = some "NOTIFY_CREDENTIALS_MISSING" ↔ e.IsBlamed := by
  have hwrap : ChannelKind.email.wrap e = Mail.Account.callFailure e := rfl
  rw [hwrap, Mail.Account.callFailure]
  by_cases hrequest : e.family.isRequest = true
  · -- trouble with a request comes first, also if it is about a value
    rw [if_pos hrequest, result_undelivered _ (by decide)]
    refine iff_of_false (fun hcode => absurd (Option.some.inj hcode) (by decide)) ?_
    rintro (⟨-, hnot⟩ | ⟨o, rfl, -⟩)
    · rw [hrequest] at hnot
      cases hnot
    · rw [isRequest_operation] at hrequest
      cases hrequest
  · have hnot : e.family.isRequest = false := Bool.eq_false_of_not_eq_true hrequest
    rw [if_neg hrequest]
    by_cases hvalue : e.family.isValue = true
    · rw [if_pos hvalue, result_undelivered _ (by decide)]
      exact iff_of_true rfl (.inl ⟨hvalue, hnot⟩)
    · rw [if_neg hvalue, Attempt.result, errorCode_ofFailure_iff]
      constructor
      · exact .inr
      · intro hblamed
        exact hblamed.resolve_left fun h => hvalue h.1

end Failure

/-- The verdict of the email channel has the code exactly if its post has met a failure that is
blamed on credentials. -/
theorem ChannelKind.errorCode_verdict_iff (reached : Option (Except Failure Response)) :
    (Attempt.result Json.isDeclined (ChannelKind.email.verdict reached)).errorCode
      = some "NOTIFY_CREDENTIALS_MISSING" ↔ ∃ e, reached = some (.error e) ∧ e.IsBlamed := by
  match reached with
  | none =>
    refine iff_of_false (fun hcode => by cases hcode) ?_
    rintro ⟨e, he, -⟩
    cases he
  -- a response that was refused has a code of its own
  | some (.ok r) =>
    refine iff_of_false (errorCode_answered_ne (by decide) r) ?_
    rintro ⟨e, he, -⟩
    cases he
  | some (.error e) =>
    rw [verdict, Failure.errorCode_wrap_iff]
    constructor
    · intro h
      exact ⟨e, rfl, h⟩
    · rintro ⟨e', ⟨⟩, h⟩
      exact h

/-! ### Causes -/

namespace Mail

/-- The credentials of the process are missing: it has settings, in which the client or the secret
is absent or empty. -/
def LacksAccount (s : Surroundings) (w : World) : Prop :=
  ∃ known, (settings s w).1 = .ok known ∧ known.notify.IsAnonymous

/-- All that counts as missing credentials although they are not what is missing. -/
inductive Misblamed (n : Notice) (s : Surroundings) (w : World) : Prop
  /-- The settings of the process cannot be read. -/
  | settings {e : Failure} (h : (Action.settings s w).1 = .error e) (he : e.IsBlamed)
  /-- The clock shows no date. -/
  | clock {known : Settings} (hknown : (Action.settings s w).1 = .ok known)
      (hnamed : ¬ known.notify.IsAnonymous) {f : CalendarFault}
      (hclock : Timestamp.ofClock s.clock = .error f) (he : (Failure.calendar f).IsBlamed)
  /-- A number is too long to be written. -/
  | number {known : Settings} (hknown : (Action.settings s w).1 = .ok known)
      {header : String × String} (hheader : known.notify.header s.clock = .ok header)
      (h : ¬ n.IsCountable)
  /-- The transport fails on a value. -/
  | transport {known : Settings} (hknown : (Action.settings s w).1 = .ok known)
      {header : String × String} (hheader : known.notify.header s.clock = .ok header)
      (h : n.IsCountable) {e : Failure} (hreply : s.replies (requestCount w) = .error e)
      (he : e.IsBlamed)

variable {n : Notice} {s : Surroundings} {w : World}

/-- A token is made for an account only. -/
theorem not_isAnonymous_of_header {settings : NotifySettings} {clock : Int}
    {header : String × String} (h : settings.header clock = .ok header) :
    ¬ settings.IsAnonymous := by
  intro hanonymous
  obtain ⟨f, hheader⟩ := hanonymous.header clock
  rw [hheader] at h
  cases h

/-- In none of these cases are credentials missing. -/
theorem Misblamed.not_lacksAccount (h : Misblamed n s w) : ¬ LacksAccount s w := by
  rintro ⟨known', hknown', hanonymous⟩
  -- the settings of the process are what they are
  cases h with
  | settings hsettings _ =>
    rw [hsettings] at hknown'
    cases hknown'
  | clock hknown hnamed _ _ =>
    rw [hknown] at hknown'
    cases hknown'
    exact hnamed hanonymous
  | number hknown hheader _ =>
    rw [hknown] at hknown'
    cases hknown'
    exact not_isAnonymous_of_header hheader hanonymous
  | transport hknown hheader _ _ _ =>
    rw [hknown] at hknown'
    cases hknown'
    exact not_isAnonymous_of_header hheader hanonymous

theorem reach_of_header_error {isWritten : Bool} {known : Settings} {e : Failure}
    (hknown : (Action.settings s w).1 = .ok known)
    (hheader : known.notify.header s.clock = .error e) : reach isWritten s w = .error e := by
  rw [reach, hknown]
  dsimp only
  rw [hheader]

theorem reach_of_header_ok {isWritten : Bool} {known : Settings} {header : String × String}
    (hknown : (Action.settings s w).1 = .ok known)
    (hheader : known.notify.header s.clock = .ok header) :
    reach isWritten s w =
      if isWritten then s.replies (requestCount w) else .error .longInteger := by
  rw [reach, hknown]
  dsimp only
  rw [hheader, ChannelKind.reply_general (by decide)]

/-- **Every failure on the way to an answer, sorted**: what is blamed on credentials is that they
are missing, or one of the cases above. -/
theorem isBlamed_reach_iff (n : Notice) (s : Surroundings) (w : World) :
    (∃ e, reach (decide n.IsCountable) s w = .error e ∧ e.IsBlamed) ↔
      LacksAccount s w ∨ Misblamed n s w := by
  constructor
  · rintro ⟨e, hreach, hblamed⟩
    cases hsettings : (Action.settings s w).1 with
    | error e' =>
      rw [reach, hsettings] at hreach
      cases hreach
      exact .inr (.settings hsettings hblamed)
    | ok known =>
      cases known.notify.header_cases s.clock with
      -- the account lacks something: the one case in which the blame is right
      | anonymous hanonymous _ _ => exact .inl ⟨known, hsettings, hanonymous⟩
      | clock hnamed hclock hheader =>
        rw [reach_of_header_error hsettings hheader] at hreach
        cases hreach
        exact .inr (.clock hsettings hnamed hclock hblamed)
      | key _ _ he hheader =>
        rw [reach_of_header_error hsettings hheader] at hreach
        cases hreach
        exact absurd hblamed (Failure.not_isBlamed_signingKey he)
      | made _ _ _ _ hheader =>
        rw [reach_of_header_ok hsettings hheader] at hreach
        -- the body is printed before the service is called
        by_cases hcount : n.IsCountable
        · rw [decide_eq_true hcount, if_pos rfl] at hreach
          exact .inr (.transport hsettings hheader hcount hreach hblamed)
        · exact .inr (.number hsettings hheader hcount)
  -- conversely each case makes the failure that it names
  · rintro (⟨known, hknown, hanonymous⟩ | hmisblamed)
    · obtain ⟨f, hheader⟩ := hanonymous.header s.clock
      exact ⟨_, reach_of_header_error hknown hheader, Failure.isBlamed_credential f⟩
    · cases hmisblamed with
      | settings hsettings he =>
        refine ⟨_, ?_, he⟩
        rw [reach, hsettings]
      | @clock known hknown hnamed f hclock he =>
        refine ⟨_, reach_of_header_error hknown ?_, he⟩
        cases known.notify.header_cases s.clock with
        | anonymous hanonymous _ _ => exact absurd hanonymous hnamed
        | clock _ hclock' hheader =>
          rw [hclock] at hclock'
          cases hclock'
          exact hheader
        | key _ hclock' _ _ =>
          rw [hclock] at hclock'
          cases hclock'
        | made _ hclock' _ _ _ =>
          rw [hclock] at hclock'
          cases hclock'
      | number hknown hheader hcount =>
        refine ⟨_, ?_, Failure.isBlamed_longInteger⟩
        rw [reach_of_header_ok hknown hheader, decide_eq_false hcount]
        rfl
      | transport hknown hheader hcount hreply he =>
        refine ⟨_, ?_, he⟩
        rw [reach_of_header_ok hknown hheader, decide_eq_true hcount, if_pos rfl, hreply]

namespace Account

variable {w' : World}

theorem reach?_later (a : Account) (h : Later s w w' []) : a.reach? n s w' = a.reach? n s w := by
  rw [reach?, reach?, reach, h.settings, h.reply_eq, ← reach]

/-- An account meets such a failure if it sends a notice, and one of the cases holds. -/
theorem isBlamed_reach?_iff (a : Account) (n : Notice) (s : Surroundings) (w : World) :
    (∃ e, a.reach? n s w = some (.error e) ∧ e.IsBlamed) ↔
      a.sends n = true ∧ (LacksAccount s w ∨ Misblamed n s w) := by
  rw [← isBlamed_reach_iff, reach?]
  cases a.sends n with
  | false => simp
  | true => simp

/-- No request is made without credentials. -/
theorem Posts.eq_nil_of_lacksAccount {a : Account} {rqs : List Request} (h : a.Posts n s w rqs)
    (hlacks : LacksAccount s w) : rqs = [] := by
  obtain ⟨known, hknown, hanonymous⟩ := hlacks
  obtain ⟨f, hheader⟩ := hanonymous.header s.clock
  cases h with
  | asked _ _ _ =>
    rw [asks, hknown]
    dsimp only
    rw [hheader]
  | silent _ => rfl

end Account

end Mail

/-! ### Deliveries -/

namespace Dispatch

variable {n : Notice}

/-- **An email counts as one without credentials if they are missing, and in the cases listed, but
in no other.**  It is one that is sent: there are settings for the channel, and they name a service,
a template and a receiver.  The credentials are those of the process.  If they are missing, no
request is made; in the cases listed, they are not. -/
theorem credentials_blamed_iff (given : Option Settings) (metrics : Metrics) (t : Option Trigger)
    (receiver : Option String) (config : Option ChannelConfig)
    (hn : Mail.Account.declaration.supports n.capability = true) (hclocks : ¬ n.MixesClocks)
    (s : Surroundings) (w : World) :
    (∃ a w' es,
      (standard given metrics).deliver t receiver .email config n s w = (.ok a, w') ∧
      w'.journal = w.journal ++ es ∧
      (a.errorCode = some "NOTIFY_CREDENTIALS_MISSING" ↔
        (∃ known, (settingsOr given s w).1 = .ok known ∧
          Mail.Account.sends ⟨known.notify, receiver⟩ n = true) ∧
        (Mail.LacksAccount s w ∨ Mail.Misblamed n s w)) ∧
      (Mail.LacksAccount s w → es.filterMap Effect.request? = [])) ∧
    (Mail.Misblamed n s w → ¬ Mail.LacksAccount s w) := by
  refine ⟨?_, fun h => h.not_lacksAccount⟩
  cases hused : (settingsOr given s w).1 with
  | error e =>
    -- without settings there is no channel, and nothing is sent
    obtain ⟨w', es, hrun, hjournal, hrqs, -⟩ :=
      @ends_deliver_unsettled s w .email n given e metrics hused t receiver config
    refine ⟨_, w', es, hrun, hjournal, iff_of_false ?_ ?_, fun _ => hrqs⟩
    · exact Failure.errorCode_ne_of_isForeign (isForeign_settingsOr given hused)
    · rintro ⟨⟨known, hknown, -⟩, -⟩
      cases hknown
  | ok known =>
    let account : Mail.Account := ⟨known.notify, receiver⟩
    have hinvoke : (Channel.ofSettings known .email config receiver).invoke n = account.deliver n :=
      if_pos hn
    obtain ⟨w₁, hlater, hdeliver⟩ :=
      @exists_ends_deliver s w .email n given known metrics hused t receiver config
    -- what the announcement comes to, and which requests it makes, is told of the same run
    obtain ⟨rqs, hends, -⟩ := account.ends_deliver (s := s) (w := w₁) hn hclocks
    obtain ⟨r, rqs', hends', hposts⟩ := account.posts_deliver (s := s) (w := w₁) n
    obtain rfl := hends.requests_eq hends'
    rw [← hinvoke] at hends
    obtain ⟨label, w', es, hrun, hjournal, rfl, -⟩ := hdeliver hends
    refine ⟨_, w', es, hrun, hjournal, ?_, ?_⟩
    · show (Attempt.result Json.isDeclined
        (ChannelKind.email.verdict (account.reach? n s w₁))).errorCode = _ ↔ _
      rw [account.reach?_later hlater, ChannelKind.errorCode_verdict_iff,
        account.isBlamed_reach?_iff]
      constructor
      · rintro ⟨hsends, hcause⟩
        exact ⟨⟨known, rfl, hsends⟩, hcause⟩
      · rintro ⟨⟨known', ⟨⟩, hsends⟩, hcause⟩
        exact ⟨hsends, hcause⟩
    · rintro ⟨known', hknown', hanonymous⟩
      exact hposts.eq_nil_of_lacksAccount ⟨known', hlater.settings.trans hknown', hanonymous⟩

/-- The settings that are given name an account, but the process has none: no email is sent. -/
theorem credentials_blamed_iff_unnamed :
    let s := Surroundings.busy
    let w := World.settled .bare
    Mail.Account.declaration.supports Session.disabled.capability = true ∧
      ¬ Session.disabled.MixesClocks ∧ Mail.LacksAccount s w ∧
      ∃ a w' es, (standard (some Session.mailing) .logging).deliver none (some "a@example.org")
          .email none Session.disabled s w = (.ok a, w') ∧
        w'.journal = w.journal ++ es ∧ a.errorCode = some "NOTIFY_CREDENTIALS_MISSING" ∧
        es.filterMap Effect.request? = [] := by
  intro s w
  have hlacks : Mail.LacksAccount s w := ⟨.bare, rfl, .inl rfl⟩
  obtain ⟨⟨a, w', es, hrun, hjournal, hcode, hrqs⟩, -⟩ :=
    credentials_blamed_iff (some Session.mailing) .logging none (some "a@example.org") none
      (n := Session.disabled) rfl id s w
  refine ⟨rfl, id, hlacks, a, w', es, hrun, hjournal, hcode.mpr ⟨?_, .inl hlacks⟩, hrqs hlacks⟩
  exact ⟨Session.mailing, rfl, rfl⟩

/-- The process has the account that the settings name, the email is on its way, and the transport
fails on a value: the credentials are said to be missing. -/
theorem transport_blamed :
    let s := Surroundings.cut (.outside .value "boom")
    let w := World.settled Session.mailing
    let run := (standard (some Session.mailing) .logging).deliver none (some "a@example.org")
      .email none Session.disabled s w
    Session.mailing.notify.clientId = some "given" ∧
      Session.mailing.notify.clientSecret = some "a" ∧
      (run.2.journal.filterMap Effect.request?).map (·.url)
        = ["https://given.example/v2/notifications/email"] ∧
      run.1.toOption.bind (·.errorCode) = some "NOTIFY_CREDENTIALS_MISSING" := by
  decide +kernel

end Dispatch

end JobHerald
