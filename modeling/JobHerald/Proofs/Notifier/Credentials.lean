import JobHerald.Proofs.Notifier.Service

/-!
# Credentials that are not told

The account of the email service goes into the token of a request to the service, and nowhere else.
Two processes whose settings differ in the client and the secret alone return the same, log the
same, report the same and ask the same for the same, whatever is asked of a dispatcher and a
notifier, as long as tokens can be made with both secrets.

## Main definitions

* `Settings.Recredentials` — two settings that differ in values of the client and the secret.
* `NotifySettings.CanSign` — accounts with whose secret tokens can be made.
* `Metrics.IsBlind`, `Analytics.IsBlind` — sinks that do not look at the settings.
* `Action.SameButTokens` — two runs that differ in the tokens of requests to the service alone.

## Main results

* `Pairing.pairs_authorization` — the header is all that an account decides about.
* `Conversation.untold_credentials` — **a conversation tells nothing of the credentials but in the
  tokens of its requests to the email service.**
-/

namespace JobHerald

open JobHerald.Action

/-! ### Accounts -/

/-- Two values that are the same, or neither of which is missing or empty. -/
def Replaced (a b : Option String) : Prop :=
  b = a ∨ ∃ t t', a = some t ∧ t ≠ "" ∧ b = some t' ∧ t' ≠ ""

/-- Two settings that differ in values of the client and the secret of the email service. -/
structure Settings.Recredentials (known known' : Settings) : Prop where
  /-- The rest is the same. -/
  rest : known.SameButAccount known'
  /-- The client may be another one. -/
  clientId : Replaced known.notify.clientId known'.notify.clientId
  /-- The secret may be another one. -/
  clientSecret : Replaced known.notify.clientSecret known'.notify.clientSecret

/-- An account with whose secret tokens can be made. -/
def NotifySettings.CanSign (n : NotifySettings) : Prop :=
  ∀ secret, n.clientSecret = some secret → secret ≠ "" → ∀ client time,
    ∃ token, Token.create (.str secret) (.str client) time = .ok token

/-- A token is made with any secret that is not like a key of a key pair or an object. -/
theorem Token.create_eq_signed {secret : String} (h : (secretFault? secret).isNone = true)
    (client : String) (time : Int) :
    create (.str secret) (.str client) time = .ok (signed secret client time) := by
  rw [create, Option.isNone_iff_eq_none.mp h]

theorem Replaced.filter {a b : Option String} (h : Replaced a b) :
    (a.filter (· ≠ "") = none ∧ b.filter (· ≠ "") = none) ∨
      ∃ t t', a.filter (· ≠ "") = some t ∧ b.filter (· ≠ "") = some t' := by
  rcases h with rfl | ⟨t, t', rfl, ht, rfl, ht'⟩
  · cases h : b.filter (· ≠ "") with
    | none => exact .inl ⟨rfl, rfl⟩
    | some t => exact .inr ⟨t, t, rfl, rfl⟩
  · exact .inr ⟨t, t', by simp [ht], by simp [ht']⟩

/-! ### Requests -/

/-- Two requests that are the same, or two to the email service with different tokens. -/
inductive Request.SameButToken (had : Except Failure Settings) : Request → Request → Prop
  /-- The requests are the same. -/
  | same (rq : Request) : SameButToken had rq rq
  /-- The tokens differ. -/
  | token {known : Settings} (h : had = .ok known) (endpoint : String) (payload : Json)
      (token token' : String) :
      SameButToken had
        (Mail.request known ("Authorization", "Bearer " ++ token) endpoint payload)
        (Mail.request known ("Authorization", "Bearer " ++ token') endpoint payload)

/-- Two runs of an action that return the same, write the same log entries, report the same to the
sinks, look up the same, and make the same requests but for the tokens of those to the email
service. -/
structure Action.SameButTokens {α : Type} (x : Action α) (s s' : Surroundings) (w w' : World) :
    Prop where
  /-- They return the same, or fail the same. -/
  result : (x s' w').1 = (x s w).1
  /-- They write the same log entries. -/
  entries : (x s' w').2.journal.filterMap Effect.entry? = (x s w).2.journal.filterMap Effect.entry?
  /-- They report the same attempts. -/
  measurements : (x s' w').2.journal.filterMap Effect.measurement?
    = (x s w).2.journal.filterMap Effect.measurement?
  /-- They report the same notifications. -/
  trackings : (x s' w').2.journal.filterMap Effect.tracking?
    = (x s w).2.journal.filterMap Effect.tracking?
  /-- They look up the same. -/
  lookups : (x s' w').2.journal.filterMap Effect.lookup?
    = (x s w).2.journal.filterMap Effect.lookup?
  /-- They make the same requests, but for the tokens. -/
  requests : List.Forall₂ (Request.SameButToken (settings s w).1)
    ((x s w).2.journal.filterMap Effect.request?) ((x s' w').2.journal.filterMap Effect.request?)

/-! ### Headers -/

namespace Pairing

variable {P : Pairing}

/-- Two headers that name an account by a token. -/
def Bearers (header header' : String × String) : Prop :=
  ∃ token token', header = ("Authorization", "Bearer " ++ token) ∧
    header' = ("Authorization", "Bearer " ++ token')

/-- Tokens for two accounts can be made at the same times. -/
theorem pairs_issue {secret secret' client client' : String} (hsecret : secret ≠ "")
    (hsecret' : secret' ≠ "") (hclient : client ≠ "") (hclient' : client' ≠ "")
    (hsign : ∀ time, ∃ token, Token.create (.str secret) (.str client) time = .ok token)
    (hsign' : ∀ time, ∃ token, Token.create (.str secret') (.str client') time = .ok token) :
    P.Pairs (fun _ _ => True) (Token.issue (.str secret) (.str client))
      (Token.issue (.str secret') (.str client')) := by
  have htruthy : ∀ {text : String}, text ≠ "" → (Json.str text).isTruthy = true := by
    intro text h
    simpa [Json.isTruthy] using h
  simp only [Token.issue, htruthy hsecret, htruthy hsecret', htruthy hclient, htruthy hclient',
    Bool.not_true, Bool.false_eq_true, if_false]
  -- both read the same clock, and either can sign
  refine pairs_bind_eq steady_clock fun time => ?_
  obtain ⟨token, htoken⟩ := hsign time
  obtain ⟨token', htoken'⟩ := hsign' time
  rw [htoken, htoken']
  exact pairs_ofExcept (.ok trivial)

section Credentials

variable (hknown : ∀ known known', P.known known known' →
  known.Recredentials known' ∧ known.notify.CanSign ∧ known'.notify.CanSign)

include hknown

/-- **The header is all that an account decides about**, once there is one. -/
theorem pairs_authorization : P.Pairs Bearers Mail.authorization Mail.authorization := by
  refine pairs_bind pairs_settings fun known known' h => ?_
  obtain ⟨hcredentials, hsign, hsign'⟩ := hknown known known' h
  dsimp only
  rcases hcredentials.clientId.filter with ⟨hnone, hnone'⟩ | ⟨client, client', hclient, hclient'⟩
  -- the client is missing on both sides, or on neither; and so is the secret below
  · rw [hnone, hnone']
    exact pairs_refuse _ _
  · rcases hcredentials.clientSecret.filter with
      ⟨hnone, hnone'⟩ | ⟨secret, secret', hsecret, hsecret'⟩
    · rw [hclient, hclient', hnone, hnone']
      exact pairs_refuse _ _
    · rw [hclient, hclient', hsecret, hsecret']
      rw [Option.filter_eq_some_iff, decide_eq_true_iff] at hclient hclient' hsecret hsecret'
      have hissue : P.Pairs (fun _ _ => True) (Token.issue (.str secret) (.str client))
          (Token.issue (.str secret') (.str client')) :=
        pairs_issue hsecret.2 hsecret'.2 hclient.2 hclient'.2
          (hsign secret hsecret.1 hsecret.2 client) (hsign' secret' hsecret'.1 hsecret'.2 client')
      exact pairs_bind hissue fun token token' _ => pairs_pure ⟨token, token', rfl, rfl⟩

end Credentials

end Pairing

/-! ### Two processes -/

section Processes

variable {s s' : Surroundings} {w w' : World}

/-- Two processes with the same clock and replies, from worlds whose settings differ in the
credentials. -/
def Pairing.ofCredentials (w w' : World) (hclock : s'.clock = s.clock)
    (hreplies : s'.replies = s.replies) : Pairing where
  left := s
  right := s'
  known known known' := ((settings s w).1 = .ok known ∧ (settings s' w').1 = .ok known') ∧
    known.Recredentials known' ∧ known.notify.CanSign ∧ known'.notify.CanSign
  sends := Request.SameButToken (settings s w).1
  same := .same
  clock := hclock
  replies := hreplies

namespace Pairing

variable {hclock : s'.clock = s.clock} {hreplies : s'.replies = s.replies}

theorem serves_ofCredentials : (ofCredentials w w' hclock hreplies).Serves where
  apiUrl known known' h := by
    obtain ⟨-, ⟨⟨_, _, rfl⟩, -⟩, -⟩ := h
    rfl
  userAgent known known' h := by
    obtain ⟨-, ⟨⟨_, _, rfl⟩, -⟩, -⟩ := h
    rfl
  mail known known' h endpoint payload := by
    have hheaders : (ofCredentials w w' hclock hreplies).Pairs Bearers Mail.authorization
        Mail.authorization := pairs_authorization fun _ _ h => h.2
    refine steady_mailPost ?_ ?_ hheaders ?_
    · rintro known known' ⟨-, ⟨⟨_, _, rfl⟩, -⟩, -⟩
      rfl
    · rintro known known' ⟨-, ⟨⟨_, _, rfl⟩, -⟩, -⟩
      rfl
    · rintro again again' ⟨⟨hagain, -⟩, -⟩ _ _ ⟨token, token', rfl, rfl⟩
      -- the settings are read twice, and are the same
      obtain rfl : known = again := Except.ok.inj (h.1.1.symm.trans hagain)
      exact .token hagain endpoint payload token token'

theorem agrees_ofCredentials (given : Option Settings) :
    (ofCredentials w w' hclock hreplies).Agrees given := by
  cases given with
  | some s => exact Conversation.agrees_some s
  | none => exact fun known known' h => h.2.1.rest

/-- Worlds with the same journal are alike if their settings differ in the credentials only, and
both can sign. -/
theorem alike_ofCredentials (hjournal : w'.journal = w.journal)
    (hknown : Pairing.Same Settings.Recredentials (settings s w).1 (settings s' w').1)
    (hsign : ∀ known, (settings s w).1 = .ok known → known.notify.CanSign)
    (hsign' : ∀ known, (settings s' w').1 = .ok known → known.notify.CanSign) :
    (ofCredentials w w' hclock hreplies).Alike w w' where
  settings := by
    show Pairing.Same _ (settings s w).1 (settings s' w').1
    generalize hleft : (settings s w).1 = left at hknown
    generalize hright : (settings s' w').1 = right at hknown
    -- settings that are loaded on both sides, or the same failure
    cases hknown with
    | ok h => exact .ok ⟨⟨hleft, hright⟩, h, hsign _ hleft, hsign' _ hright⟩
    | error e => exact .error e
  journal := by
    rw [hjournal, List.forall₂_same]
    exact fun e _ => effects_refl e

end Pairing

end Processes

/-! ### Conversations -/

/-- A sink for attempts that does not look at the settings. -/
def Metrics.IsBlind (metrics : Metrics) : Prop := ∀ (P : Pairing) t k o, P.Steady (metrics t k o)

/-- A sink for notifications that does not look at the settings. -/
def Analytics.IsBlind (analytics : Analytics) : Prop :=
  ∀ (P : Pairing) w a fs, P.Steady (analytics w a fs)

theorem Metrics.isBlind_logging : Metrics.logging.IsBlind := fun _ => Pairing.steady_logging

theorem Metrics.isBlind_collector (fault : Nat → Option Failure) :
    (Metrics.collector fault).IsBlind := fun _ => Pairing.steady_collector fault

theorem Analytics.isBlind_logging : Analytics.logging.IsBlind :=
  fun _ => Pairing.steady_analyticsLogging

theorem Analytics.isBlind_collector (fault : Nat → Option Failure) :
    (Analytics.collector fault).IsBlind := fun _ => Pairing.steady_analyticsCollector fault

namespace Conversation

variable {given : Option Settings} {own : Option (Option Settings)} {metrics : Metrics}
  {analytics : Analytics} {repository : Repository} {α : Type} {x : Action α}
  {s s' : Surroundings} {w w' : World}

/-- **A conversation tells nothing of the credentials but in the tokens of its requests to the email
service.**  In two processes with the same clock and the same replies, whose settings differ in
values of the client and the secret alone, it returns the same, logs the same, reports the same,
looks up the same, and makes the same requests but for these tokens. -/
theorem untold_credentials (hx : Conversation given own metrics analytics repository x)
    (hmetrics : metrics.IsBlind) (hanalytics : analytics.IsBlind) (hclock : s'.clock = s.clock)
    (hreplies : s'.replies = s.replies) (hjournal : w'.journal = w.journal)
    (hknown : Pairing.Same Settings.Recredentials (settings s w).1 (settings s' w').1)
    (hsign : ∀ known, (settings s w).1 = .ok known → known.notify.CanSign)
    (hsign' : ∀ known, (settings s' w').1 = .ok known → known.notify.CanSign) :
    x.SameButTokens s s' w w' := by
  let P := Pairing.ofCredentials w w' hclock hreplies
  -- the conversation does alike under the pairing; what that says of each sort of effect is read
  -- off
  have hsteady : P.Steady x :=
    steady Pairing.serves_ofCredentials (hmetrics P) (hanalytics P)
      (fun g _ => Pairing.agrees_ofCredentials g) (Pairing.agrees_ofCredentials given) hx
  obtain ⟨hsame, halike⟩ :=
    hsteady w w' (Pairing.alike_ofCredentials hjournal hknown hsign hsign')
  have heffects : List.Forall₂ P.Effects (x s w).2.journal (x s' w').2.journal := halike.journal
  exact
    { result := hsame.eq.symm
      entries := Pairing.filterMap_eq (fun _ => rfl) heffects
      measurements := Pairing.filterMap_eq (fun _ => rfl) heffects
      trackings := Pairing.filterMap_eq (fun _ => rfl) heffects
      lookups := Pairing.filterMap_eq (fun _ => rfl) heffects
      requests := Pairing.forall₂_requests heffects }

/-- The same email in the name of two accounts: there is a request to the service, and its token is
all that may differ. -/
theorem untold_credentials_email :
    let known := Session.mailing
    let known' :=
      { known with
        notify := { known.notify with clientId := some "other", clientSecret := some "b" } }
    let x := (Dispatch.standard none .logging).deliver none (some "a@example.org") .email none
      Session.disabled
    let s := Surroundings.busy
    known.Recredentials known' ∧ known.notify.CanSign ∧ known'.notify.CanSign ∧
      x.SameButTokens s s (.settled known) (.settled known') ∧
      ((x s (.settled known)).2.journal.filterMap Effect.request?).map (·.url)
        = ["https://given.example/v2/notifications/email"] := by
  intro known known' x s
  have hcredentials : known.Recredentials known' :=
    ⟨⟨_, _, rfl⟩, .inr ⟨"given", "other", rfl, by decide, rfl, by decide⟩,
      .inr ⟨"a", "b", rfl, by decide, rfl, by decide⟩⟩
  have hsign : known.notify.CanSign := by
    rintro _ ⟨⟩ - client time
    exact ⟨_, Token.create_eq_signed (by decide +kernel) client time⟩
  have hsign' : known'.notify.CanSign := by
    rintro _ ⟨⟩ - client time
    exact ⟨_, Token.create_eq_signed (by decide +kernel) client time⟩
  have hx : Conversation none none .logging .logging
      (.owning ⟨default, "Acme", none, none⟩ .longInteger) x := .deliver _ _ _ _ _
  refine ⟨hcredentials, hsign, hsign', ?_, by decide +kernel⟩
  exact untold_credentials hx Metrics.isBlind_logging Analytics.isBlind_logging rfl rfl rfl
    (.ok hcredentials) (by rintro _ ⟨⟩; exact hsign) (by rintro _ ⟨⟩; exact hsign')

end Conversation

end JobHerald
