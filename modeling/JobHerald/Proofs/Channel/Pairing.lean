import JobHerald.Channel.Factory
import JobHerald.Proofs.Action.Pairing
import JobHerald.Proofs.Channel.Announcing

/-!
# Two channels at once

The clients read five settings of the process, and the replies to their requests.  Two channels that
may only differ in the address of a webhook announce alike, whatever that address is, as long as the
chat client finds the same fault with it, or none.

## Main definitions

* `Settings.SameService` — settings that the clients cannot tell apart.
* `Settings.SameButAccount` — settings that the makers of channels cannot tell apart.
* `Pairing.Serves` — a pairing of processes that differ in no more than what a post to the email
  service says about the account.
* `Pairing.Exchanges` — two configurations whose addresses can be exchanged.
* `Pairing.Channels` — two channels that announce alike.

## Main results

* `Pairing.pairs_slackPost`, `Pairing.pairs_endpointPost`, `Pairing.steady_mailPost` — two posts
  at once.
* `Pairing.channels_ofSettings` — **channels for addresses that can be exchanged announce alike.**
-/

namespace JobHerald

open JobHerald.Action

/-- Two settings that are the same in all that the clients read, unless they are told. -/
structure Settings.SameService (known known' : Settings) : Prop where
  /-- The address of the email service. -/
  apiUrl : known'.notify.apiUrl = known.notify.apiUrl
  /-- The client of the email service. -/
  clientId : known'.notify.clientId = known.notify.clientId
  /-- Its secret. -/
  clientSecret : known'.notify.clientSecret = known.notify.clientSecret
  /-- What the general client calls itself. -/
  userAgent : known'.delivery.userAgent = known.delivery.userAgent
  /-- Seconds until a request of the general client is given up. -/
  timeout : known'.delivery.timeout = known.delivery.timeout

/-- Two settings that differ in the account of the email service alone. -/
def Settings.SameButAccount (known known' : Settings) : Prop :=
  ∃ clientId clientSecret,
    known' = { known with notify := { known.notify with clientId, clientSecret } }

theorem Settings.SameButAccount.refl (known : Settings) : known.SameButAccount known :=
  ⟨known.notify.clientId, known.notify.clientSecret, rfl⟩

/-- Channels are made without a look at the account. -/
theorem Settings.SameButAccount.ofSettings_eq {known known' : Settings}
    (h : known.SameButAccount known') (kind : ChannelKind) (config : Option ChannelConfig)
    (receiver : Option String) :
    Channel.ofSettings known' kind config receiver
      = Channel.ofSettings known kind config receiver := by
  obtain ⟨clientId, clientSecret, rfl⟩ := h
  cases kind <;> rfl

namespace Pairing

variable {P : Pairing}

/-! ### The clients -/

/-- Two addresses to which the same requests may go. -/
def Readdresses (P : Pairing) (url url' : String) : Prop :=
  ∀ client body headers timeout,
    P.sends ⟨client, url, body, headers, timeout⟩ ⟨client, url', body, headers, timeout⟩

theorem readdresses_refl (url : String) : P.Readdresses url url := fun _ _ _ _ => P.same _

/-- Two processes that the clients cannot tell apart, but for what a post to the email service says
about the account. -/
structure Serves (P : Pairing) : Prop where
  /-- The email service has one address. -/
  apiUrl : ∀ known known', P.known known known' → known'.notify.apiUrl = known.notify.apiUrl
  /-- The general client calls itself the same. -/
  userAgent : ∀ known known', P.known known known' →
    known'.delivery.userAgent = known.delivery.userAgent
  /-- Posts to the service differ as allowed. -/
  mail : ∀ known known', P.known known known' → ∀ endpoint payload,
    P.Steady (Mail.post (Mail.address known endpoint) payload none)

theorem steady_asResponse (e : Failure) : P.Steady (Slack.asResponse e) := by
  cases e with
  | badStatus status reason body => exact pairs_pure rfl
  | _ => exact pairs_fail _

/-- Two chat messages that go to addresses with the same fault, or without. -/
theorem pairs_slackPost {url url' : String}
    (haddress : P.Readdresses (Slack.normalAddress url) (Slack.normalAddress url'))
    (hfault : Slack.addressFault? url' = Slack.addressFault? url) (payload : Fields)
    (timeout : Int) :
    P.Pairs (· = ·) (Slack.post url payload (some timeout))
      (Slack.post url' payload (some timeout)) := by
  -- the client reads the settings for a timeout, of which it has one here
  refine pairs_bind pairs_settings fun known known' _ => ?_
  rw [hfault]
  cases Slack.addressFault? url with
  | some e => exact pairs_fail e
  | none =>
    let request (address : String) : Request :=
      ⟨.messages, address, Slack.body payload, Slack.headers, timeout⟩
    have hsend : P.Pairs (· = ·) (send (request (Slack.normalAddress url)))
        (send (request (Slack.normalAddress url'))) :=
      pairs_send (haddress _ _ _ _)
    exact pairs_bind_eq (pairs_handle hsend steady_asResponse) fun _ =>
      pairs_log_bind (pairs_pure rfl)

/-- Two texts that go to any addresses. -/
theorem pairs_endpointPost (hserves : P.Serves) {url url' : String}
    (haddress : P.Readdresses url url') (payload : Json) (timeout : Int) :
    P.Pairs (· = ·) (Endpoint.post url payload (some timeout))
      (Endpoint.post url' payload (some timeout)) := by
  refine pairs_bind pairs_settings fun known known' hknown => ?_
  rw [hserves.userAgent known known' hknown]
  refine pairs_bind_eq (steady_body payload) fun body => ?_
  exact pairs_bind_eq (pairs_send (haddress _ _ _ _)) fun _ =>
    pairs_log_bind (pairs_pure rfl)

theorem pairs_refuse {α : Type} {Q : α → α → Prop} (event : String) (f : CredentialFault) :
    P.Pairs Q (Token.refuse event f : Action α) (Token.refuse event f) :=
  pairs_log_bind (pairs_fail _)

theorem steady_issue (secret client : Json) : P.Steady (Token.issue secret client) := by
  rw [Token.issue]
  split
  · exact pairs_refuse _ _
  · split
    · exact pairs_refuse _ _
    · exact pairs_bind_eq steady_clock fun time => steady_ofExcept _

/-- The request of a post to the email service. -/
def mailRequest (url : String) (payload : Json) (known : Settings) (header : String × String) :
    Request :=
  ⟨.general, url, payload.spaced,
    [header, ("Content-Type", "application/json"), ("User-Agent", known.delivery.userAgent)],
    known.delivery.timeout⟩

/-- A post to the email service, with headers that may differ if requests with them may. -/
theorem steady_mailPost {headers : String × String → String × String → Prop}
    (huserAgent : ∀ known known', P.known known known' →
      known'.delivery.userAgent = known.delivery.userAgent)
    (htimeout : ∀ known known', P.known known known' →
      known'.delivery.timeout = known.delivery.timeout)
    (hheaders : P.Pairs headers Mail.authorization Mail.authorization) {url : String}
    {payload : Json}
    (hsends : ∀ known known', P.known known known' → ∀ header header', headers header header' →
      P.sends (mailRequest url payload known header) (mailRequest url payload known header')) :
    P.Steady (Mail.post url payload none) := by
  -- the payload is the same, and so is the text of it
  have hbody : P.Pairs (fun a b => a = payload.spaced ∧ b = payload.spaced) (body payload)
      (body payload) := by
    rw [body]
    split
    · exact pairs_pure ⟨rfl, rfl⟩
    · exact pairs_fail _
  refine pairs_bind pairs_settings fun known known' hknown => ?_
  refine pairs_bind hheaders fun header header' hheader => ?_
  refine pairs_bind hbody ?_
  rintro _ _ ⟨rfl, rfl⟩
  rw [huserAgent known known' hknown, htimeout known known' hknown]
  exact pairs_send (hsends known known' hknown header header' hheader)

section SameService

variable (hservice : ∀ known known', P.known known known' → known.SameService known')

include hservice

/-- The same account gets the same header: it depends on client, secret and clock only. -/
theorem steady_authorization : P.Steady Mail.authorization := by
  refine pairs_bind pairs_settings fun known known' hknown => ?_
  have hsame := hservice known known' hknown
  dsimp only
  rw [hsame.clientId, hsame.clientSecret]
  -- an account without a client or a secret is refused on both sides
  cases known.notify.clientId.filter (· ≠ "") with
  | none => exact pairs_refuse _ _
  | some client =>
    cases known.notify.clientSecret.filter (· ≠ "") with
    | none => exact pairs_refuse _ _
    | some secret => exact pairs_bind_eq (steady_issue _ _) fun token => pairs_pure rfl

/-- Posts to the service are the same if the clients cannot tell the processes apart. -/
theorem serves_of_sameService : P.Serves where
  apiUrl known known' hknown := (hservice known known' hknown).apiUrl
  userAgent known known' hknown := (hservice known known' hknown).userAgent
  mail _ _ _ endpoint payload := by
    refine steady_mailPost (fun known known' hknown => (hservice known known' hknown).userAgent)
      (fun known known' hknown => (hservice known known' hknown).timeout)
      (steady_authorization hservice) ?_
    rintro known known' hknown header _ rfl
    exact P.same _

end SameService

/-- One email, or one bulk job: both are posts to an endpoint of the service. -/
theorem steady_mailCall (hserves : P.Serves) (endpoint : String) (payload : Json) (l : Log.Level)
    (event : String) (fs : Response → Fields) :
    let call : Action Response := do
      let known ← settings
      let r ← Mail.post (Mail.address known endpoint) payload none
      log l event (fs r)
      return r
    P.Steady call := by
  refine pairs_bind pairs_settings fun known known' hknown => ?_
  have haddress : Mail.address known' endpoint = Mail.address known endpoint := by
    rw [Mail.address, hserves.apiUrl known known' hknown, Mail.address]
  rw [haddress]
  exact pairs_bind_eq (hserves.mail known known' hknown endpoint payload) fun r =>
    pairs_log_bind (pairs_pure rfl)

/-! ### Announcements -/

/-- Paired posts whose failures are wrapped alike, and whose responses are checked alike. -/
theorem pairs_checked {kind : ChannelKind} {conclude : Response → Action Json}
    (hconclude : kind.Checks conclude) {x y : Action Response} (h : P.Pairs (· = ·) x y) :
    P.Pairs (· = ·) ((x.handle fun e => .fail (kind.wrap e)) >>= conclude)
      ((y.handle fun e => .fail (kind.wrap e)) >>= conclude) := by
  refine pairs_bind_eq (pairs_handle h fun e => pairs_fail _) fun r => ?_
  obtain ⟨l, event, fs, hcheck⟩ := hconclude r
  rw [hcheck]
  exact pairs_log_bind (steady_ofExcept _)

/-- An announcement does alike in both runs if its posts do. -/
theorem steady_announces {kind : ChannelKind} {c : Course} {x : Action Json}
    (h : kind.Announces c x) (hposts : ∀ y, c.posts y → P.Steady y) : P.Steady x := by
  induction h with
  | declines _ event fs => exact pairs_log_bind (pairs_pure rfl)
  | fails _ _ => exact pairs_fail _
  | posts _ hx hconclude => exact pairs_checked hconclude (hposts _ hx)
  | makes _ hrender _ _ ih =>
    refine pairs_bind (pairs_makes hrender) ?_
    rintro _ payload ⟨rfl, hmade⟩
    exact ih payload hmade

/-! ### Channels -/

/-- Two targets of chat messages whose addresses can be exchanged. -/
structure SlackTargets (P : Pairing) (t t' : Slack.Target) : Prop where
  /-- Both have an address, or neither. -/
  blank : t'.url = "" ↔ t.url = ""
  /-- The client finds the same fault with the addresses, or none. -/
  fault : Slack.addressFault? t'.url = Slack.addressFault? t.url
  /-- Requests may go to either. -/
  address : P.Readdresses (Slack.normalAddress t.url) (Slack.normalAddress t'.url)
  /-- The timeouts do not depend on the process. -/
  timeout : ∃ seconds, t.timeout = some seconds ∧ t'.timeout = some seconds
  /-- Reasons are cut alike. -/
  reasonLimit : t'.reasonLimit = t.reasonLimit

theorem pairs_slackSend {t t' : Slack.Target} (h : P.SlackTargets t t')
    {made : Except Failure Fields → Prop} {render : Action Fields}
    (hprepare : (Slack.Target.prepare render).Makes made) :
    P.Pairs (· = ·) (t.send render) (t'.send render) := by
  rw [Slack.Target.send, Slack.Target.send]
  -- both addresses are blank, or neither is
  by_cases hblank : t.url = ""
  · rw [if_pos hblank, if_pos (h.blank.mpr hblank)]
    exact pairs_log_bind (pairs_pure rfl)
  · rw [if_neg hblank, if_neg (mt h.blank.mp hblank)]
    obtain ⟨seconds, htimeout, htimeout'⟩ := h.timeout
    rw [htimeout, htimeout']
    refine pairs_bind (pairs_makes hprepare) ?_
    rintro _ payload ⟨rfl, -⟩
    exact pairs_checked Slack.Target.checks_conclude
      (pairs_slackPost h.address h.fault payload seconds)

theorem pairs_slackDeliver {t t' : Slack.Target} (h : P.SlackTargets t t') (n : Notice) :
    P.Pairs (· = ·) (t.deliver n) (t'.deliver n) := by
  have hmessage := Slack.Target.message?_eq h.reasonLimit n
  cases hrender : t.message? n with
  | some render =>
    -- the message is the same for both targets, so that it may be taken for one
    rw [Slack.Target.deliver_eq_send hrender,
      Slack.Target.deliver_eq_send (hmessage.trans hrender)]
    exact pairs_slackSend h
      (Slack.Target.makes_prepare (Slack.Target.makes_message hrender))
  | none =>
    cases n with
    | breakingChangeWarning change => exact pairs_fail _
    | breakingChangeSyncsDisabled change => exact pairs_fail _
    | _ => cases hrender

theorem pairs_endpointDeliver (hserves : P.Serves) {t t' : Endpoint.Target}
    (hblank : t'.url = "" ↔ t.url = "") (haddress : P.Readdresses t.url t'.url) {seconds : Int}
    (htimeout : t.timeout = some seconds) (htimeout' : t'.timeout = some seconds) (n : Notice) :
    P.Pairs (· = ·) (t.deliver n) (t'.deliver n) := by
  -- all notices that are declared are sent as a text
  have hsend : ∀ text, P.Pairs (· = ·) (t.send text) (t'.send text) := by
    intro text
    rw [Endpoint.Target.send, Endpoint.Target.send]
    by_cases h : t.url = ""
    · rw [if_pos h, if_pos (hblank.mpr h)]
      exact pairs_log_bind (pairs_pure rfl)
    · rw [if_neg h, if_neg (mt hblank.mp h), htimeout, htimeout']
      exact pairs_checked Endpoint.Target.checks_conclude
        (pairs_endpointPost hserves haddress _ seconds)
  have htemplate : ∀ template values,
      P.Pairs (· = ·) (t.sendTemplate template values) (t'.sendTemplate template values) :=
    fun template values => pairs_bind_eq (steady_ofExcept _) hsend
  cases n with
  | breakingChangeWarning change => exact pairs_fail _
  | breakingChangeSyncsDisabled change => exact pairs_fail _
  | test message => exact hsend message
  | _ => exact htemplate _ _

/-- The email channel does alike: what it asks the service for, it asks in both runs. -/
theorem steady_mailDeliver (hserves : P.Serves) (a : Mail.Account) (n : Notice) :
    P.Steady (a.deliver n) := by
  refine steady_announces (a.announces_deliver n) fun x hcalls => ?_
  cases (hcalls : a.Calls n x) with
  | email _ _ => exact steady_mailCall hserves _ _ _ _ _
  | bulk _ => exact steady_mailCall hserves _ _ _ _ _

/-- Two channels that declare the same and announce a notice alike. -/
structure Channels (P : Pairing) (n : Notice) (c c' : Channel) : Prop where
  /-- They declare the same. -/
  declaration : c'.toDeclaration = c.toDeclaration
  /-- They announce alike. -/
  deliver : P.Pairs (· = ·) (c.deliver n) (c'.deliver n)
  /-- They have the same label. -/
  label : P.Pairs (· = ·) c.label c'.label

/-- Two configurations whose addresses can be exchanged, for channels made from given settings. -/
structure Exchanges (P : Pairing) (known : Settings) (config config' : Option ChannelConfig) :
    Prop where
  /-- The targets of chat messages can be exchanged. -/
  slack : P.SlackTargets (.ofSettings known config) (.ofSettings known config')
  /-- They have the same label. -/
  label :
    (Slack.Target.ofSettings known config').label = (Slack.Target.ofSettings known config).label
  /-- Both configurations have an address for texts, or neither. -/
  blank : ChannelConfig.webhookUrl config' = "" ↔ ChannelConfig.webhookUrl config = ""
  /-- Requests may go to either. -/
  address : P.Readdresses (ChannelConfig.webhookUrl config) (ChannelConfig.webhookUrl config')

/-- A configuration can be exchanged for itself. -/
theorem Exchanges.refl (known : Settings) (config : Option ChannelConfig) :
    P.Exchanges known config config :=
  ⟨⟨.rfl, rfl, readdresses_refl _, ⟨_, rfl, rfl⟩, rfl⟩, rfl, .rfl, readdresses_refl _⟩

/-- Channels for addresses that can be exchanged announce alike, each kind by its own client. -/
theorem channels_ofSettings (hserves : P.Serves) {known : Settings}
    {config config' : Option ChannelConfig} (h : P.Exchanges known config config')
    (kind : ChannelKind) (receiver : Option String) (n : Notice) :
    P.Channels n (.ofSettings known kind config receiver)
      (.ofSettings known kind config' receiver) := by
  cases kind with
  | slack => exact ⟨rfl, pairs_slackDeliver h.slack n, pairs_pure (congrArg Json.str h.label.symm)⟩
  | email => exact ⟨rfl, steady_mailDeliver hserves _ n, pairs_pure rfl⟩
  | webhook =>
    exact ⟨rfl, pairs_endpointDeliver hserves h.blank h.address rfl rfl n, pairs_pure rfl⟩

end Pairing

end JobHerald
