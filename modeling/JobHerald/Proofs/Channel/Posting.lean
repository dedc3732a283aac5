import JobHerald.Channel.Email
import JobHerald.Channel.Slack
import JobHerald.Channel.Webhook
import JobHerald.Proofs.Action.Ending

/-!
# What a post comes to

A client needs the settings of the process, and what it makes of them has to be in order: the chat
client an address, the client of the email service a token and a body.  If nothing is amiss it makes
one request, and comes to the answer.

## Main definitions

* `ChannelKind.response?`, `ChannelKind.reply` — what a kind of channel takes for a response, and
  what it takes the answer to its next request for.
* `Failure.IsForeign` — failures that do not know their status, as all do that a post meets.
* `AsksOnce` — a post that makes one request at most.
* `NotifySettings.header` — the header that names an account at a time.
* `NotifySettings.IsAnonymous` — an account whose credentials are missing.
* `NotifySettings.HeaderCase` — what the header of an account can come to.
* `Slack.reach`, `Endpoint.reach`, `Mail.reach` — what a post of each client comes to.
* `Slack.asks`, `Endpoint.asks`, `Mail.asks` — the requests of a post, one at most.

## Main results

* `NotifySettings.header_cases` — the header of an account comes to one of these.
* `Slack.asksOnce_post`, `Endpoint.asksOnce_post`, `Mail.asksOnce_call` — every client makes at most
  one request, and none if it fails by itself.
* `Slack.ends_post`, `Endpoint.ends_post`, `Mail.ends_sendEmail`, `Mail.ends_sendBulk` — **a post
  comes to that, with these requests.**
-/

namespace JobHerald

open JobHerald.Action

/-! ### Answers -/

/-- What a channel takes for a response.  Only the chat client takes a bad status met when
opening the address for one. -/
def ChannelKind.response? : ChannelKind → Except Failure Response → Option Response
  | _, .ok r => some r
  | .slack, .error (.badStatus status _ body) => some ⟨status, body⟩
  | _, .error _ => none

/-- What a kind of channel takes the answer to the next request for. -/
def ChannelKind.reply (kind : ChannelKind) (s : Surroundings) (w : World) :
    Except Failure Response :=
  match kind.response? (s.replies (requestCount w)) with
  | some r => .ok r
  | none => s.replies (requestCount w)

/-! ### Failures that are met on the way -/

/-- A failure that does not know its status. -/
def Failure.IsForeign (e : Failure) : Prop := ∀ o, e ≠ .operation o

/-- A post that makes one request at most: it fails before, or it makes the request and comes to the
answer. -/
inductive AsksOnce (kind : ChannelKind) (s : Surroundings) (w : World) :
    Except Failure Response → List Request → Prop
  /-- It has failed before it made a request. -/
  | unasked {e : Failure} (he : e.IsForeign) : AsksOnce kind s w (.error e) []
  /-- It has made its request. -/
  | asked (rq : Request) : AsksOnce kind s w (kind.reply s w) [rq]

section Met

variable {s : Surroundings} {w : World} {e : Failure}

theorem Failure.IsForeign.isPlain (h : e.IsForeign) : e.IsPlain := Failure.isPlain_of_ne_operation h

theorem isForeign_credential (f : CredentialFault) : (Failure.credential f).IsForeign := by
  intro o ho
  cases ho

/-- A secret that cannot sign is not a failure that knows its status. -/
theorem isForeign_of_signingKey (h : e.family = .signingKey) : e.IsForeign := by
  rintro ⟨about, message, code⟩ rfl
  cases about <;> cases h

theorem isForeign_settings (h : (settings s w).1 = .error e) : e.IsForeign := by
  rw [settings] at h
  rintro o rfl
  cases hknown : w.settings with
  | some known => simp [hknown] at h
  | none =>
    cases hload : Settings.ofEnvironment s.environment s.file with
    | ok known => simp [hknown, hload] at h
    | error f => cases f <;> simp [hknown, hload, Failure.ofSettings] at h

/-- The transport has no failures that know their status, and a channel adds none to it. -/
theorem ChannelKind.isForeign_reply {kind : ChannelKind}
    (hplain : ∀ o, s.replies (requestCount w) ≠ .error (.operation o))
    (h : kind.reply s w = .error e) : e.IsForeign := by
  rw [reply] at h
  split at h
  · cases h
  · rintro o rfl
    exact hplain o h

theorem isForeign_addressFault {url : String} (h : Slack.addressFault? url = some e) :
    e.IsForeign := by
  rintro o rfl
  rw [Slack.addressFault?] at h
  split at h
  · cases h
  · split at h <;> cases h

/-- All that a post can fail with is met on the way. -/
theorem AsksOnce.isForeign {kind : ChannelKind} {r : Except Failure Response} {rqs : List Request}
    (h : AsksOnce kind s w r rqs) (hplain : ∀ o, s.replies (requestCount w) ≠ .error (.operation o))
    (he : r = .error e) : e.IsForeign := by
  cases h with
  | unasked hforeign =>
    cases he
    exact hforeign
  | asked rq => exact ChannelKind.isForeign_reply hplain he

end Met

section Replies

variable {s : Surroundings} {w w' : World} {kind : ChannelKind}

theorem Action.Later.reply_eq (h : Later s w w' []) : kind.reply s w' = kind.reply s w := by
  rw [ChannelKind.reply, h.requestCount_eq, ChannelKind.reply]

/-- The general client takes nothing but a response for one. -/
theorem ChannelKind.reply_general (hkind : kind ≠ .slack) :
    kind.reply s w = s.replies (requestCount w) := by
  rw [reply]
  cases s.replies (requestCount w) with
  | ok r => simp [response?]
  | error e =>
    cases kind with
    | slack => exact absurd rfl hkind
    | email => simp [response?]
    | webhook => simp [response?]

/-- A request of the general client. -/
theorem ends_general (hkind : kind ≠ .slack) (rq : Request) :
    (send rq).Ends s w (kind.reply s w) [rq] := by
  rw [ChannelKind.reply_general hkind]
  exact ends_send rq

/-- A request of the chat client. -/
theorem Slack.ends_request (rq : Request) :
    ((send rq).handle asResponse).Ends s w (ChannelKind.slack.reply s w) [rq] := by
  have hsend := ends_send (s := s) (w := w) rq
  rw [ChannelKind.reply]
  cases hreply : s.replies (requestCount w) with
  | ok r =>
    rw [hreply] at hsend
    simpa [ChannelKind.response?] using hsend.handle_ok
  | error e =>
    rw [hreply] at hsend
    -- of all failures, only a bad status is turned into a response
    refine hsend.handle_error fun w' => ?_
    rw [asResponse.eq_def]
    split
    · simpa [ChannelKind.response?] using ends_pure _
    · next hne =>
      have hnone : ChannelKind.slack.response? (.error e) = none := by
        rw [ChannelKind.response?.eq_def]
        split
        · next he => cases he
        · next he => exact absurd (Except.error.inj he) (hne _ _ _)
        · rfl
      rw [hnone]
      exact ends_fail e

/-- A body that can be written is. -/
theorem ends_body {payload : Json} (h : payload.isWithinLimit = true) :
    (body payload).Ends s w (.ok payload.spaced) [] := by
  rw [body, if_pos h]
  exact ends_pure _

theorem ends_body_long {payload : Json} (h : ¬ payload.isWithinLimit = true) :
    (body payload).Ends s w (.error .longInteger) [] := by
  rw [body, if_neg h]
  exact ends_fail _

/-- A client that begins with the settings comes to a failure without them. -/
theorem ends_unsettled {α : Type} {f : Settings → Action α} {e : Failure}
    (hsettings : (settings s w).1 = .error e) : (settings >>= f).Ends s w (.error e) [] := by
  have h := ends_settings (s := s) (w := w)
  rw [hsettings] at h
  exact h.bind_error

/-- A client that begins with the settings goes on with them. -/
theorem ends_known_bind {α : Type} {f : Settings → Action α} {known : Settings}
    {r : Except Failure α} {rqs : List Request} (hknown : (settings s w).1 = .ok known)
    (hf : ∀ w', Later s w w' [] → (f known).Ends s w' r rqs) :
    (settings >>= f).Ends s w r rqs := by
  have h := ends_settings (s := s) (w := w)
  rw [hknown] at h
  exact h.bind hf

end Replies

/-! ### The chat client and the general client -/

section Clients

variable {s : Surroundings} {w w' : World}

/-- What a post of the chat client comes to: the answer, unless the address is refused. -/
def Slack.reach (url : String) (s : Surroundings) (w : World) : Except Failure Response :=
  match (settings s w).1, addressFault? url with
  | .error e, _ => .error e
  | .ok _, some e => .error e
  | .ok _, none => ChannelKind.slack.reply s w

/-- The requests of a post of the chat client. -/
def Slack.asks (url : String) (payload : Fields) (timeout : Option Int) (s : Surroundings)
    (w : World) : List Request :=
  match (settings s w).1, addressFault? url with
  | .ok known, none =>
      [⟨.messages, normalAddress url, body payload, headers, timeout.getD known.slack.timeout⟩]
  | _, _ => []

theorem Slack.ends_post (url : String) (payload : Fields) (timeout : Option Int) :
    (post url payload timeout).Ends s w (reach url s w) (asks url payload timeout s w) := by
  rw [reach, asks]
  cases hsettings : (settings s w).1 with
  | error e => exact ends_unsettled hsettings
  | ok known =>
    -- a refused address ends the post before there is a request
    cases haddress : addressFault? url with
    | some e =>
      refine ends_known_bind hsettings fun w' _ => ?_
      rw [haddress]
      exact ends_fail e
    | none =>
      refine ends_known_bind hsettings fun w' hw' => ?_
      rw [haddress, ← hw'.reply_eq]
      exact ends_logged (ends_request _) _ _ _

/-- The one request that a post of the chat client may make. -/
theorem Slack.mem_asks {url : String} {payload : Fields} {timeout : Option Int} {rq : Request}
    (h : rq ∈ asks url payload timeout s w) :
    ∃ patience, rq = ⟨.messages, normalAddress url, body payload, headers, patience⟩ := by
  rw [asks] at h
  split at h
  · exact ⟨_, List.mem_singleton.mp h⟩
  · cases h

theorem Slack.asksOnce_post (url : String) (payload : Fields) (timeout : Option Int) :
    AsksOnce .slack s w (reach url s w) (asks url payload timeout s w) := by
  rw [reach, asks]
  cases hsettings : (settings s w).1 with
  | error e => exact .unasked (isForeign_settings hsettings)
  | ok known =>
    cases haddress : addressFault? url with
    | some e => exact .unasked (isForeign_addressFault haddress)
    | none => exact .asked _

theorem Slack.reach_later (url : String) (h : Later s w w' []) :
    reach url s w' = reach url s w := by
  rw [reach, h.settings, h.reply_eq, reach]

theorem Slack.asks_later (url : String) (payload : Fields) (timeout : Option Int)
    (h : Later s w w' []) : asks url payload timeout s w' = asks url payload timeout s w := by
  rw [asks, h.settings, asks]

/-- What a post of the general client comes to: the answer. -/
def Endpoint.reach (s : Surroundings) (w : World) : Except Failure Response :=
  match (settings s w).1 with
  | .error e => .error e
  | .ok _ => ChannelKind.webhook.reply s w

/-- The requests of a post of a text. -/
def Endpoint.asks (url text : String) (timeout : Option Int) (s : Surroundings) (w : World) :
    List Request :=
  match (settings s w).1 with
  | .error _ => []
  | .ok known =>
      [⟨.general, url, (Json.obj [("text", .str text)]).spaced, headers known.delivery.userAgent,
        timeout.getD known.delivery.timeout⟩]

/-- A text can always be written. -/
theorem Endpoint.ends_post (url text : String) (timeout : Option Int) :
    (post url (.obj [("text", .str text)]) timeout).Ends s w (reach s w)
      (asks url text timeout s w) := by
  rw [reach, asks]
  cases hsettings : (settings s w).1 with
  | error e => exact ends_unsettled hsettings
  | ok known =>
    -- no request is made on the way to this one, so that the reply is still the next one
    refine ends_known_bind hsettings fun w₁ h₁ => (ends_body rfl).bind fun w₂ h₂ => ?_
    rw [← h₁.reply_eq, ← h₂.reply_eq]
    exact ends_logged (ends_general (by decide) _) _ _ _

/-- The one request that a post of the general client may make. -/
theorem Endpoint.mem_asks {url text : String} {timeout : Option Int} {rq : Request}
    (h : rq ∈ asks url text timeout s w) :
    ∃ agent patience, rq =
      ⟨.general, url, (Json.obj [("text", .str text)]).spaced, headers agent, patience⟩ := by
  rw [asks] at h
  split at h
  · cases h
  · exact ⟨_, _, List.mem_singleton.mp h⟩

theorem Endpoint.asksOnce_post (url text : String) (timeout : Option Int) :
    AsksOnce .webhook s w (reach s w) (asks url text timeout s w) := by
  rw [reach, asks]
  cases hsettings : (settings s w).1 with
  | error e => exact .unasked (isForeign_settings hsettings)
  | ok known => exact .asked _

theorem Endpoint.reach_later (h : Later s w w' []) : reach s w' = reach s w := by
  rw [reach, h.settings, h.reply_eq, reach]

theorem Endpoint.asks_later (url text : String) (timeout : Option Int) (h : Later s w w' []) :
    asks url text timeout s w' = asks url text timeout s w := by
  rw [asks, h.settings, asks]

end Clients

/-! ### The client of the email service -/

/-- The token for an account at a time, unless the clock or the secret cannot be used. -/
def Token.issued (secret client : String) (clock : Int) : Except Failure String :=
  match Timestamp.ofClock clock with
  | .error f => .error (.calendar f)
  | .ok _ => create (.str secret) (.str client) clock

/-- The header that names an account at a time, unless no token can be made for it. -/
def NotifySettings.header (s : NotifySettings) (clock : Int) : Except Failure (String × String) :=
  match s.clientId.filter (· ≠ ""), s.clientSecret.filter (· ≠ "") with
  | none, _ => .error (.credential .clientSetting)
  | _, none => .error (.credential .secretSetting)
  | some client, some secret =>
      (Token.issued secret client clock).map fun token => ("Authorization", "Bearer " ++ token)

/-- An account without a client or without a secret: it is absent or empty. -/
def NotifySettings.IsAnonymous (n : NotifySettings) : Prop :=
  n.clientId.getD "" = "" ∨ n.clientSecret.getD "" = ""

/-- What the header of an account comes to at a time. -/
inductive NotifySettings.HeaderCase (n : NotifySettings) (clock : Int) : Prop
  /-- The account has no client or no secret. -/
  | anonymous (h : n.IsAnonymous) (f : CredentialFault)
      (hheader : n.header clock = .error (.credential f))
  /-- The clock shows no date. -/
  | clock (h : ¬ n.IsAnonymous) {f : CalendarFault} (hclock : Timestamp.ofClock clock = .error f)
      (hheader : n.header clock = .error (.calendar f))
  /-- The secret looks like a key of another kind. -/
  | key (h : ¬ n.IsAnonymous) {t : Timestamp} (hclock : Timestamp.ofClock clock = .ok t)
      {e : Failure} (he : e.family = .signingKey) (hheader : n.header clock = .error e)
  /-- There is a token, which names the client and is signed with the secret. -/
  | made (h : ¬ n.IsAnonymous) {t : Timestamp} (hclock : Timestamp.ofClock clock = .ok t)
      {client secret : String} (hclient : n.clientId = some client)
      (hsecret : n.clientSecret = some secret)
      (hheader : n.header clock
        = .ok ("Authorization", "Bearer " ++ Token.signed secret client clock))

theorem Option.filter_ne_empty_eq_none_iff (o : Option String) :
    o.filter (· ≠ "") = none ↔ o.getD "" = "" := by
  cases o with
  | none => simp
  | some t => simp

theorem Token.signingKey_of_secretFault {secret : String} {e : Failure}
    (h : secretFault? secret = some e) : e.family = .signingKey := by
  rw [secretFault?] at h
  split at h
  · cases h
    rfl
  · split at h
    · cases h
      rfl
    · cases h

/-- The header of an account comes to one of these: there is no account, the clock or the key is out
of range, or a token is made. -/
theorem NotifySettings.header_cases (n : NotifySettings) (clock : Int) : n.HeaderCase clock := by
  cases hclient : n.clientId.filter (· ≠ "") with
  | none =>
    refine .anonymous (.inl ((Option.filter_ne_empty_eq_none_iff _).mp hclient)) .clientSetting ?_
    rw [header, hclient]
  | some client =>
    cases hsecret : n.clientSecret.filter (· ≠ "") with
    | none =>
      refine .anonymous (.inr ((Option.filter_ne_empty_eq_none_iff _).mp hsecret)) .secretSetting ?_
      rw [header, hclient, hsecret]
    | some secret =>
      -- from here on there is an account
      have hnamed : ¬ n.IsAnonymous := by
        rintro (h | h)
        · rw [← Option.filter_ne_empty_eq_none_iff, hclient] at h
          cases h
        · rw [← Option.filter_ne_empty_eq_none_iff, hsecret] at h
          cases h
      have hheader : n.header clock = (Token.issued secret client clock).map
          fun token => ("Authorization", "Bearer " ++ token) := by
        rw [header, hclient, hsecret]
      rw [Token.issued] at hheader
      -- the time of issue comes first, then the key
      cases hclock : Timestamp.ofClock clock with
      | error f =>
        rw [hclock] at hheader
        exact .clock hnamed hclock hheader
      | ok t =>
        rw [hclock] at hheader
        dsimp only at hheader
        rw [Token.create] at hheader
        cases hfault : Token.secretFault? secret with
        | some e =>
          rw [hfault] at hheader
          exact .key hnamed hclock (Token.signingKey_of_secretFault hfault) hheader
        | none =>
          rw [hfault] at hheader
          exact .made hnamed hclock (Option.filter_eq_some_iff.mp hclient).1
            (Option.filter_eq_some_iff.mp hsecret).1 hheader

/-- Without an account, there is no header for want of one. -/
theorem NotifySettings.IsAnonymous.header {n : NotifySettings} (h : n.IsAnonymous) (clock : Int) :
    ∃ f, n.header clock = .error (.credential f) := by
  cases n.header_cases clock with
  | anonymous _ f hheader => exact ⟨f, hheader⟩
  | clock hnamed _ _ => exact absurd h hnamed
  | key hnamed _ _ _ => exact absurd h hnamed
  | made hnamed _ _ _ _ => exact absurd h hnamed

/-- An account that has no header lacks something, or cannot sign. -/
theorem isForeign_header {settings : NotifySettings} {clock : Int} {e : Failure}
    (h : settings.header clock = .error e) : e.IsForeign := by
  cases settings.header_cases clock with
  | anonymous _ f hheader =>
    rw [hheader] at h
    cases h
    exact isForeign_credential f
  | clock _ _ hheader =>
    rw [hheader] at h
    cases h
    intro o ho
    cases ho
  | key _ _ he hheader =>
    rw [hheader] at h
    cases h
    exact isForeign_of_signingKey he
  | made _ _ _ _ hheader =>
    rw [hheader] at h
    cases h

namespace Mail

variable {s : Surroundings} {w w' : World} {known : Settings}

theorem ends_refuse {α : Type} (event : String) (f : CredentialFault) :
    (Token.refuse event f : Action α).Ends s w (.error (.credential f)) [] :=
  (ends_log _ _ _).bind fun _ _ => ends_fail _

/-- A token is issued for an account that has a client and a secret, as clock and key allow. -/
theorem ends_issue {client secret : String} (hsecret : secret ≠ "") (hclient : client ≠ "") :
    (Token.issue (.str secret) (.str client)).Ends s w (Token.issued secret client s.clock) [] := by
  have hsecret : (Json.str secret).isTruthy = true := by simpa [Json.isTruthy] using hsecret
  have hclient : (Json.str client).isTruthy = true := by simpa [Json.isTruthy] using hclient
  -- both texts are there, so that the clock is read
  have htime := ends_clock (s := s) (w := w)
  simp only [Token.issue, hsecret, hclient, Bool.not_true, Bool.false_eq_true, if_false]
  rw [Token.issued]
  cases hclock : Timestamp.ofClock s.clock with
  | error f =>
    rw [hclock] at htime
    exact htime.bind_error
  | ok _ =>
    rw [hclock] at htime
    exact htime.bind fun w' _ => ends_ofExcept _

/-- The header is made of what the settings say about the account. -/
theorem ends_authorization (hknown : (settings s w).1 = .ok known) :
    authorization.Ends s w (known.notify.header s.clock) [] := by
  refine ends_known_bind hknown fun w₁ _ => ?_
  rw [NotifySettings.header]
  dsimp only
  cases hclient : known.notify.clientId.filter (· ≠ "") with
  | none => exact ends_refuse _ _
  | some client =>
    cases hsecret : known.notify.clientSecret.filter (· ≠ "") with
    | none => exact ends_refuse _ _
    | some secret =>
      -- empty texts have been sorted out here, so that the token is not refused for them
      rw [Option.filter_eq_some_iff] at hclient hsecret
      have hissue := ends_issue (s := s) (w := w₁) (by simpa using hsecret.2)
        (by simpa using hclient.2)
      dsimp only
      cases htoken : Token.issued secret client s.clock with
      | error e =>
        rw [htoken] at hissue
        exact hissue.bind_error
      | ok token =>
        rw [htoken] at hissue
        exact hissue.bind fun _ _ => ends_pure _

/-! ### Requests to the email service -/

/-- The request that posts a body to an endpoint of the service. -/
def request (known : Settings) (header : String × String) (endpoint : String) (payload : Json) :
    Request :=
  ⟨.general, address known endpoint, payload.spaced,
    [header, ("Content-Type", "application/json"), ("User-Agent", known.delivery.userAgent)],
    known.delivery.timeout⟩

/-- What a post to the service comes to: the answer, if there is a header and the body can be
written. -/
def reach (isWritten : Bool) (s : Surroundings) (w : World) : Except Failure Response :=
  match (settings s w).1 with
  | .error e => .error e
  | .ok known =>
      match known.notify.header s.clock with
      | .error e => .error e
      | .ok _ => if isWritten then ChannelKind.email.reply s w else .error .longInteger

/-- The requests of a post to an endpoint of the service: what the settings of the process make of
it. -/
def asks (endpoint : String) (payload : Json) (s : Surroundings) (w : World) : List Request :=
  match (settings s w).1 with
  | .error _ => []
  | .ok known =>
      match known.notify.header s.clock with
      | .error _ => []
      | .ok header =>
          if payload.isWithinLimit then [request known header endpoint payload] else []

/-- The one request that a post to the service may make. -/
theorem mem_asks {endpoint : String} {payload : Json} {rq : Request}
    (h : rq ∈ asks endpoint payload s w) :
    ∃ known header, (settings s w).1 = .ok known ∧ known.notify.header s.clock = .ok header ∧
      payload.isWithinLimit = true ∧ rq = request known header endpoint payload := by
  rw [asks] at h
  split at h
  · cases h
  · next known hknown =>
    split at h
    · cases h
    · next header hheader =>
      split at h
      · next hwritten => exact ⟨known, header, hknown, hheader, hwritten, List.mem_singleton.mp h⟩
      · cases h

/-- A post makes its request if there are settings and a header, and the body can be written. -/
theorem asks_sent {endpoint : String} {payload : Json} {header : String × String}
    (hknown : (settings s w).1 = .ok known) (hheader : known.notify.header s.clock = .ok header)
    (hwritten : payload.isWithinLimit = true) :
    asks endpoint payload s w = [request known header endpoint payload] := by
  rw [asks, hknown]
  dsimp only
  rw [hheader]
  exact if_pos hwritten

/-- If it does, it comes to the answer. -/
theorem reach_sent {isWritten : Bool} {header : String × String}
    (hknown : (settings s w).1 = .ok known) (hheader : known.notify.header s.clock = .ok header)
    (hwritten : isWritten = true) : reach isWritten s w = ChannelKind.email.reply s w := by
  rw [reach, hknown]
  dsimp only
  rw [hheader]
  exact if_pos hwritten

section Posts

variable {endpoint : String} {payload : Json} {header : String × String} {e : Failure}

theorem ends_post_refused (url : String) (hknown : (settings s w).1 = .ok known)
    (hheader : known.notify.header s.clock = .error e) :
    (post url payload none).Ends s w (.error e) [] := by
  refine ends_known_bind hknown fun w₁ h₁ => ?_
  have hauthorization := ends_authorization (h₁.settings.trans hknown)
  rw [hheader] at hauthorization
  exact hauthorization.bind_error

theorem ends_post_long (url : String) (hknown : (settings s w).1 = .ok known)
    (hheader : known.notify.header s.clock = .ok header) (hlong : ¬ payload.isWithinLimit = true) :
    (post url payload none).Ends s w (.error .longInteger) [] := by
  refine ends_known_bind hknown fun w₁ h₁ => ?_
  have hauthorization := ends_authorization (h₁.settings.trans hknown)
  rw [hheader] at hauthorization
  exact hauthorization.bind fun _ _ => (ends_body_long hlong).bind_error

theorem ends_post_sent (hknown : (settings s w).1 = .ok known)
    (hheader : known.notify.header s.clock = .ok header) (hwritten : payload.isWithinLimit = true) :
    (post (address known endpoint) payload none).Ends s w (ChannelKind.email.reply s w)
      [request known header endpoint payload] := by
  refine ends_known_bind hknown fun w₁ h₁ => ?_
  have hauthorization := ends_authorization (h₁.settings.trans hknown)
  rw [hheader] at hauthorization
  refine hauthorization.bind fun w₂ h₂ => (ends_body hwritten).bind fun w₃ h₃ => ?_
  rw [← h₁.reply_eq, ← h₂.reply_eq, ← h₃.reply_eq]
  exact ends_general (by decide) _

/-- The service is called at the address that the settings of the process give. -/
theorem ends_call {call : Settings → Action Response} {l : Log.Level} {event : String}
    {fs : Response → Fields}
    (hcall : ∀ known, call known = (post (address known endpoint) payload none >>= fun r =>
      log l event (fs r) >>= fun _ => pure r)) :
    (settings >>= call).Ends s w (reach payload.isWithinLimit s w) (asks endpoint payload s w) := by
  rw [reach, asks]
  cases hknown : (settings s w).1 with
  | error e => exact ends_unsettled hknown
  | ok known =>
    dsimp only
    refine ends_known_bind hknown fun w₁ h₁ => ?_
    have hknown₁ := h₁.settings.trans hknown
    rw [hcall]
    cases hheader : known.notify.header s.clock with
    | error e => exact (ends_post_refused _ hknown₁ hheader).bind_error
    | ok header =>
      dsimp only
      -- the body is printed before the request is made
      by_cases hwritten : payload.isWithinLimit = true
      · rw [if_pos hwritten, if_pos hwritten, ← h₁.reply_eq]
        exact ends_logged (ends_post_sent hknown₁ hheader hwritten) _ _ _
      · rw [if_neg hwritten, if_neg hwritten]
        exact (ends_post_long _ hknown₁ hheader hwritten).bind_error

theorem asksOnce_call (endpoint : String) (payload : Json) :
    AsksOnce .email s w (reach payload.isWithinLimit s w) (asks endpoint payload s w) := by
  rw [reach, asks]
  cases hsettings : (settings s w).1 with
  | error e => exact .unasked (isForeign_settings hsettings)
  | ok known =>
    dsimp only
    cases hheader : known.notify.header s.clock with
    | error e => exact .unasked (isForeign_header hheader)
    | ok header =>
      dsimp only
      split
      · exact .asked _
      · exact .unasked (by simp [Failure.IsForeign])

theorem reach_later (isWritten : Bool) (h : Later s w w' []) :
    reach isWritten s w' = reach isWritten s w := by
  rw [reach, h.settings, h.reply_eq, ← reach]

theorem asks_later (endpoint : String) (payload : Json) (h : Later s w w' []) :
    asks endpoint payload s w' = asks endpoint payload s w := by
  rw [asks, h.settings, ← asks]

end Posts

theorem ends_sendEmail (receiver template : String) (values : Fields) :
    (sendEmail receiver template values).Ends s w
      (reach (emailPayload receiver template values).isWithinLimit s w)
      (asks emailEndpoint (emailPayload receiver template values) s w) :=
  ends_call fun _ => rfl

theorem ends_sendBulk (name template : String) (addresses : List String) (values : Fields) :
    (sendBulk name template addresses values).Ends s w
      (reach (bulkPayload name template addresses values).isWithinLimit s w)
      (asks bulkEndpoint (bulkPayload name template addresses values) s w) :=
  ends_call fun _ => rfl

end Mail

end JobHerald
