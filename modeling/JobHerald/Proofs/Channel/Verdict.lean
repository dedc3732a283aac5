import JobHerald.Proofs.Channel.Announcing
import JobHerald.Proofs.Channel.Posting

/-!
# Verdicts

An announcement comes to a verdict on what its post has reached: a truth value, or a failure.  Each
kind of channel catches some of the failures that a post can meet, and fails as a delivery then.
What it does not catch escapes as it is: an address that the chat client refuses, a secret that no
token is signed with, trouble with the operating system on two of the three kinds.

## Main definitions

* `ChannelKind.catches`, `ChannelKind.isCutOff` — the failures that a kind of channel turns into
  failed deliveries, and those that it takes for trouble with the connection.
* `Announced` — what an announcement comes to, with its requests.
* `Slack.Target.reach?`, `Mail.Account.reach?`, `Endpoint.Target.reach?` — what the post of a
  channel reaches, if there is one.
* `PostsOnce` — what has been reached with one request at most.

## Main results

* `ChannelKind.wrap_caught`, `ChannelKind.wrap_uncaught` — what becomes of a failure.
* `ChannelKind.Announces.trades` — an announcement makes the requests of its post, and comes to the
  verdict on what that has reached.
* `Slack.Target.announced_deliver`, `Mail.Account.announced_deliver`,
  `Endpoint.Target.announced_deliver` — **what the announcements of each channel come to.**
* `Slack.Target.ends_deliver`, `Mail.Account.ends_deliver`, `Endpoint.Target.ends_deliver` — the
  verdict on what a post has reached, if the notice can be announced.
-/

namespace JobHerald

open JobHerald.Action

/-! ### Failures that are caught -/

/-- A failed delivery. -/
def Failure.IsDelivery (e : Failure) : Prop :=
  ∃ message status body code, e = .operation (.delivery message status body code)

namespace ChannelKind

/-- The failures that a kind of channel takes for trouble with the connection. -/
def isCutOff : ChannelKind → Failure → Bool
  | .slack, e => e.family.isSystem
  | .email, e => e.family.isRequest
  | .webhook, e => e.family.isRequest

/-- The failures that a kind of channel turns into failed deliveries. -/
def catches : ChannelKind → Failure → Bool
  | .email, e => e.family.isRequest || e.family.isValue
  | kind, e => kind.isCutOff e

variable {kind : ChannelKind} {e : Failure}

theorem wrap_cutOff (h : kind.isCutOff e = true) :
    ∃ message, kind.wrap e = undelivered message "CONNECTION_ERROR" := by
  cases kind with
  | slack => exact ⟨_, if_pos h⟩
  | email => exact ⟨_, if_pos h⟩
  | webhook => exact ⟨_, if_pos h⟩

/-- What is caught becomes a failed delivery with one of two codes. -/
theorem wrap_caught (h : kind.catches e = true) :
    ∃ message, ∃ code ∈ ["CONNECTION_ERROR", "NOTIFY_CREDENTIALS_MISSING"],
      kind.wrap e = undelivered message code := by
  by_cases hcut : kind.isCutOff e = true
  · obtain ⟨message, hwrap⟩ := wrap_cutOff hcut
    exact ⟨message, _, by simp, hwrap⟩
  · -- only the email channel catches more than trouble with the connection
    cases kind with
    | slack => exact absurd h hcut
    | webhook => exact absurd h hcut
    | email =>
      have hrequest : e.family.isRequest = false := eq_false_of_ne_true hcut
      have hvalue : e.family.isValue = true := by simpa [catches, hrequest] using h
      refine ⟨e.message, "NOTIFY_CREDENTIALS_MISSING", by simp, ?_⟩
      show Mail.Account.callFailure e = _
      rw [Mail.Account.callFailure, hrequest, hvalue]
      rfl

/-- What is not caught stays what it is, and leaves the channel as it came. -/
theorem wrap_uncaught (h : kind.catches e = false) : kind.wrap e = e := by
  cases kind with
  | slack => exact if_neg (by simpa [catches, isCutOff] using h)
  | webhook => exact if_neg (by simpa [catches, isCutOff] using h)
  | email =>
    simp only [catches, Bool.or_eq_false_iff] at h
    show Mail.Account.callFailure e = e
    rw [Mail.Account.callFailure, h.1, h.2]
    rfl

/-- Every kind of channel catches a failed request, and takes it for trouble with the connection. -/
theorem isCutOff_of_isRequest (h : e.family.isRequest = true) (kind : ChannelKind) :
    kind.isCutOff e = true := by
  cases kind with
  | slack =>
    show e.family.isSystem = true
    generalize e.family = f at h
    cases f <;> simp_all [Family.isSystem, Family.isRequest]
  | email => exact h
  | webhook => exact h

/-- A failure that no response has caused stays such a failure. -/
theorem isPlain_wrap (h : e.IsPlain) : (kind.wrap e).IsPlain := by
  cases hcaught : kind.catches e with
  | false => rwa [wrap_uncaught hcaught]
  | true =>
    obtain ⟨message, code, hcode, hwrap⟩ := wrap_caught hcaught
    rw [hwrap]
    simp only [List.mem_cons, List.not_mem_nil, or_false] at hcode
    rcases hcode with rfl | rfl <;> exact Failure.isPlain_undelivered (by decide)

end ChannelKind

/-! ### Announcements -/

/-- What an announcement that goes by a course comes to, with its requests: it declines, it fails,
or it comes to the verdict on what its post has reached. -/
inductive Announced (kind : ChannelKind) (c : Course)
    (Reached : Except Failure Response → List Request → Prop) :
    Except Failure Json → List Request → Prop
  /-- There is nothing to send the notice with. -/
  | declined (h : c.declines) : Announced kind c Reached (.ok declined) []
  /-- The notice cannot be announced. -/
  | failed (h : c.fails) {e : Failure} (he : e.IsPlain) : Announced kind c Reached (.error e) []
  /-- It has been posted. -/
  | posted (h : ¬ c.declines) {r : Except Failure Response} {rqs : List Request}
      (hr : Reached r rqs) : Announced kind c Reached (kind.verdict (some r)) rqs

/-- What holds of no request, and of the requests of every post that may be made, holds of those of
the announcement. -/
theorem Announced.requests {kind : ChannelKind} {c : Course}
    {Reached : Except Failure Response → List Request → Prop} {P : List Request → Prop}
    {v : Except Failure Json} {rqs : List Request} (hnone : P [])
    (hreached : ∀ {r rqs}, ¬ c.declines → Reached r rqs → P rqs)
    (hv : Announced kind c Reached v rqs) : P rqs := by
  cases hv with
  | declined _ => exact hnone
  | failed _ _ => exact hnone
  | posted h hr => exact hreached h hr

namespace ChannelKind

variable {s : Surroundings} {w : World} {kind : ChannelKind} {c : Course}

/-- A post whose failures are wrapped, and the check of its response. -/
theorem Checks.ends {conclude : Response → Action Json} (hconclude : kind.Checks conclude)
    {x : Action Response} {r : Except Failure Response} {rqs : List Request}
    (hx : x.Ends s w r rqs) :
    ((x.handle fun e => .fail (kind.wrap e)) >>= conclude).Ends s w (kind.verdict (some r))
      rqs := by
  cases r with
  | error e =>
    exact (hx.handle_error (g := fun e => .fail (kind.wrap e)) fun _ => ends_fail _).bind_error
  | ok response =>
    obtain ⟨l, event, fs, hcheck⟩ := hconclude response
    refine hx.handle_ok.bind_last fun w' => ?_
    rw [hcheck]
    exact ends_log_then l event fs fun _ => ends_ofExcept _

/-- An announcement makes the requests of its post, and comes to the verdict on what that has
reached.  Whatever comes before the post makes no request, and leaves the settings alone. -/
theorem Announces.trades {Reached : Except Failure Response → List Request → Prop}
    {x : Action Json} (h : kind.Announces c x)
    (hposts : ∀ y w', c.posts y → Later s w w' [] → y.Trades s w' Reached) :
    x.Trades s w (Announced kind c Reached) := by
  induction h generalizing w with
  | declines h event fs =>
    exact ⟨_, [], ends_log_then _ event fs fun _ => ends_pure _, .declined h⟩
  | fails h he => exact ⟨_, [], ends_fail _, .failed h he⟩
  | posts h hx hconclude =>
    obtain ⟨r, rqs, hends, hr⟩ := hposts _ w hx (.refl s w)
    exact ⟨_, rqs, hconclude.ends hends, .posted h hr⟩
  | makes h hrender herror _ ih =>
    obtain ⟨r, hr, hmade⟩ := hrender.ends
    cases r with
    | error e => exact ⟨_, [], (hmade s w).bind_error, .failed (herror e hr).1 (herror e hr).2⟩
    | ok payload =>
      -- the post begins in a world that is later by what the message has logged
      obtain ⟨w', hrun, hlater, hgo⟩ := (hmade s w).after
      obtain ⟨v, rqs, hends, hannounced⟩ := ih payload hr fun y w'' hy hw'' =>
        hposts y w'' hy (hlater.trans hw'')
      exact ⟨v, rqs, hgo hends (bind_ok hrun), hannounced⟩

end ChannelKind

/-- What has been reached, with the requests for it: there was no post, or there was one, which made
one request at most. -/
inductive PostsOnce (kind : ChannelKind) (s : Surroundings) (w : World) :
    Option (Except Failure Response) → List Request → Prop
  /-- There was no post. -/
  | unposted : PostsOnce kind s w none []
  /-- There was a post. -/
  | posted {r : Except Failure Response} {rqs : List Request} (h : AsksOnce kind s w r rqs) :
    PostsOnce kind s w (some r) rqs

/-- No failure that has been reached knows its status. -/
theorem PostsOnce.isForeign {kind : ChannelKind} {s : Surroundings} {w : World} {e : Failure}
    {rqs : List Request} (h : PostsOnce kind s w (some (.error e)) rqs)
    (hplain : ∀ o, s.replies (requestCount w) ≠ .error (.operation o)) : e.IsForeign := by
  cases h with
  | posted h => exact h.isForeign hplain rfl

/-- What does not fail comes to the verdict on what has been reached, if there was a post. -/
theorem Announced.verdict_eq {kind : ChannelKind} {c : Course}
    {Reached : Except Failure Response → List Request → Prop} {s : Surroundings} {w : World}
    {v : Except Failure Json} {rqs : List Request} (h : Announced kind c Reached v rqs)
    (reached : Option (Except Failure Response)) (hfails : ¬ c.fails)
    (hdeclined : c.declines → reached = none)
    (hposted : ¬ c.declines → ∀ r rqs, Reached r rqs →
      reached = some r ∧ AsksOnce kind s w r rqs) :
    v = kind.verdict reached ∧ PostsOnce kind s w reached rqs := by
  cases h with
  | declined h =>
    rw [hdeclined h]
    exact ⟨rfl, .unposted⟩
  | failed h _ => exact absurd h hfails
  | posted h hr =>
    obtain ⟨rfl, honce⟩ := hposted h _ _ hr
    exact ⟨rfl, .posted honce⟩

/-! ### The chat channel -/

namespace Slack.Target

variable {s : Surroundings} {w : World}

/-- What the post of the chat channel reaches; without an address there is no post. -/
def reach? (t : Target) (s : Surroundings) (w : World) : Option (Except Failure Response) :=
  if t.url = "" then none else some (reach t.url s w)

/-- What a post of the message about a notice comes to. -/
def Reached (t : Target) (n : Notice) (s : Surroundings) (w : World)
    (r : Except Failure Response) (rqs : List Request) : Prop :=
  r = reach t.url s w ∧ ∃ payload, t.IsMessage n payload ∧ rqs = asks t.url payload t.timeout s w

theorem announced_deliver (t : Target) (n : Notice) :
    (t.deliver n).Trades s w (Announced .slack (t.course n) (t.Reached n s w)) := by
  refine (t.announces_deliver n).trades ?_
  rintro _ w' ⟨payload, hmessage, rfl⟩ hlater
  refine ⟨_, _, ends_post t.url payload t.timeout, reach_later t.url hlater, payload, hmessage, ?_⟩
  exact asks_later t.url payload t.timeout hlater

theorem Reached.asksOnce {t : Target} {n : Notice} {r : Except Failure Response}
    {rqs : List Request} (h : t.Reached n s w r rqs) : AsksOnce .slack s w r rqs := by
  obtain ⟨rfl, payload, -, rfl⟩ := h
  exact asksOnce_post t.url payload t.timeout

theorem ends_deliver (t : Target) {n : Notice} (hn : declaration.supports n.capability = true)
    (hrenders : ¬ n.MixesClocks ∧ n.IsCountable) :
    ∃ rqs, (t.deliver n).Ends s w (ChannelKind.slack.verdict (t.reach? s w)) rqs ∧
      PostsOnce .slack s w (t.reach? s w) rqs := by
  obtain ⟨v, rqs, hends, hannounced⟩ := t.announced_deliver (s := s) (w := w) n
  obtain ⟨rfl, honce⟩ := hannounced.verdict_eq (t.reach? s w)
    (not_not_intro ⟨hn, .inr hrenders⟩) (fun hblank => if_pos hblank)
    fun hblank r rqs hr => ⟨by rw [hr.1]; exact if_neg hblank, hr.asksOnce⟩
  exact ⟨rqs, hends, honce⟩

end Slack.Target

/-! ### The webhook channel -/

namespace Endpoint.Target

variable {s : Surroundings} {w : World}

/-- What the post of the webhook channel reaches; without an address there is no post. -/
def reach? (t : Target) (s : Surroundings) (w : World) : Option (Except Failure Response) :=
  if t.url = "" then none else some (reach s w)

/-- What a post of the text about a notice comes to. -/
def Reached (t : Target) (n : Notice) (s : Surroundings) (w : World)
    (r : Except Failure Response) (rqs : List Request) : Prop :=
  r = reach s w ∧ ∃ text, text? n = some (.ok text) ∧ rqs = asks t.url text t.timeout s w

theorem announced_deliver (t : Target) (n : Notice) :
    (t.deliver n).Trades s w (Announced .webhook (t.course n) (t.Reached n s w)) := by
  refine (t.announces_deliver n).trades ?_
  rintro _ w' ⟨text, htext, rfl⟩ hlater
  refine ⟨_, _, ends_post t.url text t.timeout, reach_later hlater, text, htext, ?_⟩
  exact asks_later t.url text t.timeout hlater

theorem Reached.asksOnce {t : Target} {n : Notice} {r : Except Failure Response}
    {rqs : List Request} (h : t.Reached n s w r rqs) : AsksOnce .webhook s w r rqs := by
  obtain ⟨rfl, text, -, rfl⟩ := h
  exact asksOnce_post t.url text t.timeout

theorem ends_deliver (t : Target) {n : Notice} (hn : declaration.supports n.capability = true) :
    ∃ rqs, (t.deliver n).Ends s w (ChannelKind.webhook.verdict (t.reach? s w)) rqs ∧
      PostsOnce .webhook s w (t.reach? s w) rqs := by
  obtain ⟨v, rqs, hends, hannounced⟩ := t.announced_deliver (s := s) (w := w) n
  obtain ⟨rfl, honce⟩ := hannounced.verdict_eq (t.reach? s w)
    (not_not_intro hn) (fun hblank => if_pos hblank)
    fun hblank r rqs hr => ⟨by rw [hr.1]; exact if_neg hblank, hr.asksOnce⟩
  exact ⟨rqs, hends, honce⟩

end Endpoint.Target

/-! ### The email channel -/

/-- Whether the numbers of records can be written is decided by looking at them. -/
instance (n : Notice) : Decidable n.IsCountable :=
  match n with
  | .jobFailure _ _ | .jobSuccess _ _ => inferInstanceAs (Decidable (_ ∧ _))
  | .connectionDisabled _ | .connectionDisableWarning _ | .schemaPropagated _ _ |
    .breakingChangeWarning _ | .breakingChangeSyncsDisabled _ | .test _ =>
      inferInstanceAs (Decidable True)

namespace Mail

theorem isWithinLimit_emailPayload (receiver template : String) (values : Fields) :
    (emailPayload receiver template values).isWithinLimit = Json.membersWithinLimit values := by
  simp [emailPayload, Json.isWithinLimit, Json.membersWithinLimit]

theorem itemsWithinLimit_map {α : Type} {f : α → Json} (h : ∀ a, (f a).isWithinLimit = true)
    (l : List α) : Json.itemsWithinLimit (l.map f) = true := by
  induction l with
  | nil => rfl
  | cons a l ih => rw [List.map_cons, Json.itemsWithinLimit, h, ih]; rfl

/-- The rows of a bulk job have nothing but texts. -/
theorem isWithinLimit_bulkPayload (name template : String) (addresses : List String)
    (b : BreakingChange) :
    (bulkPayload name template addresses (bulkValues b)).isWithinLimit = true := by
  have hrows : Json.itemsWithinLimit ((rows addresses (bulkValues b)).map .arr) = true := by
    rw [rows, List.map_cons, List.map_map, Json.itemsWithinLimit]
    rw [itemsWithinLimit_map (fun _ => rfl)]
    rfl
  simp [bulkPayload, Json.isWithinLimit, Json.membersWithinLimit, hrows]

namespace Account

variable {s : Surroundings} {w : World} {a : Account} {n : Notice}

/-- What the post of the email channel reaches, if there is one. -/
def reach? (a : Account) (n : Notice) (s : Surroundings) (w : World) :
    Option (Except Failure Response) :=
  if a.sends n then some (reach (decide n.IsCountable) s w) else none

/-- What is posted about a notice, with the endpoint that it goes to. -/
inductive Payload (a : Account) (n : Notice) : String → Json → Prop
  /-- One email, to the receiver and with the values of the notice. -/
  | email {receiver : String} {values : Fields}
      (hreceiver : a.receiverFor n.receiver? = some receiver)
      (hvalues : values? n = some (.ok values)) :
    Payload a n emailEndpoint
      (emailPayload receiver (a.settings.templateFor n.capability) values)
  /-- A bulk job, with a row for each receiver of the change. -/
  | bulk {title : String} {change : BreakingChange} (h : bulk? n = some (title, change)) :
    Payload a n bulkEndpoint (bulkPayload (title ++ ": " ++ change.connector)
      (a.settings.templateFor n.capability) (change.receivers.map (·.address)) (bulkValues change))

/-- A payload can be written if the numbers of records in the notice can. -/
theorem Payload.isWithinLimit {endpoint : String} {payload : Json}
    (h : a.Payload n endpoint payload) : payload.isWithinLimit = decide n.IsCountable := by
  cases h with
  | email _ hvalues =>
    rw [isWithinLimit_emailPayload, Bool.eq_iff_iff, decide_eq_true_iff]
    exact membersWithinLimit_values hvalues
  | bulk h =>
    rw [isWithinLimit_bulkPayload, decide_eq_true (isBulk_of_bulk? h).2.1]

/-- What a call of the service about a notice comes to. -/
def Reached (a : Account) (n : Notice) (s : Surroundings) (w : World)
    (r : Except Failure Response) (rqs : List Request) : Prop :=
  r = reach (decide n.IsCountable) s w ∧
    ∃ endpoint payload, a.Payload n endpoint payload ∧ rqs = asks endpoint payload s w

/-- A call of the service posts its payload: the request, and what comes of it, are those of the
endpoint. -/
theorem Calls.trades {x : Action Response} (h : a.Calls n x) :
    x.Trades s w (a.Reached n s w) := by
  -- whether the payload can be written is decided by the notice
  have hreach : ∀ {endpoint payload}, a.Payload n endpoint payload →
      reach payload.isWithinLimit s w = reach (decide n.IsCountable) s w :=
    fun hpayload => congrArg (reach · s w) hpayload.isWithinLimit
  cases h with
  | email hreceiver hvalues =>
    have hpayload : a.Payload n _ _ := .email hreceiver hvalues
    exact ⟨_, _, ends_sendEmail _ _ _, hreach hpayload, _, _, hpayload, rfl⟩
  | bulk h =>
    have hpayload : a.Payload n _ _ := .bulk h
    exact ⟨_, _, ends_sendBulk _ _ _ _, hreach hpayload, _, _, hpayload, rfl⟩

theorem announced_deliver (a : Account) (n : Notice) :
    (a.deliver n).Trades s w (Announced .email (a.course n) (a.Reached n s w)) := by
  refine (a.announces_deliver n).trades fun x w' hcalls hlater => ?_
  refine (hcalls : a.Calls n x).trades.mono ?_
  rintro r rqs ⟨rfl, endpoint, payload, hpayload, rfl⟩
  exact ⟨reach_later _ hlater, endpoint, payload, hpayload, asks_later endpoint payload hlater⟩

theorem Reached.asksOnce {r : Except Failure Response} {rqs : List Request}
    (h : a.Reached n s w r rqs) : AsksOnce .email s w r rqs := by
  obtain ⟨rfl, endpoint, payload, hpayload, rfl⟩ := h
  rw [← hpayload.isWithinLimit]
  exact asksOnce_call endpoint payload

theorem ends_deliver (a : Account) {n : Notice} (hn : declaration.supports n.capability = true)
    (hclocks : ¬ n.MixesClocks) :
    ∃ rqs, (a.deliver n).Ends s w (ChannelKind.email.verdict (a.reach? n s w)) rqs ∧
      PostsOnce .email s w (a.reach? n s w) rqs := by
  obtain ⟨v, rqs, hends, hannounced⟩ := a.announced_deliver (s := s) (w := w) n
  -- the account reaches the service if it sends at all
  have hreach : ∀ {b}, a.sends n = b →
      a.reach? n s w = if b then some (reach (decide n.IsCountable) s w) else none := by
    rintro _ rfl
    rfl
  obtain ⟨rfl, honce⟩ := hannounced.verdict_eq (a.reach? n s w)
    (not_not_intro ⟨hn, hclocks⟩) (fun hunsent => hreach hunsent)
    fun hsent r rqs hr => ⟨by rw [hr.1]; exact hreach (eq_true_of_ne_false hsent), hr.asksOnce⟩
  exact ⟨rqs, hends, honce⟩

end Account

end Mail

end JobHerald
