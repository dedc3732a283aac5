import JobHerald.Channel.Email
import JobHerald.Proofs.Channel.Validity

/-!
# How channels announce

All channels go about a notice in the same way.  A channel that has nothing to send it with declines
it, and one that cannot announce it fails.  Otherwise something is posted: a failure of the post is
turned into one of the channel, and the response is checked.  What is known of every single post is
therefore known of every announcement, by going through these cases once.

## Main definitions

* `ChannelKind.wrap`, `ChannelKind.accepts`, `ChannelKind.verdict` — what a kind of channel makes of
  a failure, of a response, and of all that a post can come to.
* `ChannelKind.Checks` — checks of a response.
* `Course`, `ChannelKind.Announces` — what decides about an announcement, and the announcements that
  go by it.
* `Slack.Target.course`, `Endpoint.Target.course`, `Mail.Account.course` — what decides about the
  announcements of the channels.

## Main results

* `Slack.Target.announces_deliver`, `Endpoint.Target.announces_deliver`,
  `Mail.Account.announces_deliver` — **every channel announces in this way.**
* `ChannelKind.Announces.declined` — what is not configured declines.
-/

namespace JobHerald

open JobHerald.Action

/-! ### Failures, responses and verdicts -/

namespace ChannelKind

/-- What becomes of a failure that a post has met. -/
def wrap : ChannelKind → Failure → Failure
  | .slack => Slack.Target.postFailure
  | .email => Mail.Account.callFailure
  | .webhook => Endpoint.Target.postFailure

/-- Whether a response says that a notice was accepted: the email service has one status
for that, any other endpoint a range. -/
def accepts : ChannelKind → Response → Bool
  | .email, r => r.status = 201
  | _, r => r.isAccepted

/-- What a refusal is called. -/
def refusal : ChannelKind → String
  | .email => "GC Notify rejected the email"
  | _ => "Failed to deliver notification"

/-- What an announcement comes to that may have posted something. -/
def verdict (kind : ChannelKind) : Option (Except Failure Response) → Except Failure Json
  | none => .ok declined
  | some (.error e) => .error (kind.wrap e)
  | some (.ok r) => if kind.accepts r then .ok delivered else .error (refused kind.refusal r)

/-- A check of a response: it writes one log entry, and comes to the verdict on the response. -/
def Checks (kind : ChannelKind) (conclude : Response → Action Json) : Prop :=
  ∀ r, ∃ l event fs,
    conclude r = (log l event fs >>= fun _ => ofExcept (kind.verdict (some (.ok r))))

end ChannelKind

theorem Slack.Target.checks_conclude : ChannelKind.slack.Checks conclude := by
  intro r
  have haccepts : ChannelKind.slack.accepts r = r.isAccepted := rfl
  rw [conclude, ChannelKind.verdict, haccepts]
  cases r.isAccepted with
  | true => exact ⟨_, _, _, rfl⟩
  | false => exact ⟨_, _, _, rfl⟩

theorem Endpoint.Target.checks_conclude : ChannelKind.webhook.Checks conclude := by
  intro r
  have haccepts : ChannelKind.webhook.accepts r = r.isAccepted := rfl
  rw [conclude, ChannelKind.verdict, haccepts]
  cases r.isAccepted with
  | true => exact ⟨_, _, _, rfl⟩
  | false => exact ⟨_, _, _, rfl⟩

theorem Mail.Account.checks_conclude (template : String) :
    ChannelKind.email.Checks (conclude template) := by
  intro r
  have haccepts : ChannelKind.email.accepts r = decide (r.status = 201) := rfl
  rw [conclude, ChannelKind.verdict, haccepts]
  by_cases hr : r.status = 201
  · rw [if_pos hr, decide_eq_true hr]
    exact ⟨_, _, _, rfl⟩
  · rw [if_neg hr, decide_eq_false hr]
    exact ⟨_, _, _, rfl⟩

/-! ### Announcements -/

/-- What decides about an announcement. -/
structure Course where
  /-- The channel has nothing to send the notice with. -/
  declines : Prop
  /-- The notice cannot be announced. -/
  fails : Prop
  /-- What is posted otherwise. -/
  posts : Action Response → Prop

/-- The announcements of a kind of channel that go by a course. -/
inductive ChannelKind.Announces (kind : ChannelKind) (c : Course) : Action Json → Prop
  /-- The channel says in the log that it has nothing to send the notice with. -/
  | declines (h : c.declines) (event : String) (fs : Fields) :
    Announces kind c (info event fs >>= fun _ => pure declined)
  /-- It fails before it does anything. -/
  | fails (h : c.fails) {e : Failure} (he : e.IsPlain) : Announces kind c (fail e)
  /-- It posts something, turns a failure of the post into one of its own, and checks the
  response. -/
  | posts (h : ¬ c.declines) {x : Action Response} (hx : c.posts x)
      {conclude : Response → Action Json} (hconclude : kind.Checks conclude) :
    Announces kind c ((x.handle fun e => .fail (kind.wrap e)) >>= conclude)
  /-- It first makes a message, which is the same in every run. -/
  | makes (h : ¬ c.declines) {render : Action Fields} {f : Fields → Action Json}
      {made : Except Failure Fields → Prop} (hrender : render.Makes made)
      (herror : ∀ e, made (.error e) → c.fails ∧ e.IsPlain)
      (hok : ∀ payload, made (.ok payload) → Announces kind c (f payload)) :
    Announces kind c (render >>= f)

/-- An action that answers that there was nothing to do, and only says so in the log. -/
def Action.Declines (x : Action Json) : Prop :=
  ∃ entry : Log.Entry, ∀ s w, x s w = (.ok declined, w.extend [.logged entry])

/-- What has nothing to send a notice with, and does not fail about it, declines it. -/
theorem ChannelKind.Announces.declined {kind : ChannelKind} {c : Course} {x : Action Json}
    (h : kind.Announces c x) (hdeclines : c.declines) (hfails : ¬ c.fails) : x.Declines := by
  cases h with
  | declines _ event fs => exact ⟨⟨.info, event, fs⟩, fun s w => bind_ok (info_apply event fs s w)⟩
  | fails h _ => exact absurd h hfails
  | posts h _ _ => exact absurd hdeclines h
  | makes h _ _ _ => exact absurd hdeclines h

/-! ### The chat channel -/

theorem Failure.IsUnwritable.isPlain {e : Failure} (h : e.IsUnwritable) : e.IsPlain := by
  rcases h with rfl | rfl <;> exact Failure.isPlain_of_ne_operation (by simp)

namespace Slack.Target

/-- The message about a notice, as it is made in some run. -/
def IsMessage (t : Target) (n : Notice) (payload : Fields) : Prop :=
  ∃ render, t.message? n = some render ∧ render.CanReturn payload

/-- The chat channel needs an address, which it looks for before it makes the message.  It fails
about what it does not declare, and with an address also about a job of which a time or a number
cannot be shown; else it posts the message. -/
def course (t : Target) (n : Notice) : Course where
  declines := t.url = ""
  fails := ¬ (declaration.supports n.capability = true ∧
    (t.url = "" ∨ ¬ n.MixesClocks ∧ n.IsCountable))
  posts x := ∃ payload, t.IsMessage n payload ∧ x = post t.url payload t.timeout

theorem announces_send (t : Target) {n : Notice} {render : Action Fields}
    (h : t.message? n = some render) :
    ChannelKind.slack.Announces (t.course n) (t.send render) := by
  rw [send]
  split
  · next hblank => exact .declines hblank _ _
  · next hblank =>
    -- neither check of the message turns it down, so that it is posted as it is made
    have hmakes := makes_message h
    rw [prepare_eq hmakes]
    refine .makes hblank hmakes.canReturn ?_ ?_
    · rintro e ⟨hmade, -⟩
      cases hmade with
      | unwritable hnot he => exact ⟨fun hall => hnot (hall.2.resolve_left hblank), he.isPlain⟩
    · rintro payload ⟨-, hreturned⟩
      have hposts : (t.course n).posts (post t.url payload t.timeout) :=
        ⟨payload, ⟨render, h, hreturned payload rfl⟩, rfl⟩
      exact .posts hblank hposts checks_conclude

/-- The chat channel announces in the way of all channels. -/
theorem announces_deliver (t : Target) (n : Notice) :
    ChannelKind.slack.Announces (t.course n) (t.deliver n) := by
  have hdeclared := t.isSome_message? n
  cases h : t.message? n with
  | some render =>
    rw [deliver_eq_send h]
    exact t.announces_send h
  | none =>
    rw [h] at hdeclared
    -- a kind without a message is not declared, and the course says that it fails
    have hfails : (t.course n).fails := fun hall => by
      rw [hall.1] at hdeclared
      cases hdeclared
    cases n with
    | breakingChangeWarning change => exact .fails hfails (Failure.isPlain_unsupported _ _)
    | breakingChangeSyncsDisabled change => exact .fails hfails (Failure.isPlain_unsupported _ _)
    | _ => cases h

end Slack.Target

/-! ### The webhook channel -/

namespace Endpoint.Target

/-- The webhook channel needs an address.  It fails about what it does not declare; else it posts
the text. -/
def course (t : Target) (n : Notice) : Course where
  declines := t.url = ""
  fails := ¬ declaration.supports n.capability = true
  posts x := ∃ text, text? n = some (.ok text) ∧
    x = post t.url (.obj [("text", .str text)]) t.timeout

theorem announces_send (t : Target) {n : Notice} {text : String} (h : text? n = some (.ok text)) :
    ChannelKind.webhook.Announces (t.course n) (t.send text) := by
  rw [send]
  split
  · next hblank => exact .declines hblank _ _
  · next hblank =>
    have hposts : (t.course n).posts (post t.url (.obj [("text", .str text)]) t.timeout) :=
      ⟨text, h, rfl⟩
    exact .posts hblank hposts checks_conclude

/-- The webhook channel announces in the way of all channels. -/
theorem announces_deliver (t : Target) (n : Notice) :
    ChannelKind.webhook.Announces (t.course n) (t.deliver n) := by
  by_cases hn : declaration.supports n.capability = true
  · obtain ⟨text, htext⟩ := exists_text hn
    rw [t.deliver_eq htext]
    exact t.announces_send htext
  · cases n with
    | breakingChangeWarning change => exact .fails hn (Failure.isPlain_unsupported _ _)
    | breakingChangeSyncsDisabled change => exact .fails hn (Failure.isPlain_unsupported _ _)
    | _ => exact absurd rfl hn

end Endpoint.Target

/-! ### The email channel -/

namespace Mail.Account

/-- Whether the email channel sends a notice: it has a service, a template and a receiver. -/
def sends (a : Account) (n : Notice) : Bool :=
  a.isConfigured (a.settings.templateFor n.capability) &&
    (n.isBulk || (a.receiverFor n.receiver?).isSome)

/-- What the email service may be asked for about a notice. -/
inductive Calls (a : Account) (n : Notice) : Action Response → Prop
  /-- One email, to the receiver and with the values of the notice. -/
  | email {receiver : String} {values : Fields}
      (hreceiver : a.receiverFor n.receiver? = some receiver)
      (hvalues : values? n = some (.ok values)) :
    Calls a n (sendEmail receiver (a.settings.templateFor n.capability) values)
  /-- A bulk job, with a row for each receiver of the change. -/
  | bulk {title : String} {change : BreakingChange} (h : bulk? n = some (title, change)) :
    Calls a n (sendBulk (title ++ ": " ++ change.connector) (a.settings.templateFor n.capability)
      (change.receivers.map (·.address)) (bulkValues change))

/-- The email channel needs a service, a template and a receiver.  It fails about what it does not
declare, and about a job of which the two times cannot be subtracted; else it asks the service. -/
def course (a : Account) (n : Notice) : Course where
  declines := a.sends n = false
  fails := ¬ (declaration.supports n.capability = true ∧ ¬ n.MixesClocks)
  posts := a.Calls n

theorem announces_send (a : Account) {n : Notice} {values : Fields}
    (h : values? n = some (.ok values)) :
    ChannelKind.email.Announces (a.course n)
      (a.send (a.settings.templateFor n.capability) n.receiver? values) := by
  have hsends : a.sends n = (a.isConfigured (a.settings.templateFor n.capability) &&
      (a.receiverFor n.receiver?).isSome) := by
    rw [sends, isBulk_of_values? h, Bool.false_or]
  rw [send]
  split
  -- the account is configured and there is a receiver: the email is posted
  · next receiver hreceiver hconfigured =>
    rw [hconfigured, hreceiver] at hsends
    have hposts : (a.course n).posts _ := Calls.email hreceiver h
    refine .posts (fun hdeclines => ?_) hposts (checks_conclude _)
    exact Bool.noConfusion (hsends.symm.trans hdeclines)
  -- one of the two is missing: the notice is declined
  · next hother =>
    refine .declines (eq_false_of_ne_true fun htrue => ?_) _ _
    rw [hsends, Bool.and_eq_true, Option.isSome_iff_exists] at htrue
    obtain ⟨hconfigured, receiver, hreceiver⟩ := htrue
    exact hother receiver hreceiver hconfigured

theorem announces_sendAll (a : Account) {n : Notice} {title : String} {change : BreakingChange}
    (h : bulk? n = some (title, change)) :
    ChannelKind.email.Announces (a.course n)
      (a.sendAll title (a.settings.templateFor n.capability) change) := by
  -- a bulk job has its receivers in the payload, so that the template alone decides
  have hsends : a.sends n = a.isConfigured (a.settings.templateFor n.capability) := by
    rw [sends, (isBulk_of_bulk? h).1, Bool.true_or, Bool.and_true]
  rw [sendAll]
  split
  · next hconfigured =>
    have hposts : (a.course n).posts _ := Calls.bulk h
    refine .posts (fun hdeclines => ?_) hposts (checks_conclude _)
    exact Bool.noConfusion ((hsends.trans hconfigured).symm.trans hdeclines)
  · next hconfigured =>
    exact .declines (hsends.trans (eq_false_of_ne_true hconfigured)) _ _

/-- The email channel announces in the way of all channels. -/
theorem announces_deliver (a : Account) (n : Notice) :
    ChannelKind.email.Announces (a.course n) (a.deliver n) := by
  by_cases hn : declaration.supports n.capability = true
  · by_cases hclocks : n.MixesClocks
    · rw [a.deliver_eq_mixed hclocks]
      exact .fails (fun hall => hall.2 hclocks) (Failure.isPlain_of_ne_operation (by simp))
    · rcases exists_values hn hclocks with ⟨values, hvalues⟩ | ⟨title, change, hbulk⟩
      · rw [a.deliver_eq_send hvalues]
        exact a.announces_send hvalues
      · rw [a.deliver_eq_sendAll hbulk]
        exact a.announces_sendAll hbulk
  · -- only a test is not declared, and there is no method for it
    cases n with
    | test message =>
      exact .fails (fun hall => hn hall.1) (Failure.isPlain_of_ne_operation (by simp))
    | _ => exact absurd rfl hn

end Mail.Account

end JobHerald
