import JobHerald.Dispatcher
import JobHerald.Proofs.Channel.Announcing

/-!
# Channels and the transport

The channels of this library look at nothing but the settings and the requests so far, and
write nothing but requests and log entries.  Whatever else happens beside them, such as
reports to metrics, makes no difference to what they do.

## Main definitions

* `Channel.Tame`, `ChannelMaker.Tame` — channels that stay on the wire, and makers of such
  channels.

## Main results

* `ChannelKind.Announces.onWire` — an announcement stays on the wire if its posts do.
* `Channel.tame_ofSettings`, `Channel.tame_create` — **the channels of this library stay on the
  wire**, and so does their maker.
-/

namespace JobHerald

open JobHerald.Action

namespace Action

variable {α : Type}

/-! ### Steps on the wire -/

theorem wire_fail (e : Failure) : (fail e : Action α).StaysIn .wire := staysIn_fail trivial

theorem wire_ofExcept (r : Except Failure α) : (ofExcept r).StaysIn .wire :=
  staysIn_ofExcept fun _ _ => trivial

theorem wire_settings : settings.StaysIn .wire := staysIn_settings fun _ => trivial

theorem wire_log (l : Log.Level) (event : String) (fs : Fields) : (log l event fs).StaysIn .wire :=
  staysIn_log (fun _ h => Or.inl h) l event fs

theorem wire_send (r : Request) : (send r).StaysIn .wire :=
  staysIn_send (fun _ h => h) (Or.inr rfl) fun _ => trivial

theorem wire_handle {x : Action α} {f : Failure → Action α} (hx : x.StaysIn .wire)
    (hf : ∀ e, (f e).StaysIn .wire) : (x.handle f).StaysIn .wire :=
  staysIn_handle hx fun e _ => hf e

/-- A log entry, and then a value or a failure. -/
theorem wire_log_then (l : Log.Level) (event : String) (fs : Fields) {x : Action α}
    (hx : x.StaysIn .wire) : (log l event fs >>= fun _ => x).StaysIn .wire :=
  staysIn_bind (wire_log l event fs) fun _ => hx

/-- What is the same in every run is made of log entries. -/
theorem Makes.onWire {P : Except Failure α → Prop} {x : Action α} (hx : x.Makes P) :
    x.StaysIn .wire := by
  have hany : x.Makes fun r => ∀ f, r = .error f → Scope.wire.fails f :=
    hx.mono fun _ _ _ _ => trivial
  exact hany.staysIn fun _ he => Or.inl he

theorem wire_body (payload : Json) : (body payload).StaysIn .wire := by
  rw [body]
  split
  · exact staysIn_pure _
  · exact wire_fail _

end Action

/-! ### The clients -/

theorem Endpoint.wire_post (url : String) (payload : Json) (timeout : Option Int) :
    (Endpoint.post url payload timeout).StaysIn .wire := by
  refine staysIn_bind wire_settings fun settings => ?_
  refine staysIn_bind (wire_body payload) fun body => ?_
  exact staysIn_bind (wire_send _) fun r => wire_log_then _ _ _ (staysIn_pure r)

theorem Slack.wire_post (url : String) (payload : Fields) (timeout : Option Int) :
    (Slack.post url payload timeout).StaysIn .wire := by
  refine staysIn_bind wire_settings fun settings => ?_
  cases addressFault? url with
  | some e => exact wire_fail e
  | none =>
    refine staysIn_bind (wire_handle (wire_send _) fun e => ?_) fun r =>
      wire_log_then _ _ _ (staysIn_pure r)
    -- a response with a bad status is a response all the same
    rw [asResponse.eq_def]
    split
    · exact staysIn_pure _
    · exact wire_fail _

namespace Mail

theorem wire_refuse {β : Type} (event : String) (f : CredentialFault) :
    (Token.refuse event f : Action β).StaysIn .wire :=
  wire_log_then _ _ _ (wire_fail _)

theorem wire_issue (secret client : Json) : (Token.issue secret client).StaysIn .wire := by
  rw [Token.issue]
  split
  · exact wire_refuse _ _
  · split
    · exact wire_refuse _ _
    · exact staysIn_bind (staysIn_clock fun _ => trivial) fun time => wire_ofExcept _

theorem wire_authorization : authorization.StaysIn .wire := by
  refine staysIn_bind wire_settings fun settings => ?_
  dsimp only
  split
  · exact wire_refuse _ _
  · exact wire_refuse _ _
  · exact staysIn_bind (wire_issue _ _) fun _ => staysIn_pure _

theorem wire_post (url : String) (payload : Json) (timeout : Option Int) :
    (post url payload timeout).StaysIn .wire := by
  refine staysIn_bind wire_settings fun settings => ?_
  refine staysIn_bind wire_authorization fun header => ?_
  exact staysIn_bind (wire_body payload) fun body => wire_send _

theorem wire_sendEmail (receiver template : String) (values : Fields) :
    (sendEmail receiver template values).StaysIn .wire := by
  refine staysIn_bind wire_settings fun settings => ?_
  exact staysIn_bind (wire_post _ _ _) fun r => wire_log_then _ _ _ (staysIn_pure r)

theorem wire_sendBulk (name template : String) (addresses : List String) (values : Fields) :
    (sendBulk name template addresses values).StaysIn .wire := by
  refine staysIn_bind wire_settings fun settings => ?_
  exact staysIn_bind (wire_post _ _ _) fun r => wire_log_then _ _ _ (staysIn_pure r)

end Mail

/-! ### The channels -/

/-- **An announcement stays on the wire** if its posts do: all else is the making of a message, log
entries, and verdicts. -/
theorem ChannelKind.Announces.onWire {kind : ChannelKind} {c : Course} {x : Action Json}
    (h : kind.Announces c x) (hposts : ∀ y, c.posts y → y.StaysIn .wire) : x.StaysIn .wire := by
  induction h with
  | declines _ event fs => exact wire_log_then _ event fs (staysIn_pure _)
  | fails _ _ => exact wire_fail _
  | posts _ hx hconclude =>
    refine staysIn_bind (wire_handle (hposts _ hx) fun e => wire_fail _) fun r => ?_
    obtain ⟨l, event, fs, hcheck⟩ := hconclude r
    rw [hcheck]
    exact wire_log_then l event fs (wire_ofExcept _)
  -- the rest is only followed for a payload that the making can return
  | makes _ hrender _ _ ih =>
    refine staysIn_bind_of_canReturn hrender.onWire fun payload hpayload => ?_
    obtain ⟨s, w, w', hrun⟩ := hpayload
    exact ih payload (hrender.of_run hrun)

/-- A channel that stays on the wire. -/
structure Channel.Tame (c : Channel) : Prop where
  /-- Its announcements do. -/
  deliver : ∀ n, (c.deliver n).StaysIn .wire
  /-- Its label does. -/
  label : c.label.StaysIn .wire

/-- A maker of channels that stay on the wire, which stays there itself. -/
structure ChannelMaker.Tame (maker : ChannelMaker) : Prop where
  /-- The making does. -/
  making : ∀ kind config given receiver, (maker kind config given receiver).StaysIn .wire
  /-- What it makes does. -/
  made : ∀ kind config given receiver c,
    (maker kind config given receiver).CanReturn c → c.Tame

theorem Slack.Target.tame_channel (t : Target) : t.channel.Tame where
  label := staysIn_pure _
  deliver n := by
    refine (t.announces_deliver n).onWire ?_
    rintro _ ⟨payload, -, rfl⟩
    exact wire_post _ _ _

theorem Endpoint.Target.tame_channel (t : Target) : t.channel.Tame where
  label := staysIn_pure _
  deliver n := by
    refine (t.announces_deliver n).onWire ?_
    rintro _ ⟨text, -, rfl⟩
    exact wire_post _ _ _

theorem Mail.Account.tame_channel (a : Account) : a.channel.Tame where
  label := staysIn_pure _
  deliver n := by
    refine (a.announces_deliver n).onWire fun x hcalls => ?_
    cases (hcalls : a.Calls n x) with
    | email _ _ => exact wire_sendEmail _ _ _
    | bulk _ => exact wire_sendBulk _ _ _ _

namespace Channel

theorem tame_ofSettings (settings : Settings) (kind : ChannelKind) (config : Option ChannelConfig)
    (receiver : Option String) : (ofSettings settings kind config receiver).Tame := by
  cases kind with
  | slack => exact Slack.Target.tame_channel _
  | email => exact Mail.Account.tame_channel _
  | webhook => exact Endpoint.Target.tame_channel _

/-- **The channels of this library stay on the wire.** -/
theorem tame_create : ChannelMaker.Tame create where
  making kind config given receiver := by
    cases given with
    | some settings => exact staysIn_bind (staysIn_pure settings) fun _ => staysIn_pure _
    | none => exact staysIn_bind wire_settings fun _ => staysIn_pure _
  made kind config given receiver c h := by
    obtain ⟨settings, -, hc⟩ := canReturn_bind h
    rw [← canReturn_pure hc]
    exact tame_ofSettings settings kind config receiver

end Channel

end JobHerald
