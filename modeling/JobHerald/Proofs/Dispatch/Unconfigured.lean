import JobHerald.Proofs.Channel.Announcing
import JobHerald.Proofs.Dispatch.Ending

/-!
# Channels without a configuration

A channel that has nothing to send a notice with declines it: it says so in the log, and does
nothing else.  A delivery through it is skipped, and does not fire.  The email channel makes the
values of a finished job before it looks for a template and a receiver; it fails if the two times of
the job cannot be subtracted, whether it is configured or not.

## Main definitions

* `Mail.Account.Lacks`, `Channel.Unconfigured` — channels that have nothing to send a notice with.
* `Channel.Silent` — a channel that does nothing but decline.

## Main results

* `Channel.Unconfigured.declines_invoke` — what the channels do without a configuration.
* `Channel.silent_iff` — **an unconfigured channel is silent, except the email channel about a job
  whose clocks are mixed.**
-/

namespace JobHerald

open JobHerald.Action

/-! ### The email channel -/

namespace Mail.Account

/-- An account that has no service, template or receiver for a notice. -/
inductive Lacks (a : Account) (n : Notice) : Prop
  /-- There is no service. -/
  | service (h : a.settings.apiUrl = "") : Lacks a n
  /-- The notice has no template. -/
  | template (h : a.settings.templateFor n.capability = "") : Lacks a n
  /-- Neither the notice nor the account names a receiver. -/
  | receiver (hbulk : n.isBulk = false) (h : a.receiverFor n.receiver? = none) : Lacks a n

/-- An account that lacks something for a notice does not send it. -/
theorem Lacks.sends_eq_false {a : Account} {n : Notice} (h : a.Lacks n) : a.sends n = false := by
  cases h with
  | service h => simp [sends, isConfigured, h]
  | template h => simp [sends, isConfigured, h]
  | receiver hbulk h => simp [sends, hbulk, h]

end Mail.Account

/-! ### Unconfigured channels -/

namespace Channel

/-- A channel of this library that has nothing to send a notice with: no address, or no service,
template or receiver. -/
inductive Unconfigured (n : Notice) : ChannelKind → Channel → Prop
  /-- A chat channel without an address. -/
  | slack (t : Slack.Target) (h : t.url = "") : Unconfigured n .slack t.channel
  /-- A webhook channel without an address. -/
  | webhook (t : Endpoint.Target) (h : t.url = "") : Unconfigured n .webhook t.channel
  /-- An email channel that lacks something. -/
  | email (a : Mail.Account) (h : a.Lacks n) : Unconfigured n .email a.channel

/-- A channel that does nothing about a notice but to say so in the log.  A delivery through it is
skipped without a request, and a report with this attempt has fired what it has fired without
it. -/
structure Silent (c : Channel) (kind : ChannelKind) (n : Notice) : Prop where
  /-- It is asked, and declines. -/
  invoke : (c.invoke n).Declines
  /-- A delivery through it is skipped. -/
  deliver : ∀ (d : Dispatch) t receiver config s w w',
    d.maker kind config d.settings receiver s w = (.ok c, w') →
      ∃ a entry, d.deliver t receiver kind config n s w = (.ok a, w'.extend [.logged entry]) ∧
        a.outcome = .skipped ∧
        ∀ trigger before after, (DispatchReport.mk trigger (before ++ a :: after)).fired =
          (DispatchReport.mk trigger (before ++ after)).fired

variable {c : Channel} {kind : ChannelKind} {n : Notice}

theorem Unconfigured.exists_label (h : c.Unconfigured n kind) : ∃ label, c.label = pure label := by
  cases h with
  | slack t _ => exact ⟨_, rfl⟩
  | webhook t _ => exact ⟨_, rfl⟩
  | email a _ => exact ⟨_, rfl⟩

/-- A channel of this library says what its kind says. -/
theorem Unconfigured.toDeclaration_eq (h : c.Unconfigured n kind) :
    c.toDeclaration = kind.declaration := by
  cases h <;> rfl

/-- An unconfigured channel declines what it declares, unless it fails about mixed clocks. -/
theorem Unconfigured.declines_invoke (h : c.Unconfigured n kind)
    (hn : kind.declaration.supports n.capability = true)
    (hclocks : ¬ (kind = .email ∧ n.MixesClocks)) : (c.invoke n).Declines := by
  rw [invoke, h.toDeclaration_eq, if_pos hn]
  cases h with
  | slack t h =>
    -- the chat channel looks for its address first, so that the notice does not matter
    exact (t.announces_deliver n).declined h (not_not_intro ⟨hn, .inl h⟩)
  | webhook t h => exact (t.announces_deliver n).declined h (not_not_intro hn)
  | email a h =>
    have hfails : ¬ (a.course n).fails :=
      not_not_intro ⟨hn, fun hmixed => hclocks ⟨rfl, hmixed⟩⟩
    exact (a.announces_deliver n).declined h.sends_eq_false hfails

theorem Unconfigured.invoke_mixed (h : c.Unconfigured n .email)
    (hn : ChannelKind.email.declaration.supports n.capability = true) (hmixed : n.MixesClocks)
    (s : Surroundings) (w : World) : c.invoke n s w = (.error (.calendar .mixedClocks), w) := by
  rw [invoke, h.toDeclaration_eq, if_pos hn]
  cases h with
  | email a h => exact congrFun (congrFun (a.deliver_eq_mixed hmixed) s) w

/-- The attempt through a channel that declined. -/
def skippedAttempt (t : Option Trigger) (kind : ChannelKind) (label : Json) : ChannelAttempt :=
  ⟨t, some kind, .skipped, "skipped", none, some label.plain⟩

/-- A delivery through a channel that declines is skipped. -/
theorem deliver_of_declines {d : Dispatch} {label : Json} {entry : Log.Entry}
    {config : Option ChannelConfig} {receiver : Option String} {s : Surroundings} {w w' : World}
    (hmade : d.maker kind config d.settings receiver s w = (.ok c, w'))
    (hinvoke : c.invoke n s w' = (.ok declined, w'.extend [.logged entry]))
    (hlabel : c.label = pure label) (t : Option Trigger) :
    d.deliver t receiver kind config n s w =
      (.ok (skippedAttempt t kind label), w'.extend [.logged entry]) := by
  -- what a channel declines counts as skipped
  have hannounce : Dispatch.announce kind c n s w'
      = (.ok .skipped, w'.extend [.logged entry]) :=
    attemptUnless_ok (Dispatch.clean_kind_capability kind _) hinvoke
  have hlabelOf : ∀ v : World, Dispatch.labelOf kind c s v = (.ok (some label.plain), v) := by
    intro v
    rw [Dispatch.labelOf, hlabel]
    exact bind_ok (attempt_ok (Dispatch.clean_kind kind) rfl)
  have hthrough : Dispatch.attemptThrough t kind c n s w'
      = (.ok (skippedAttempt t kind label), w'.extend [.logged entry]) := by
    -- there is no entry about a delivery that was skipped
    have hlog : Dispatch.logDelivery kind n (OperationResult.skipped : OperationResult Json).outcome
        s (w'.extend [.logged entry]) = (.ok (), w'.extend [.logged entry]) := rfl
    rw [Dispatch.attemptThrough, bind_ok hannounce, bind_ok hlog, bind_ok (hlabelOf _)]
    rfl
  rw [Dispatch.deliver, bind_ok (attempt_ok (Dispatch.clean_kind kind) hmade)]
  exact hthrough

/-- **An unconfigured channel is silent about what it declares**, except the email channel about a
job whose clocks are mixed. -/
theorem silent_iff (h : c.Unconfigured n kind)
    (hn : kind.declaration.supports n.capability = true) :
    c.Silent kind n ↔ ¬ (kind = .email ∧ n.MixesClocks) := by
  constructor
  · rintro hsilent ⟨rfl, hmixed⟩
    obtain ⟨entry, hdeclines⟩ := hsilent.invoke
    -- the values of the email are made before the account is looked at
    have hfails := h.invoke_mixed hn hmixed .busy .initial
    rw [hdeclines] at hfails
    cases hfails
  · intro hclocks
    have hinvoke := h.declines_invoke hn hclocks
    obtain ⟨label, hlabel⟩ := h.exists_label
    refine ⟨hinvoke, fun d t receiver config s w w' hmade => ?_⟩
    obtain ⟨entry, hdeclines⟩ := hinvoke
    refine ⟨_, entry, deliver_of_declines hmade (hdeclines s w') hlabel t, rfl, ?_⟩
    intro trigger before after
    -- a skipped attempt does not count as fired
    have hquiet : (skippedAttempt t kind label).isFired = false := rfl
    simp [DispatchReport.fired, hquiet]

end Channel

/-- The notice that a job failed after about three minutes.  The clock was at UTC when the job
ended; the clock that was read when it started is given. -/
def Notice.briefFailure (clock : Clock) : Notice :=
  jobFailure
    { workspace := ⟨"Main", default, ""⟩, connection := ⟨"C", default, ""⟩,
      source := ⟨"S", default, ""⟩, destination := ⟨"D", default, ""⟩,
      startedAt := some ⟨1704103200000000, clock⟩, finishedAt := some ⟨1704103385000000, .fixed 0⟩,
      isSuccess := false, jobId := .number 42, errorMessage := some "boom", recordsEmitted := 0,
      recordsCommitted := 0, bytesEmitted := 0, bytesCommitted := 0 } none

/-- An account without a service, templates or receiver. -/
def Mail.Account.blank : Mail.Account := ⟨⟨"", none, none, "", "", "", "", "", "", ""⟩, none⟩

namespace Channel

theorem unconfigured_blank (n : Notice) : Mail.Account.blank.channel.Unconfigured n .email :=
  .email .blank (.service rfl)

theorem silent_iff_blank :
    Mail.Account.blank.channel.Unconfigured (.briefFailure (.fixed 0)) .email ∧
      ChannelKind.email.declaration.supports (Notice.briefFailure (.fixed 0)).capability = true ∧
      Mail.Account.blank.channel.Silent .email (.briefFailure (.fixed 0)) := by
  have hsupports :
      ChannelKind.email.declaration.supports (Notice.briefFailure (.fixed 0)).capability = true :=
    rfl
  refine ⟨unconfigured_blank _, hsupports, (silent_iff (unconfigured_blank _) hsupports).mpr ?_⟩
  rintro ⟨-, start, stop, htimes, hoffsets⟩
  cases htimes
  exact hoffsets rfl

/-- Without a known offset at its start, the same job makes the same channel fail: it is not
silent, although it has nothing to send the notice with. -/
theorem blank_not_silent :
    Mail.Account.blank.channel.Unconfigured (.briefFailure .unknown) .email ∧
      (Mail.Account.blank.channel.invoke (.briefFailure .unknown) .busy .initial).1
        = .error (.calendar .mixedClocks) ∧
      ¬ Mail.Account.blank.channel.Silent .email (.briefFailure .unknown) := by
  have hmixed : (Notice.briefFailure .unknown).MixesClocks := ⟨_, _, rfl, by decide⟩
  have hfails :=
    (unconfigured_blank (.briefFailure .unknown)).invoke_mixed rfl hmixed .busy .initial
  refine ⟨unconfigured_blank _, by rw [hfails], fun hsilent => ?_⟩
  obtain ⟨entry, hdeclines⟩ := hsilent.invoke
  rw [hdeclines] at hfails
  cases hfails

end Channel

end JobHerald
