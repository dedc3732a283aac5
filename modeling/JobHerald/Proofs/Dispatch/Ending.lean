import JobHerald.Dispatcher
import JobHerald.Proofs.Channel.Posting
import JobHerald.Proofs.Totality

/-!
# How a delivery ends

A delivery makes a channel from settings, which takes no request, and asks it once.  All that comes
before and after its announcement only writes log entries, so that the requests of a delivery are
those of the announcement.

## Main definitions

* `ChannelKind.declaration` — what the channels of a kind say about themselves.
* `Dispatch.standard` — dispatching through the channels of this library.

## Main results

* `Dispatch.ends_create`, `Dispatch.ends_made` — the channel that is made.
* `Dispatch.ends_attemptThrough` — the attempt through a channel.
* `Dispatch.ends_deliver` — **a delivery makes the requests of its announcement, and reports the
  result of it.**
-/

namespace JobHerald

open JobHerald.Action

/-! ### Channels of a kind -/

/-- What the channels of a kind say about themselves. -/
def ChannelKind.declaration : ChannelKind → Declaration
  | .slack => Slack.Target.declaration
  | .email => Mail.Account.declaration
  | .webhook => Endpoint.Target.declaration

theorem Channel.toDeclaration_ofSettings (settings : Settings) (kind : ChannelKind)
    (config : Option ChannelConfig) (receiver : Option String) :
    (ofSettings settings kind config receiver).toDeclaration = kind.declaration := by
  cases kind <;> rfl

/-- The channels of this library know what they are called. -/
theorem Channel.exists_label_ofSettings (known : Settings) (kind : ChannelKind)
    (config : Option ChannelConfig) (receiver : Option String) :
    ∃ v, (ofSettings known kind config receiver).label = pure v := by
  cases kind <;> exact ⟨_, rfl⟩

/-- Dispatching through the channels of this library. -/
def Dispatch.standard (settings : Option Settings) (metrics : Metrics) : Dispatch :=
  ⟨settings, metrics, Channel.create⟩

namespace Dispatch

variable {s : Surroundings} {w : World} {kind : ChannelKind} {n : Notice}

/-! ### The channel -/

section Making

variable (given : Option Settings) (kind : ChannelKind) (config : Option ChannelConfig)
  (receiver : Option String)

/-- Settings are had without a request, whether they are given or those of the process. -/
theorem ends_settingsOr : (settingsOr given).Ends s w (settingsOr given s w).1 [] := by
  cases given with
  | some known => exact ends_pure known
  | none => exact ends_settings

/-- Settings that are not to be had are missed for what the process lacks. -/
theorem isForeign_settingsOr {e : Failure} (h : (settingsOr given s w).1 = .error e) :
    e.IsForeign := by
  cases given with
  | some known => cases h
  | none => exact isForeign_settings h

/-- If given settings are those of the process, the settings of the process are used in any case. -/
theorem settingsOr_eq {had : Except Failure Settings}
    (hgiven : ∀ known, given = some known → had = .ok known)
    (hw : (Action.settings s w).1 = had) : (settingsOr given s w).1 = had := by
  cases given with
  | some known => exact (hgiven known rfl).symm
  | none => exact hw

/-- A channel is made as soon as there are settings. -/
theorem ends_create :
    (Channel.create kind config given receiver).Ends s w
      ((settingsOr given s w).1.map fun known => Channel.ofSettings known kind config receiver)
      [] := by
  have hused := ends_settingsOr (s := s) (w := w) given
  generalize (settingsOr given s w).1 = used at hused
  cases used with
  | error e => exact hused.bind_error
  | ok known => exact hused.bind_first fun _ _ => ends_pure _

theorem ends_made :
    (attempt (Channel.create kind config given receiver) "notification_channel_creation_failed"
      [("channel_kind", .str kind.word)]).Ends s w
        (.ok (Attempt.result (fun _ => false) ((settingsOr given s w).1.map fun known =>
          Channel.ofSettings known kind config receiver))) [] :=
  (ends_create given kind config receiver).attemptUnless (clean_kind kind)

end Making

/-! ### The announcement -/

theorem ends_labelOf {c : Channel} {v : Json} (hlabel : c.label = pure v) :
    (labelOf kind c).Ends s w (.ok (some v.plain)) [] := by
  have hplain : (do return (← c.label).plain : Action String).Ends s w (.ok v.plain) [] := by
    rw [hlabel]
    exact ends_pure v.plain
  exact (hplain.attemptUnless (clean_kind kind)).bind_first fun _ _ => ends_pure _

theorem ends_logDelivery (o : DeliveryOutcome) :
    (logDelivery kind n o).Ends s w (.ok ()) [] := by
  cases o with
  | delivered => exact ends_log _ _ _
  | skipped => exact ends_pure ()
  | failed => exact ends_pure ()

/-- The attempt with the result of an announcement. -/
def attemptOf (t : Option Trigger) (kind : ChannelKind) (v : Except Failure Json) (label : Json) :
    ChannelAttempt :=
  let r := Attempt.result Json.isDeclined v
  ⟨t, some kind, r.outcome, r.message, r.errorCode, some label.plain⟩

/-- An attempt makes the requests of its announcement, and reports the result of it. -/
theorem ends_attemptThrough {t : Option Trigger} {c : Channel} {v : Except Failure Json}
    {rqs : List Request} {label : Json} (hc : (c.invoke n).Ends s w v rqs)
    (hlabel : c.label = pure label) :
    (attemptThrough t kind c n).Ends s w (.ok (attemptOf t kind v label)) rqs :=
  (hc.attemptUnless (clean_kind_capability kind _)).bind_last fun _ =>
    (ends_logDelivery _).bind_first fun _ _ =>
      (ends_labelOf hlabel).bind_first fun _ _ => ends_pure _

/-- A delivery begins its announcement in a world that looks the same, makes the requests of it, and
reports the result of it. -/
theorem exists_ends_deliver {given : Option Settings} {known : Settings} (metrics : Metrics)
    (hused : (settingsOr given s w).1 = .ok known) (t : Option Trigger) (receiver : Option String)
    (config : Option ChannelConfig) :
    ∃ w', Later s w w' [] ∧ ∀ {v : Except Failure Json} {rqs : List Request},
      ((Channel.ofSettings known kind config receiver).invoke n).Ends s w' v rqs →
      ∃ label, ((standard given metrics).deliver t receiver kind config n).Ends s w
        (.ok (attemptOf t kind v label)) rqs := by
  obtain ⟨label, hlabel⟩ := Channel.exists_label_ofSettings known kind config receiver
  have hmade := ends_made (s := s) (w := w) given kind config receiver
  rw [hused] at hmade
  obtain ⟨w', hrun, hlater, hgo⟩ := hmade.after
  refine ⟨w', hlater, fun hinvoke => ⟨label, ?_⟩⟩
  exact hgo (ends_attemptThrough hinvoke hlabel) (bind_ok hrun)

/-- **A delivery makes the requests of its announcement**, which begins in a world that looks the
same, and reports the result of it. -/
theorem ends_deliver {given : Option Settings} {known : Settings} (metrics : Metrics)
    (hused : (settingsOr given s w).1 = .ok known) (t : Option Trigger) (receiver : Option String)
    (config : Option ChannelConfig) {v : Except Failure Json} {rqs : List Request}
    (h : ∀ w', Later s w w' [] →
      ((Channel.ofSettings known kind config receiver).invoke n).Ends s w' v rqs) :
    ∃ label, ((standard given metrics).deliver t receiver kind config n).Ends s w
      (.ok (attemptOf t kind v label)) rqs := by
  obtain ⟨w', hlater, hdeliver⟩ := exists_ends_deliver metrics hused t receiver config
  exact hdeliver (h w' hlater)

/-- Without settings, a delivery makes no request, and reports why there are none. -/
theorem ends_deliver_unsettled {given : Option Settings} {e : Failure} (metrics : Metrics)
    (hused : (settingsOr given s w).1 = .error e) (t : Option Trigger) (receiver : Option String)
    (config : Option ChannelConfig) :
    ((standard given metrics).deliver t receiver kind config n).Ends s w
      (.ok (notMade t kind (.ofFailure e))) [] := by
  have hmade := ends_made (s := s) (w := w) given kind config receiver
  rw [hused] at hmade
  refine hmade.bind_first fun w' _ => ?_
  simp only [Except.map, Attempt.result, OperationResult.value?_ofFailure]
  exact ends_pure _

end Dispatch

end JobHerald
