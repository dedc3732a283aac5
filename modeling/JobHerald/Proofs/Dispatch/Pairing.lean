import JobHerald.Proofs.Channel.Pairing
import JobHerald.Proofs.Dispatch.Ending

/-!
# Two dispatches at once

A dispatch adds nothing of its own to what may differ in two runs: if the channels of the two
bindings announce alike, the dispatches report alike, and log alike.

## Main definitions

* `Pairing.Bindings` — two bindings whose channels announce alike.

## Main results

* `Pairing.pairs_deliver`, `Pairing.pairs_dispatch`, `Pairing.pairs_sendTest` — **dispatches
  through such bindings come to the same reports.**
* `Pairing.steady_logging`, `Pairing.steady_collector` — reports to the sinks for attempts.
-/

namespace JobHerald

open JobHerald.Action

namespace Pairing

variable {P : Pairing} {n : Notice} {c c' : Channel} {trigger : Option Trigger}
  {kind : ChannelKind} {receiver : Option String} {d : Dispatch}

/-! ### One channel -/

theorem pairs_invoke (h : P.Channels n c c') : P.Pairs (· = ·) (c.invoke n) (c'.invoke n) := by
  rw [Channel.invoke, Channel.invoke, h.declaration]
  split
  · exact h.deliver
  · exact pairs_fail _

theorem pairs_labelOf (h : P.Channels n c c') :
    P.Pairs (· = ·) (Dispatch.labelOf kind c) (Dispatch.labelOf kind c') := by
  have hplain : P.Pairs (· = ·) (do return (← c.label).plain) (do return (← c'.label).plain) :=
    pairs_bind_eq h.label fun _ => pairs_pure rfl
  exact pairs_bind_eq (pairs_attempt_eq (Dispatch.clean_kind kind) hplain) fun _ => pairs_pure rfl

theorem pairs_attemptThrough (h : P.Channels n c c') :
    P.Pairs (· = ·) (Dispatch.attemptThrough trigger kind c n)
      (Dispatch.attemptThrough trigger kind c' n) := by
  have hannounce : P.Pairs (· = ·) (Dispatch.announce kind c n) (Dispatch.announce kind c' n) :=
    pairs_attemptUnless_eq (Dispatch.clean_kind_capability kind _) (pairs_invoke h)
  refine pairs_bind_eq hannounce fun r => ?_
  -- the outcome is the same on both sides, and so is the entry
  have hlog : P.Steady (Dispatch.logDelivery kind n r.outcome) := by
    cases r.outcome with
    | delivered => exact steady_log _ _ _
    | _ => exact pairs_pure rfl
  refine pairs_bind_eq hlog fun _ => ?_
  exact pairs_bind_eq (pairs_labelOf h) fun label => pairs_pure rfl

/-- A notice through two channels, if they can be made. -/
theorem pairs_deliver {config config' : Option ChannelConfig}
    (hmade : P.Pairs (P.Channels n) (d.maker kind config d.settings receiver)
      (d.maker kind config' d.settings receiver)) :
    P.Pairs (· = ·) (d.deliver trigger receiver kind config n)
      (d.deliver trigger receiver kind config' n) := by
  refine pairs_attempt_bind (Dispatch.clean_kind kind) hmade (fun c c' h => ?_) fun e => ?_
  · rw [OperationResult.value?_success, OperationResult.value?_success]
    exact pairs_attemptThrough h
  · rw [OperationResult.value?_ofFailure]
    exact pairs_pure rfl

/-! ### Bindings -/

/-- Two bindings with the same kinds, whose channels announce alike. -/
structure Bindings (P : Pairing) (d : Dispatch) (receiver : Option String) (n : Notice)
    (b b' : ChannelBinding) : Prop where
  /-- The kinds are the same. -/
  kinds : b'.kinds = b.kinds
  /-- The channels of each kind announce alike. -/
  makers : ∀ kind, P.Pairs (P.Channels n) (d.maker kind (b.configFor kind) d.settings receiver)
    (d.maker kind (b'.configFor kind) d.settings receiver)

/-- A loop over the entries of two bindings. -/
theorem Bindings.pairs_forEach {b b' : ChannelBinding} (h : P.Bindings d receiver n b b')
    {f : ChannelKind × Option ChannelConfig → Action ChannelAttempt}
    (hf : ∀ kind, P.Pairs (· = ·) (f (kind, b.configFor kind)) (f (kind, b'.configFor kind))) :
    P.Pairs (· = ·) (forEach f b.entries) (forEach f b'.entries) := by
  have hentries : List.Forall₂ (fun e e' => P.Pairs (· = ·) (f e) (f e')) b.entries b'.entries := by
    rw [ChannelBinding.entries, ChannelBinding.entries, h.kinds, List.forall₂_map_left_iff,
      List.forall₂_map_right_iff, List.forall₂_same]
    exact fun kind _ => hf kind
  exact (Pairing.pairs_forEach (fun _ _ he => he) hentries).mono fun as as' has =>
    List.forall₂_eq_eq_eq ▸ has

theorem pairs_sendTest {b b' : ChannelBinding} {message : String}
    (h : P.Bindings d none (.test message) b b') :
    P.Pairs (· = ·) (d.sendTest b message) (d.sendTest b' message) :=
  h.pairs_forEach fun kind => pairs_deliver (h.makers kind)

section Reports

variable (hmetrics : ∀ t k o, P.Steady (d.metrics t k o))

include hmetrics

theorem steady_report (a : ChannelAttempt) : P.Steady (d.report a) :=
  pairs_bind_eq (pairs_attempt_eq Attempt.clean_nil (hmetrics _ _ _)) fun _ => pairs_pure rfl

theorem steady_skip (t : Trigger) : P.Steady (d.skip t) :=
  pairs_log_bind (pairs_bind_eq (steady_report hmetrics _) fun _ => pairs_pure rfl)

theorem pairs_dispatch {b b' : ChannelBinding} (h : P.Bindings d receiver n b b') (t : Trigger) :
    P.Pairs (· = ·) (d.dispatch t (some b) n receiver) (d.dispatch t (some b') n receiver) := by
  rw [Dispatch.dispatch, Dispatch.dispatch, h.kinds]
  split
  · exact steady_skip hmetrics t
  · have hentry : ∀ kind, P.Pairs (· = ·) (d.deliverEntry t receiver n (kind, b.configFor kind))
        (d.deliverEntry t receiver n (kind, b'.configFor kind)) := fun kind =>
      pairs_bind_eq (pairs_deliver (h.makers kind)) fun a =>
        pairs_bind_eq (steady_report hmetrics a) fun _ => pairs_pure rfl
    exact pairs_bind_eq (h.pairs_forEach hentry) fun attempts => pairs_log_bind (pairs_pure rfl)

end Reports

/-! ### The sinks for attempts -/

/-- Reports into the log. -/
theorem steady_logging (t : Option Trigger) (k : Option ChannelKind) (o : DeliveryOutcome) :
    P.Steady (Metrics.logging t k o) :=
  steady_log _ _ _

/-- Reports to a collector, which counts the reports before. -/
theorem steady_collector (fault : Nat → Option Failure) (t : Option Trigger)
    (k : Option ChannelKind) (o : DeliveryOutcome) :
    P.Steady (Metrics.collector fault t k o) :=
  steady_kept (Metrics.collector_apply fault t k o) (fun _ => rfl) rfl

/-! ### Channels of this library -/

/-- The settings that channels are made from in the two runs. -/
def Supplies (P : Pairing) : Option Settings → Settings → Settings → Prop
  | some s => fun known known' => known = s ∧ known' = s
  | none => P.known

theorem pairs_settingsOr (given : Option Settings) :
    P.Pairs (P.Supplies given) (settingsOr given) (settingsOr given) := by
  cases given with
  | some s => exact pairs_pure ⟨rfl, rfl⟩
  | none => exact pairs_settings

/-- Channels are made from settings that differ in the account alone, for addresses that can be
exchanged. -/
theorem pairs_create (hserves : P.Serves) {given : Option Settings}
    {config config' : Option ChannelConfig}
    (h : ∀ known known', P.Supplies given known known' →
      known.SameButAccount known' ∧ P.Exchanges known config config')
    (kind : ChannelKind) (receiver : Option String) (n : Notice) :
    P.Pairs (P.Channels n) (Channel.create kind config given receiver)
      (Channel.create kind config' given receiver) := by
  refine pairs_bind (pairs_settingsOr given) fun known known' hknown => ?_
  obtain ⟨hsame, hexchange⟩ := h known known' hknown
  rw [hsame.ofSettings_eq]
  exact pairs_pure (channels_ofSettings hserves hexchange kind receiver n)

end Pairing

end JobHerald
