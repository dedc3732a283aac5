import JobHerald.Log.Processor
import JobHerald.Proofs.Dispatch.Pairing

/-!
# Addresses that are not told

The address of a webhook is a credential.  Of two dispatches that differ in nothing but such
addresses, the log cannot tell one from the other, as long as the chat client finds no fault with
them.  An address that it refuses is another matter: the refusal quotes it, and is logged under a
name that no processor of log entries takes for a sensitive one.

## Main definitions

* `ChannelBinding.Readdresses` — two bindings that differ only in the addresses of webhooks.
* `Pairing.ofAddresses` — two runs in one process, with requests to different addresses.
* `Action.Indistinct` — two actions that return the same and log the same, and whose requests only
  differ in their addresses.

## Main results

* `Dispatch.untold_addresses` — **dispatches through such bindings return the same and log the same,
  unless the addresses are refused for different reasons.**
-/

namespace JobHerald

open JobHerald.Action

/-! ### Bindings -/

namespace ChannelBinding

/-- The address that chat messages go to. -/
def chatUrl (b : ChannelBinding) : String := ChannelConfig.slackWebhook (b.configFor .slack)

/-- The address that texts go to. -/
def textUrl (b : ChannelBinding) : String := ChannelConfig.webhookUrl (b.configFor .webhook)

/-- The label of the chat channel of a binding. -/
def chatLabel (known : Settings) (b : ChannelBinding) : String :=
  (Slack.Target.ofSettings known (b.configFor .slack)).label

/-- Two bindings that differ only in the addresses of their webhooks; they have the same of them. -/
structure Readdresses (b b' : ChannelBinding) : Prop where
  /-- The kinds are the same. -/
  kinds : b'.kinds = b.kinds
  /-- Both have an address for chat messages, or neither. -/
  chat : b'.chatUrl = "" ↔ b.chatUrl = ""
  /-- Both have an address for texts, or neither. -/
  text : b'.textUrl = "" ↔ b.textUrl = ""

end ChannelBinding

/-! ### Runs that differ in addresses -/

/-- Two runs in one process, from worlds with the same settings, whose requests may go to different
addresses. -/
def Pairing.ofAddresses (s : Surroundings) (w : World) : Pairing where
  left := s
  right := s
  known known known' := known' = known ∧ (settings s w).1 = .ok known
  sends rq rq' := rq' = { rq with url := rq'.url }
  same _ := rfl
  clock := rfl
  replies := rfl

namespace Pairing

variable {s : Surroundings} {w : World}

/-- There is one process, from which the clients read the same. -/
theorem serves_ofAddresses : (ofAddresses s w).Serves := by
  refine serves_of_sameService ?_
  rintro known _ ⟨rfl, -⟩
  exact ⟨rfl, rfl, rfl, rfl, rfl⟩

/-- A world is like itself: the settings are the same, and so is the journal. -/
theorem alike_ofAddresses : (ofAddresses s w).Alike w w where
  settings := by
    show Same _ (settings s w).1 (settings s w).1
    cases hsettings : (settings s w).1 with
    | ok known => exact .ok ⟨rfl, hsettings⟩
    | error e => exact .error e
  journal := List.forall₂_same.mpr fun e _ => effects_refl e

/-- The addresses of two such bindings can be exchanged for each of the kinds. -/
theorem exchanges_configFor {b b' : ChannelBinding} (hb : b.Readdresses b')
    (hfault : Slack.addressFault? b'.chatUrl = Slack.addressFault? b.chatUrl) {known : Settings}
    (hlabel : b'.chatLabel known = b.chatLabel known) (kind : ChannelKind) :
    (ofAddresses s w).Exchanges known (b.configFor kind) (b'.configFor kind) := by
  have hreaddress : ∀ url url', (ofAddresses s w).Readdresses url url' := fun _ _ _ _ _ _ => rfl
  -- the address for texts does not matter to the chat channel, and the other way round
  cases kind with
  | slack =>
    exact ⟨⟨hb.chat, hfault, hreaddress _ _, ⟨_, rfl, rfl⟩, rfl⟩, hlabel, .rfl, hreaddress _ _⟩
  | email => exact .refl known none
  | webhook =>
    exact ⟨⟨.rfl, rfl, hreaddress _ _, ⟨_, rfl, rfl⟩, rfl⟩, rfl, hb.text, hreaddress _ _⟩

end Pairing

/-- Two actions that return the same and write the same log entries; only the addresses of their
requests may differ. -/
structure Action.Indistinct {α : Type} (s : Surroundings) (w : World) (x y : Action α) : Prop where
  /-- They come to the same result. -/
  result : (y s w).1 = (x s w).1
  /-- They write the same entries. -/
  entries : (y s w).2.journal.filterMap Effect.entry? = (x s w).2.journal.filterMap Effect.entry?
  /-- They make the same requests, but for the addresses. -/
  requests : List.Forall₂ (fun rq rq' : Request => rq' = { rq with url := rq'.url })
    ((x s w).2.journal.filterMap Effect.request?) ((y s w).2.journal.filterMap Effect.request?)

/-- Actions that are paired return the same and log the same. -/
theorem Pairing.Pairs.indistinct {α : Type} {s : Surroundings} {w : World} {x y : Action α}
    (h : (ofAddresses s w).Pairs (· = ·) x y) : Indistinct s w x y := by
  obtain ⟨hsame, halike⟩ := h w w alike_ofAddresses
  exact ⟨hsame.eq.symm, filterMap_eq (fun _ => rfl) halike.journal,
    forall₂_requests halike.journal⟩

namespace Dispatch

variable {given : Option Settings} {metrics : Metrics} {s : Surroundings} {w : World}
  {b b' : ChannelBinding}

/-- **Dispatches through bindings that differ only in the addresses of webhooks return the same and
log the same, unless the addresses are refused for different reasons.**  The rest of their requests
is the same, too. -/
theorem untold_addresses (hb : b.Readdresses b')
    (hfault : Slack.addressFault? b'.chatUrl = Slack.addressFault? b.chatUrl)
    (hlabel : ∀ known, (settingsOr given s w).1 = .ok known →
      b'.chatLabel known = b.chatLabel known)
    (hmetrics : ∀ t k o, (Pairing.ofAddresses s w).Steady (metrics t k o)) :
    let d := standard given metrics
    (∀ t n receiver, Indistinct s w (d.dispatch t (some b) n receiver)
        (d.dispatch t (some b') n receiver)) ∧
      ∀ message, Indistinct s w (d.sendTest b message) (d.sendTest b' message) := by
  intro d
  have hbindings : ∀ receiver n, (Pairing.ofAddresses s w).Bindings d receiver n b b' := by
    refine fun receiver n => ⟨hb.kinds, fun kind => ?_⟩
    refine Pairing.pairs_create Pairing.serves_ofAddresses (fun known known' hknown => ?_) kind
      receiver n
    -- the settings in use are the given ones, or else those of the process
    have huse : known' = known ∧ (settingsOr given s w).1 = .ok known := by
      cases given with
      | some _ =>
        obtain ⟨rfl, rfl⟩ := hknown
        exact ⟨rfl, rfl⟩
      | none => exact hknown
    refine ⟨?_, Pairing.exchanges_configFor hb hfault (hlabel known huse.2) kind⟩
    rw [huse.1]
    exact .refl known
  refine ⟨fun t n receiver => ?_, fun message => ?_⟩
  · exact (Pairing.pairs_dispatch hmetrics (hbindings receiver n) t).indistinct
  · exact (Pairing.pairs_sendTest (hbindings none (.test message))).indistinct

/-- Two workspaces whose chat webhooks are in order cannot be told apart. -/
theorem untold_addresses_chat :
    let b : ChannelBinding := ⟨[.slack], some ⟨"https://hooks.slack.com/A"⟩, none⟩
    let b' : ChannelBinding := ⟨[.slack], some ⟨"https://hooks.slack.com/B"⟩, none⟩
    let s := Surroundings.busy
    let w := World.settled .bare
    b.Readdresses b' ∧ Slack.addressFault? b'.chatUrl = Slack.addressFault? b.chatUrl ∧
      (∀ known, (settingsOr (some .bare) s w).1 = .ok known →
        b'.chatLabel known = b.chatLabel known) ∧
      (∀ t k o, (Pairing.ofAddresses s w).Steady (Metrics.logging t k o)) ∧
      let d := standard (some .bare) .logging
      Indistinct s w (d.dispatch .failure (some b) (.test "ping") none)
        (d.dispatch .failure (some b') (.test "ping") none) := by
  intro b b' s w
  have hb : b.Readdresses b' := ⟨rfl, by decide, by decide⟩
  -- neither address is refused
  have hfault : Slack.addressFault? b'.chatUrl = Slack.addressFault? b.chatUrl := by
    have hnone : Slack.addressFault? b.chatUrl = none := Option.isNone_iff_eq_none.mp (by decide)
    rw [hnone]
    exact Option.isNone_iff_eq_none.mp (by decide)
  -- both are genuine webhooks
  have hlabel : ∀ known, (settingsOr (some .bare) s w).1 = .ok known →
      b'.chatLabel known = b.chatLabel known := by
    intro known hknown
    cases hknown
    decide
  have hmetrics : ∀ t k o, (Pairing.ofAddresses s w).Steady (Metrics.logging t k o) :=
    Pairing.steady_logging
  exact ⟨hb, hfault, hlabel, hmetrics, (untold_addresses hb hfault hlabel hmetrics).1 _ _ _⟩

/-- What the log says about an error, after sensitive fields have been hidden. -/
def shownErrors (w : World) : List (Option String) :=
  (w.journal.filterMap Effect.entry?).map fun e =>
    (Fields.get? "error" ((Log.Processor.mask (.str Log.hiddenText) []).apply e.fields)).bind
      Json.str?

/-- Two addresses without a scheme are refused by the same kind of failure, and the log tells which
is which: the refusal quotes the address, and nothing hides it. -/
theorem refused_address_told :
    let b : ChannelBinding := ⟨[.slack], some ⟨"hooks.slack.com/A"⟩, none⟩
    let b' : ChannelBinding := ⟨[.slack], some ⟨"hooks.slack.com/B"⟩, none⟩
    let run (b : ChannelBinding) := (standard (some .bare) .logging).dispatch .failure (some b)
      (.test "ping") none .busy (.settled .bare)
    b.Readdresses b' ∧ b'.chatLabel .bare = b.chatLabel .bare ∧
      (Slack.addressFault? b.chatUrl).map Failure.name = some "ValueError" ∧
      (Slack.addressFault? b'.chatUrl).map Failure.name = some "ValueError" ∧
      shownErrors (run b).2 = [some ("Unexpected error: ValueError: unknown url type: "
        ++ "'hooks.slack.com/A'"), none, none] ∧
      (run b').2.journal.filterMap Effect.entry? ≠ (run b).2.journal.filterMap Effect.entry? := by
  intro b b' run
  have hshown : shownErrors (run b).2 = [some ("Unexpected error: ValueError: unknown url type: "
      ++ "'hooks.slack.com/A'"), none, none] := by decide +kernel
  have hshown' : shownErrors (run b').2 = [some ("Unexpected error: ValueError: unknown url type: "
      ++ "'hooks.slack.com/B'"), none, none] := by decide +kernel
  refine ⟨⟨rfl, by decide, by decide⟩, by decide, by decide, by decide, hshown, fun hentries => ?_⟩
  -- with the same entries the two logs would show the same errors
  rw [shownErrors, hentries, ← shownErrors, hshown] at hshown'
  exact absurd hshown' (by decide)

end Dispatch

end JobHerald
