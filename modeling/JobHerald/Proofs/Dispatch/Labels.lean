import JobHerald.Proofs.Dispatch.Backing
import JobHerald.Proofs.Dispatch.Reports

/-!
# Labels of chat webhooks

Analytics are told what the channels are called that did something, and a chat channel goes by its
own name if its webhook is a genuine one.  It is not the host of the address that decides about
that: the host of genuine webhooks has to occur in the text of the address, at any place, and in the
same letter case.

## Main definitions

* `Address.host?`, `Address.PointsAt` — the host of an address, and what it means to point at one.
* `SlackSettings.Marks` — the host of genuine webhooks occurs in an address.
* `Channel.nameOf` — what a channel is called.

## Main results

* `Address.host_isInfix` — the host of an address occurs in it.
* `Dispatch.deliver_label` — a delivery has the label of the channel that is made, if there is one.
* `Dispatch.slack_label_iff_marked` — **a chat webhook is called genuine if the host of genuine
  webhooks occurs in its address**, and so are those that analytics are told of.
* `Dispatch.genuine_not_told_apart` — which is not the same as pointing at that host.
-/

namespace JobHerald

open JobHerald.Action

/-! ### Hosts -/

namespace Address

/-- What follows the first two slashes. -/
def afterSlashes : List Char → Option (List Char)
  | '/' :: '/' :: rest => some rest
  | _ :: rest => afterSlashes rest
  | [] => none

/-- What stands before the next slash, question mark or hash. -/
def authority (cs : List Char) : List Char :=
  cs.takeWhile fun c => c != '/' && c != '?' && c != '#'

/-- An authority without user information, which ends in an at sign. -/
def withoutUser (cs : List Char) : List Char := (cs.reverse.takeWhile (· != '@')).reverse

/-- An authority without a port, which is a colon and digits. -/
def withoutPort (cs : List Char) : List Char :=
  match cs.reverse.dropWhile Char.isDigit with
  | ':' :: host => host.reverse
  | _ => cs

/-- The host of an address, as it is written there. -/
def host? (url : String) : Option String :=
  (afterSlashes url.toList).map fun rest =>
    String.ofList (withoutPort (withoutUser (authority rest)))

/-- An address points at a host, whatever the letter case. -/
def PointsAt (url host : String) : Prop := (host? url).map Text.lower = some (Text.lower host)

instance (url host : String) : Decidable (PointsAt url host) := inferInstanceAs (Decidable (_ = _))

theorem afterSlashes_isSuffix {cs rest : List Char} (h : afterSlashes cs = some rest) :
    rest <:+ cs := by
  fun_induction afterSlashes cs with
  | case1 rest' =>
    cases h
    exact (List.suffix_cons _ _).trans (List.suffix_cons _ _)
  | case2 c cs hne ih => exact (ih h).trans (List.suffix_cons _ _)
  | case3 => cases h

theorem withoutUser_isSuffix (cs : List Char) : withoutUser cs <:+ cs := by
  have h : cs.reverse.takeWhile (· != '@') <+: cs.reverse := List.takeWhile_prefix _
  rw [← List.reverse_suffix, List.reverse_reverse] at h
  exact h

theorem withoutPort_isPrefix (cs : List Char) : withoutPort cs <+: cs := by
  rw [withoutPort]
  split
  · next host heq =>
    have h : ':' :: host <:+ cs.reverse := heq ▸ List.dropWhile_suffix _
    have hhost : host <:+ cs.reverse := (List.suffix_cons _ _).trans h
    rw [← List.reverse_prefix, List.reverse_reverse] at hhost
    exact hhost
  · exact List.prefix_rfl

/-- The host of an address occurs in it. -/
theorem host_isInfix {url host : String} (h : host? url = some host) :
    host.toList <:+: url.toList := by
  obtain ⟨rest, hrest, rfl⟩ := Option.map_eq_some_iff.mp h
  rw [String.toList_ofList]
  have hauthority : authority rest <+: rest := List.takeWhile_prefix _
  exact (withoutPort_isPrefix _).isInfix.trans <| (withoutUser_isSuffix _).isInfix.trans <|
    hauthority.isInfix.trans (afterSlashes_isSuffix hrest).isInfix

end Address

/-! ### What is looked at -/

/-- The host of genuine webhooks occurs in an address. -/
def SlackSettings.Marks (s : SlackSettings) (url : String) : Prop :=
  s.host ≠ "" ∧ s.host.toList <:+: url.toList

theorem Slack.Target.label_eq (t : Target) :
    t.label = if t.host ≠ "" ∧ t.host.toList <:+: t.url.toList then "slack" else "N/A" := by
  rw [label, Text.contains]
  simp only [Text.occurs_iff]

namespace Channel

/-- What a channel is called. -/
def nameOf (known : Settings) (kind : ChannelKind) (config : Option ChannelConfig) : String :=
  match kind with
  | .slack => (Slack.Target.ofSettings known config).label
  | .email => "email"
  | .webhook => "N/A"

theorem label_ofSettings (known : Settings) (kind : ChannelKind) (config : Option ChannelConfig)
    (receiver : Option String) :
    (ofSettings known kind config receiver).label = pure (.str (nameOf known kind config)) := by
  cases kind <;> rfl

/-- Only a chat channel goes by the name of chat channels, and only if the host of genuine webhooks
occurs in its address. -/
theorem nameOf_eq_slack_iff {known : Settings} {kind : ChannelKind}
    {config : Option ChannelConfig} :
    nameOf known kind config = "slack" ↔
      kind = .slack ∧ known.slack.Marks (ChannelConfig.slackWebhook config) := by
  cases kind with
  | slack =>
    rw [nameOf, Slack.Target.label_eq]
    split
    · next h => exact ⟨fun _ => ⟨rfl, h⟩, fun _ => rfl⟩
    · next h => exact ⟨fun hname => absurd hname (by decide), fun hmarks => absurd hmarks.2 h⟩
  | email => simp [nameOf]
  | webhook => simp [nameOf]

theorem nameOf_slack_eq_or (known : Settings) (config : Option ChannelConfig) :
    nameOf known .slack config = "slack" ∨ nameOf known .slack config = "N/A" := by
  rw [nameOf, Slack.Target.label]
  exact ite_eq_or_eq _ _ _

end Channel

/-! ### Deliveries -/

namespace Dispatch

variable {given : Option Settings} {metrics : Metrics} {t : Option Trigger}
  {receiver : Option String} {kind : ChannelKind} {config : Option ChannelConfig} {n : Notice}
  {s : Surroundings} {w w' : World}

/-- An attempt through a channel has its label, whatever comes of the announcement. -/
theorem attemptThrough_label {c : Channel} {label : String} (hc : c.label = pure (.str label))
    (t : Option Trigger) (kind : ChannelKind) (n : Notice) (s : Surroundings) (w : World) :
    ∃ a w', attemptThrough t kind c n s w = (.ok a, w') ∧ a.label = some label := by
  have hnever : (announce kind c n).NeverFails :=
    neverFails_attemptUnless (clean_kind_capability kind n.capability)
  obtain ⟨r, w₁, hannounce⟩ := hnever s w
  obtain ⟨u, w₂, hlog⟩ := neverFails_logDelivery kind n r.outcome s w₁
  -- the label of a channel is a text, and is taken as it is
  have hplain : (do return (← c.label).plain : Action String) s w₂ = (.ok label, w₂) := by
    rw [hc]
    rfl
  have hlabel : labelOf kind c s w₂ = (.ok (some label), w₂) :=
    bind_ok (attempt_ok (clean_kind kind) hplain)
  refine ⟨⟨t, some kind, r.outcome, r.message, r.errorCode, some label⟩, w₂, ?_, rfl⟩
  rw [attemptThrough, bind_ok hannounce, bind_ok hlog, bind_ok hlabel]
  rfl

/-- A delivery has the label of the channel that is made, if one can be made. -/
theorem deliver_label (given : Option Settings) (metrics : Metrics) (t : Option Trigger)
    (receiver : Option String) (kind : ChannelKind) (config : Option ChannelConfig) (n : Notice)
    (s : Surroundings) (w : World) :
    ∃ a w', (standard given metrics).deliver t receiver kind config n s w = (.ok a, w') ∧
      a.label = (settingsOr given s w).1.toOption.map fun known =>
        Channel.nameOf known kind config := by
  cases hused : settingsOr given s w with
  | mk r w₁ =>
    cases r with
    | error e =>
      -- without settings there is no channel, and no label
      have hcreate : Channel.create kind config given receiver s w = (.error e, w₁) :=
        Action.bind_error hused
      obtain ⟨w₂, hmade⟩ : ∃ w₂, attempt ((standard given metrics).maker kind config
          (standard given metrics).settings receiver) "notification_channel_creation_failed"
          [("channel_kind", .str kind.word)] s w = (.ok (.ofFailure e), w₂) :=
        ⟨_, attempt_error (clean_kind kind) hcreate⟩
      refine ⟨notMade t kind (.ofFailure e), w₂, ?_, rfl⟩
      rw [deliver, bind_ok hmade]
      simp only [OperationResult.value?_ofFailure]
      rfl
    | ok known =>
      -- the channel that is made has the name of its kind and address
      have hcreate : Channel.create kind config given receiver s w =
          (.ok (Channel.ofSettings known kind config receiver), w₁) := bind_ok hused
      obtain ⟨a, w', hattempt, hlabel⟩ := attemptThrough_label
        (Channel.label_ofSettings known kind config receiver) t kind n s w₁
      exact ⟨a, w', (bind_ok (attempt_ok (clean_kind kind) hcreate)).trans hattempt, hlabel⟩

/-- What is called genuine in a report is a chat channel that did something, and in whose address
the host of genuine webhooks occurs. -/
theorem exists_marked_of_labels {t : Trigger} {b : Option ChannelBinding} {r : DispatchReport}
    (h : ((standard given metrics).dispatch t b n receiver).ReturnsIn s r)
    (hlabel : "slack" ∈ r.labels) :
    ∃ binding config a, b = some binding ∧ (.slack, config) ∈ binding.entries ∧
      a ∈ r.attempts ∧ a.kind = some .slack ∧ a.outcome ≠ .skipped ∧
      ∃ known, (settingsOr given).ReturnsIn s known ∧
        known.slack.Marks (ChannelConfig.slackWebhook config) := by
  obtain ⟨a, hfired, hname⟩ := List.mem_map.mp hlabel
  obtain ⟨ha, houtcome⟩ := List.mem_filter.mp hfired
  have hslack : a.label = some "slack" := by
    cases hl : a.label with
    | none =>
      rw [hl] at hname
      exact absurd hname (by decide)
    | some l =>
      rw [hl] at hname
      by_cases hempty : l = ""
      · subst hempty
        exact absurd hname (by decide)
      · rw [Option.filter, if_pos (by simpa using hempty)] at hname
        exact congrArg some hname
  rcases returnsIn_dispatch h with ⟨binding, hb, -, hdeliveries⟩ | hunbound
  · obtain ⟨⟨kind, config⟩, hentry, w, w', hdelivery⟩ := exists_of_forall₂ hdeliveries ha
    have hkind := (canReturn_deliver ⟨s, w, w', hdelivery⟩).2
    obtain ⟨a', w'', hrun, hnamed⟩ :=
      deliver_label given metrics (some t) receiver kind config n s w
    rw [hdelivery] at hrun
    cases hrun
    rw [hslack] at hnamed
    obtain ⟨known, hused, hname⟩ := Option.map_eq_some_iff.mp hnamed.symm
    obtain ⟨rfl, hmarks⟩ := Channel.nameOf_eq_slack_iff.mp hname
    refine ⟨binding, config, a, hb, hentry, ha, hkind, of_decide_eq_true houtcome, known, ?_,
      hmarks⟩
    cases hsettings : settingsOr given s w with
    | mk answer w₁ =>
      rw [hsettings] at hused
      cases answer with
      | ok known' =>
        cases hused
        exact ⟨w, w₁, hsettings⟩
      | error e => cases hused
  · -- without a binding, nothing is called anything
    rw [hunbound, List.mem_singleton] at ha
    rw [ha] at hslack
    cases hslack

/-- **A chat webhook is called genuine if the host of genuine webhooks occurs in its address**, in
whatever place, and otherwise it has no name; without settings it has no label.  So every webhook
is called genuine that points at the host as it is spelled in the settings, and what analytics are
told is called genuine only if that host occurs in the address of a webhook that did something. -/
theorem slack_label_iff_marked (given : Option Settings) (metrics : Metrics) :
    (∀ t receiver config n s w, ∃ a w',
      (standard given metrics).deliver t receiver .slack config n s w = (.ok a, w') ∧
      (a.label = some "slack" ↔ ∃ known, (settingsOr given s w).1 = .ok known ∧
        known.slack.Marks (ChannelConfig.slackWebhook config)) ∧
      (a.label = some "N/A" ↔ ∃ known, (settingsOr given s w).1 = .ok known ∧
        ¬ known.slack.Marks (ChannelConfig.slackWebhook config)) ∧
      (a.label = none ↔ ∃ e, (settingsOr given s w).1 = .error e)) ∧
    (∀ (known : SlackSettings) url, known.host ≠ "" →
      Address.host? url = some known.host → known.Marks url) ∧
    ∀ t b n receiver s r,
      ((standard given metrics).dispatch t b n receiver).ReturnsIn s r →
      ∀ connection items,
        Fields.get? "notification_types" (Tracking.notification connection r) = some (.arr items) →
        .str "slack" ∈ items →
        ∃ binding config a, b = some binding ∧ (.slack, config) ∈ binding.entries ∧
          a ∈ r.attempts ∧ a.kind = some .slack ∧ a.outcome ≠ .skipped ∧
          ∃ known, (settingsOr given).ReturnsIn s known ∧
            known.slack.Marks (ChannelConfig.slackWebhook config) := by
  refine ⟨fun t receiver config n s w => ?_, fun known url hne hhost =>
    ⟨hne, Address.host_isInfix hhost⟩, fun t b n receiver s r h connection items hitems hmem => ?_⟩
  · obtain ⟨a, w', hrun, hlabel⟩ := deliver_label given metrics t receiver .slack config n s w
    refine ⟨a, w', hrun, ?_⟩
    rw [hlabel]
    cases (settingsOr given s w).1 with
    | error e => simp [Except.toOption]
    | ok known =>
      by_cases hmarks : known.slack.Marks (ChannelConfig.slackWebhook config)
      · have hname : Channel.nameOf known .slack config = "slack" :=
          Channel.nameOf_eq_slack_iff.mpr ⟨rfl, hmarks⟩
        simp [Except.toOption, hname, hmarks]
      · have hname : Channel.nameOf known .slack config = "N/A" :=
          (Channel.nameOf_slack_eq_or known config).resolve_left
            fun h => hmarks (Channel.nameOf_eq_slack_iff.mp h).2
        simp [Except.toOption, hname, hmarks]
  · -- the event lists the labels of the report
    have hlabels : items = r.labels.map .str := by
      rw [r.labels_eq]
      exact (Json.arr.inj (Option.some.inj hitems)).symm
    rw [hlabels] at hmem
    obtain ⟨label, hlabel, hslack⟩ := List.mem_map.mp hmem
    cases hslack
    exact exists_marked_of_labels h hlabel

/-- A binding with one chat webhook. -/
def chatBinding (url : String) : ChannelBinding := ⟨[.slack], some ⟨url⟩, none⟩

/-- A webhook at another host, which names the host of genuine webhooks in its path, is told of as a
genuine one. -/
theorem slack_label_iff_marked_foreign :
    let binding := chatBinding "https://chat.example.com/hooks.slack.com/services/T000"
    ∃ r items,
      ((standard (some .bare) .logging).dispatch .failure (some binding) (.test "ping")
        none).ReturnsIn .busy r ∧
      Fields.get? "notification_types" (Tracking.notification default r) = some (.arr items) ∧
      .str "slack" ∈ items ∧
      ∃ (config : Option ChannelConfig) (known : Settings),
        (ChannelKind.slack, config) ∈ binding.entries ∧
          known.slack.Marks (ChannelConfig.slackWebhook config) := by
  intro binding
  obtain ⟨r, w', hrun⟩ := (standard (some .bare) .logging).neverFails_dispatch .failure
    (some binding) (.test "ping") none .busy .initial
  -- the run itself is evaluated: its one label is that of a genuine webhook
  have hlabels : ((standard (some .bare) .logging).dispatch .failure (some binding)
      (.test "ping") none .busy .initial).1.toOption.map (·.fired.map Tracking.labelOf)
      = some ["slack"] := by decide +kernel
  rw [hrun] at hlabels
  have hitems : Fields.get? "notification_types" (Tracking.notification default r)
      = some (.arr ([.str "slack"])) :=
    congrArg (fun labels : List String => some (Json.arr (labels.map .str)))
      (Option.some.inj hlabels)
  have hmem : Json.str "slack" ∈ [Json.str "slack"] := List.mem_singleton.mpr rfl
  obtain ⟨binding', config, a, hbinding, hentry, -, -, -, known, -, hmarks⟩ :=
    (slack_label_iff_marked (some .bare) .logging).2.2 .failure (some binding) (.test "ping") none
      .busy r ⟨.initial, w', hrun⟩ default _ hitems hmem
  cases hbinding
  exact ⟨r, _, ⟨.initial, w', hrun⟩, hitems, hmem, config, known, hentry, hmarks⟩

/-- Where a webhook points is not what decides: one at another host is called genuine, and one at
the right host is not, in capital letters. -/
theorem genuine_not_told_apart :
    let foreign := "https://chat.example.com/hooks.slack.com/services/T000"
    let loud := "https://HOOKS.SLACK.COM/services/T000"
    let label (url : String) := (((standard (some .bare) .logging).deliver none none .slack
      (some (.slack ⟨url⟩)) (.test "ping") .busy .initial).1.toOption.bind (·.label))
    ¬ Address.PointsAt foreign Settings.bare.slack.host ∧ label foreign = some "slack" ∧
      Address.PointsAt loud Settings.bare.slack.host ∧ label loud = some "N/A" := by
  exact ⟨by decide +kernel, rfl, by decide +kernel, rfl⟩

end Dispatch

end JobHerald
