import Mathlib.Data.List.Forall2
import JobHerald.Job.Tracking
import JobHerald.Proofs.Dispatch.Order

/-!
# What reports say

Whatever becomes of the channels, a report has an attempt for each of them, in the order of the
binding.  The labels of those that did something are what analytics are told.

## Main definitions

* `DispatchReport.labels` — the labels of the attempts that were not skipped.

## Main results

* `Dispatch.returnsIn_dispatch` — **a report has one attempt for each entry of the binding**, or a
  skipped one without a binding.
* `Dispatch.labels_eq_getD` — channels of this library have no empty labels.
-/

namespace JobHerald

open JobHerald.Action

/-! ### Attempts -/

namespace Action

variable {α : Type}

/-- A value of a loop has one item for each item of the list, returned for it. -/
theorem returnsIn_forEach {γ : Type} {f : γ → Action α} {s : Surroundings} {cs : List γ}
    {as : List α} (h : (forEach f cs).ReturnsIn s as) :
    List.Forall₂ (fun c a => (f c).ReturnsIn s a) cs as := by
  induction cs generalizing as with
  | nil =>
    rw [← returnsIn_pure h]
    exact .nil
  | cons c cs ih =>
    obtain ⟨a, ha, h⟩ := returnsIn_bind h
    obtain ⟨rest, hrest, h⟩ := returnsIn_bind h
    rw [← returnsIn_pure h]
    exact .cons ha (ih hrest)

/-- An item of the one list is related to an item of the other. -/
theorem exists_of_forall₂ {γ : Type} {R : γ → α → Prop} {cs : List γ} {as : List α}
    (h : List.Forall₂ R cs as) {a : α} (ha : a ∈ as) : ∃ c ∈ cs, R c a := by
  induction h with
  | nil => cases ha
  | cons hR _ ih =>
    rcases List.mem_cons.mp ha with rfl | ha
    · exact ⟨_, List.mem_cons_self, hR⟩
    · obtain ⟨c, hc, hR⟩ := ih ha
      exact ⟨c, List.mem_cons_of_mem _ hc, hR⟩

end Action

namespace Dispatch

variable {d : Dispatch}

/-- A report has one attempt for each entry of the binding, in order, or a skipped one if there is
none. -/
theorem returnsIn_dispatch {t : Trigger} {b : Option ChannelBinding} {n : Notice}
    {receiver : Option String} {s : Surroundings} {r : DispatchReport}
    (h : (d.dispatch t b n receiver).ReturnsIn s r) :
    (∃ b', b = some b' ∧ b'.kinds ≠ [] ∧ List.Forall₂ (fun entry a =>
      (d.deliver (some t) receiver entry.1 entry.2 n).ReturnsIn s a) b'.entries r.attempts) ∨
      r.attempts = [notBound t] := by
  -- there are two ways to be skipped: no binding, and a binding without kinds
  have hskip : (d.skip t).ReturnsIn s r → r.attempts = [notBound t] := by
    intro h
    obtain ⟨u, -, h⟩ := returnsIn_bind h
    obtain ⟨u, -, h⟩ := returnsIn_bind h
    rw [← returnsIn_pure h]
  cases b with
  | none => exact .inr (hskip h)
  | some b =>
    rw [dispatch] at h
    split at h
    · exact .inr (hskip h)
    · next hkinds =>
      obtain ⟨attempts, hattempts, h⟩ := returnsIn_bind h
      obtain ⟨u, -, h⟩ := returnsIn_bind h
      rw [← returnsIn_pure h]
      have hkinds : b.kinds ≠ [] := fun hnil => hkinds (List.isEmpty_iff.mpr hnil)
      refine .inl ⟨b, rfl, hkinds, (returnsIn_forEach hattempts).imp fun entry a ha => ?_⟩
      obtain ⟨a', ha', ha⟩ := returnsIn_bind ha
      obtain ⟨u, -, ha⟩ := returnsIn_bind ha
      rw [← returnsIn_pure ha]
      exact ha'

/-- The same of the reports of all runs. -/
theorem canReturn_dispatch {t : Trigger} {b : Option ChannelBinding} {n : Notice}
    {receiver : Option String} {r : DispatchReport} (h : (d.dispatch t b n receiver).CanReturn r) :
    (∃ b', b = some b' ∧ b'.kinds ≠ [] ∧ List.Forall₂ (fun entry a =>
      (d.deliver (some t) receiver entry.1 entry.2 n).CanReturn a) b'.entries r.attempts) ∨
      r.attempts = [notBound t] := by
  obtain ⟨s, hs⟩ := h
  rcases returnsIn_dispatch hs with ⟨b', hb, hkinds, hdeliveries⟩ | hunbound
  · exact .inl ⟨b', hb, hkinds, hdeliveries.imp fun _ _ ha => ⟨s, ha⟩⟩
  · exact .inr hunbound

theorem kinds_of_deliveries {t : Option Trigger} {b : ChannelBinding} {n : Notice}
    {receiver : Option String} {attempts : List ChannelAttempt}
    (h : List.Forall₂ (fun entry a => (d.deliver t receiver entry.1 entry.2 n).CanReturn a)
      b.entries attempts) : attempts.map (·.kind) = b.kinds.map some := by
  rw [← b.map_fst_entries, List.map_map, ← List.forall₂_eq_eq_eq, List.forall₂_map_left_iff,
    List.forall₂_map_right_iff]
  exact (h.imp fun entry a ha => (canReturn_deliver ha).2).flip

/-- A report has an attempt at least, since a dispatch without channels has a skipped one. -/
theorem attempts_ne_nil {t : Trigger} {b : Option ChannelBinding} {n : Notice}
    {receiver : Option String} {r : DispatchReport} (h : (d.dispatch t b n receiver).CanReturn r) :
    r.attempts ≠ [] := by
  intro hnil
  rcases canReturn_dispatch h with ⟨b, -, hkinds, hdeliveries⟩ | hunbound
  · -- there are as many attempts as kinds
    have hlength := congrArg List.length (kinds_of_deliveries hdeliveries)
    rw [hnil, List.map_nil, List.length_nil, List.length_map] at hlength
    exact hkinds (List.length_eq_zero_iff.mp hlength.symm)
  · rw [hnil] at hunbound
    cases hunbound

end Dispatch

/-! ### Labels -/

/-- The labels of the attempts that were not skipped, in order.  A label that is absent, or
empty, is not available. -/
def DispatchReport.labels (r : DispatchReport) : List String :=
  (r.attempts.filter fun a => a.outcome ≠ .skipped).map fun a =>
    (a.label.filter (· ≠ "")).getD "N/A"

theorem DispatchReport.labels_eq (r : DispatchReport) :
    r.labels = r.fired.map Tracking.labelOf := by
  -- an empty label counts as none on both sides
  have hlabel : ∀ a : ChannelAttempt,
      (a.label.filter (· ≠ "")).getD "N/A" = Tracking.labelOf a := by
    intro a
    rw [Tracking.labelOf]
    cases a.label with
    | none => rfl
    | some l => by_cases hl : l = "" <;> simp [Option.filter, hl]
  have hfired : (r.attempts.filter fun a => a.outcome ≠ .skipped) = r.fired :=
    List.filter_congr fun a _ => by
      rw [ChannelAttempt.isFired]
      cases a.outcome <;> rfl
  rw [labels, hfired]
  exact List.map_congr_left fun a _ => hlabel a

namespace Dispatch

variable {d : Dispatch}

/-- A channel of this library has a label that is not empty. -/
theorem canReturn_create {kind : ChannelKind} {config : Option ChannelConfig}
    {given : Option Settings} {receiver : Option String} {c : Channel}
    (h : (Channel.create kind config given receiver).CanReturn c) :
    ∃ l, l ≠ "" ∧ c.label = pure (.str l) := by
  obtain ⟨settings, -, h⟩ := canReturn_bind h
  rw [← canReturn_pure h]
  cases kind with
  | slack =>
    refine ⟨_, ?_, rfl⟩
    unfold Slack.Target.label
    split <;> decide
  | email => exact ⟨"email", by decide, rfl⟩
  | webhook => exact ⟨"N/A", by decide, rfl⟩

theorem canReturn_labelOf {kind : ChannelKind} {c : Channel} {l : String}
    (hc : c.label = pure (.str l)) {label : Option String}
    (h : (labelOf kind c).CanReturn label) (hlabel : label = some "") : l = "" := by
  obtain ⟨r, hr, h⟩ := canReturn_bind h
  have hvalue : r.value? = some "" := (canReturn_pure h).trans hlabel
  have hplain := canReturn_of_attempt (clean_kind kind) hr hvalue
  rw [hc] at hplain
  obtain ⟨v, hv, hplain⟩ := canReturn_bind hplain
  rw [← canReturn_pure hv] at hplain
  exact canReturn_pure hplain

/-- An attempt through a channel of this library has no empty label. -/
theorem label_ne_empty (hd : d.maker = Channel.create) {t : Option Trigger}
    {receiver : Option String} {kind : ChannelKind} {config : Option ChannelConfig} {n : Notice}
    {a : ChannelAttempt} (h : (d.deliver t receiver kind config n).CanReturn a) :
    a.label ≠ some "" := by
  obtain ⟨made, hmade, h⟩ := canReturn_bind h
  cases hvalue : made.value? with
  | none =>
    rw [hvalue] at h
    rw [← canReturn_pure h]
    exact fun hnone => nomatch hnone
  | some c =>
    -- the channel is one of this library, which names itself
    have hcreated := canReturn_of_attempt (clean_kind kind) hmade hvalue
    rw [hd] at hcreated
    obtain ⟨l, hl, hc⟩ := canReturn_create hcreated
    rw [hvalue] at h
    obtain ⟨r, -, h⟩ := canReturn_bind h
    obtain ⟨u, -, h⟩ := canReturn_bind h
    obtain ⟨label, hlabel, h⟩ := canReturn_bind h
    rw [← canReturn_pure h]
    exact fun hempty => hl (canReturn_labelOf hc hlabel hempty)

/-- In a report of the channels of this library, only an absent label is not available. -/
theorem labels_eq_getD (hd : d.maker = Channel.create) {t : Trigger} {b : Option ChannelBinding}
    {n : Notice} {receiver : Option String} {r : DispatchReport}
    (h : (d.dispatch t b n receiver).CanReturn r) :
    r.labels = (r.attempts.filter fun a => a.outcome ≠ .skipped).map fun a =>
      a.label.getD "N/A" := by
  -- the attempts come of deliveries, or the one attempt of a skipped dispatch
  have hlabels : ∀ a ∈ r.attempts, a.label ≠ some "" := by
    intro a ha
    rcases canReturn_dispatch h with ⟨b, -, -, hdeliveries⟩ | hunbound
    · obtain ⟨entry, -, hdelivery⟩ := exists_of_forall₂ hdeliveries ha
      exact label_ne_empty hd hdelivery
    · rw [hunbound, List.mem_singleton] at ha
      rw [ha]
      exact fun hnone => nomatch hnone
  refine List.map_congr_left fun a ha => ?_
  have hne := hlabels a (List.mem_of_mem_filter ha)
  cases hl : a.label with
  | none => rfl
  | some l =>
    have hl' : l ≠ "" := fun hempty => hne (by rw [hl, hempty])
    simp [Option.filter, hl']

end Dispatch

end JobHerald
