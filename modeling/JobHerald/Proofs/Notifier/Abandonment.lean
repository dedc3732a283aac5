import JobHerald.Proofs.Dispatch.Reports
import JobHerald.Proofs.Notifier.Stages

/-!
# Abandoned notifications

A notification is abandoned before it is dispatched, or not at all.  If it is abandoned, only
look-ups and one log entry are left behind; otherwise it is dispatched, and its report has an
attempt at least.

## Main definitions

* `Action.EndsUnless` — a notification that has a report unless it is abandoned.

## Main results

* `Notifier.publish_reports` — what is published has a report.
* `Notifier.abandoned_without_trace` — **an abandoned notification leaves one log entry, and any
  other one has a report.**
-/

namespace JobHerald

open JobHerald.Action

/-! ### Reports -/

namespace Notifier

variable {n : Notifier} {d : Dispatch}

/-- A notice for a workspace is dispatched, whatever becomes of its channels. -/
theorem dispatchFor_reports (hd : n.dispatcher = d.dispatcher) (w : Workspace) (t : Trigger)
    (notice : Notice) (s : Surroundings) (world : World) :
    ∃ report world', n.dispatchFor w t notice s world = (.ok (some report), world') ∧
      report.attempts ≠ [] := by
  -- without a policy there is an entry, and no binding
  have hbinding : (bindingFor w t).NeverFails := by
    rw [bindingFor]
    cases w.policy with
    | some p => exact neverFails_pure _
    | none => exact neverFails_bind (neverFails_log _ _ _) fun _ _ => neverFails_pure none
  have hnever : (do
      let binding ← bindingFor w t
      n.dispatcher.dispatch t binding notice (receiverOf w) :
        Action DispatchReport).NeverFails := by
    rw [hd]
    exact neverFails_bind hbinding fun b _ => d.neverFails_dispatch t b notice _
  obtain ⟨report, world', hrun⟩ := hnever s world
  obtain ⟨b, -, hreport⟩ := canReturn_bind ⟨s, world, world', hrun⟩
  rw [hd] at hreport
  exact ⟨report, world', bind_ok (attempt_ok Attempt.clean_nil hrun),
    Dispatch.attempts_ne_nil hreport⟩

/-- What is published has a report, whatever becomes of the analytics. -/
theorem publish_reports (hd : n.dispatcher = d.dispatcher) (w : Workspace) (t : Trigger)
    (notice : Notice) (c : Uuid) (attributes : Action Fields) (s : Surroundings) (world : World) :
    ∃ report world', n.publish w t notice (pure c) attributes s world
      = (.ok (some report), world') ∧ report.attempts ≠ [] := by
  obtain ⟨report, world₁, hdispatch, hattempts⟩ := dispatchFor_reports hd w t notice s world
  obtain ⟨u, world₂, htrack⟩ := n.neverFails_track w t report c attributes s world₁
  refine ⟨report, world₂, ?_, hattempts⟩
  rw [publish, bind_ok hdispatch]
  exact bind_ok htrack

end Notifier

/-! ### Abandoned notifications -/

/-- A notification that has a report unless it is abandoned.  A report has an attempt at least; an
abandoned notification leaves nothing behind but look-ups and one log entry. -/
def Action.EndsUnless (x : Action (Option DispatchReport)) (s : Surroundings) (w : World)
    (abandoned : Prop) : Prop :=
  ∃ answer w', x s w = (.ok answer, w') ∧ (answer = none ↔ abandoned) ∧
    (answer = none → ∃ (ls : List Lookup) (entry : Log.Entry),
      w'.journal = w.journal ++ (ls.map .lookedUp ++ [.logged entry])) ∧
    ∀ report, answer = some report → report.attempts ≠ []

/-- Stages that lead to a report unless they end. -/
theorem Action.Leads.ends {body : Action (Option DispatchReport)} {s : Surroundings} {Q : Prop}
    {go : Action (Option DispatchReport) → Prop} (h : body.Leads s Q go)
    (hgo : ∀ y, go y → ¬ Q ∧ ∀ w, ∃ report w', y s w = (.ok (some report), w') ∧
      report.attempts ≠ []) (b : Log.Binding) (w : World) :
    (within b body).EndsUnless s w Q := by
  rcases h with ⟨hQ, ls, entry, hstop⟩ | ⟨y, hy, ls, hcontinue⟩
  · exact ⟨none, _, within_apply (hstop _), ⟨fun _ => hQ, fun _ => rfl⟩,
      fun _ => ⟨ls, entry, rfl⟩, fun report hreport => nomatch hreport⟩
  · -- what is led to starts in the context of the notification, after the look-ups
    obtain ⟨hnot, hruns⟩ := hgo y hy
    obtain ⟨report, w', hrun, hattempts⟩ := hruns (World.extend
      { w with context := Log.enter w.context (b.fields s.fresh) } (ls.map .lookedUp))
    refine ⟨some report, _, within_apply ((hcontinue _).trans hrun), ?_, ?_, ?_⟩
    · exact ⟨fun h => (nomatch h), fun hQ => absurd hQ hnot⟩
    · exact fun h => nomatch h
    · rintro _ ⟨⟩
      exact hattempts

namespace Notifier

variable {d : Dispatch}

theorem notifyJob_ends (n : Notifier) (hd : n.dispatcher = d.dispatcher)
    (hr : n.repository.Sound) (t : Trigger) (job : Job) (attempts : List AttemptStats)
    (known : Option Workspace) (reason : Option String) (s : Surroundings) (w : World) :
    (n.notifyJob t job attempts known reason).EndsUnless s w
      (n.AbandonsTrigger s t job attempts known reason) := by
  obtain ⟨b, body, heq, hleads⟩ := leads_notifyJob hr t job attempts known reason s
  rw [heq]
  refine hleads.ends ?_ b w
  rintro y ⟨event, ht, workspace, c, m, notice, hready, rfl⟩
  refine ⟨fun habandons => ?_, publish_reports hd workspace _ notice c _ s⟩
  -- what leads to an announcement is none of the reasons to abandon it
  cases habandons with
  | trigger hnone =>
    rw [ht] at hnone
    cases hnone
  | event he h =>
    rw [ht] at he
    cases he
    exact hready.not_abandons h

theorem notifySchemaChange_ends (n : Notifier) (hd : n.dispatcher = d.dispatcher)
    (hr : n.repository.Sound) (c : Uuid) (diff : CatalogDiff) (breaking : Bool)
    (s : Surroundings) (w : World) :
    (n.notifySchemaChange c diff breaking).EndsUnless s w (n.AbandonsSchema c) := by
  obtain ⟨b, body, heq, hleads⟩ := leads_notifySchemaChange hr c diff breaking s
  rw [heq]
  refine hleads.ends ?_ b w
  rintro y ⟨id, workspace, m, update, hready, rfl⟩
  exact ⟨hready.not_abandons, publish_reports hd workspace _ _ c _ s⟩

/-- **An abandoned notification leaves one log entry, and any other one has a report.**  Job events
and changed schemas are abandoned in the ways that are listed, and in no other. -/
theorem abandoned_without_trace (n : Notifier) (d : Dispatch) (hd : n.dispatcher = d.dispatcher)
    (hr : n.repository.Sound) :
    (∀ t job attempts known reason s w,
      (n.notifyJob t job attempts known reason).EndsUnless s w
        (n.AbandonsTrigger s t job attempts known reason)) ∧
    ∀ c diff breaking s w,
      (n.notifySchemaChange c diff breaking).EndsUnless s w (n.AbandonsSchema c) :=
  ⟨notifyJob_ends n hd hr, notifySchemaChange_ends n hd hr⟩

theorem abandoned_without_trace_beset :
    (beset ⟨default, "Acme", none, none⟩ .longInteger).repository.Sound ∧
      (beset ⟨default, "Acme", none, none⟩ .longInteger).AbandonsSchema default ∧
      ((beset ⟨default, "Acme", none, none⟩ .longInteger).notifySchemaChange default ⟨[]⟩
        false).EndsUnless .busy .initial
          ((beset ⟨default, "Acme", none, none⟩ .longInteger).AbandonsSchema default) := by
  have hsound := Repository.sound_owning ⟨default, "Acme", none, none⟩ .longInteger
  exact ⟨hsound, .connection (.connection rfl),
    (abandoned_without_trace _ _ rfl hsound).2 default ⟨[]⟩ false .busy .initial⟩

end Notifier

end JobHerald
