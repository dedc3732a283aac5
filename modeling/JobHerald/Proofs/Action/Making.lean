import JobHerald.Proofs.Action.Scope

/-!
# Actions that are the same in every run

A message is made without a look at anything: its making comes to the same result, and writes the
same log entries, wherever and whenever it is made.

## Main definitions

* `Action.Makes` — actions that come to one result, of which a property tells more.
* `Action.Yields` — results that are values with a property.

## Main results

* `Action.makes_bind`, `Action.makes_handle` — putting such actions together.
* `Action.Makes.canReturn` — what is made can be returned.
* `Action.Makes.staysIn` — such actions stay in every scope that has log entries.
-/

namespace JobHerald.Action

variable {α β : Type}

/-- An action that comes to the same result in every run, with the same log entries, and does
nothing else. -/
def Makes (x : Action α) (P : Except Failure α → Prop) : Prop :=
  ∃ r es, (∀ e ∈ es, e.isEntry = true) ∧ P r ∧ ∀ s w, x s w = (r, w.extend es)

/-- A value with a property. -/
def Yields (good : α → Prop) : Except Failure α → Prop
  | .ok a => good a
  | .error _ => False

section Closure

variable {P Q : Except Failure α → Prop} {x : Action α}

theorem Makes.mono (hx : x.Makes P) (h : ∀ r, P r → Q r) : x.Makes Q := by
  obtain ⟨r, es, hes, hP, hrun⟩ := hx
  exact ⟨r, es, hes, h r hP, hrun⟩

theorem makes_ofExcept {r : Except Failure α} (h : P r) : (ofExcept r).Makes P :=
  ⟨r, [], by simp, h, fun s w => by rw [ofExcept_apply, World.extend_nil]⟩

theorem makes_pure {a : α} (h : P (.ok a)) : (pure a : Action α).Makes P :=
  makes_ofExcept (r := .ok a) h

theorem makes_fail {e : Failure} (h : P (.error e)) : (fail e : Action α).Makes P :=
  makes_ofExcept (r := .error e) h

theorem makes_log (l : Log.Level) (event : String) (fs : Fields) :
    (log l event fs).Makes (Yields fun _ => True) :=
  ⟨.ok (), [.logged ⟨l, event, fs⟩], by simp [Effect.isEntry, Effect.entry?], trivial,
    fun s w => log_apply l event fs s w⟩

/-- The second action has to come to one result for the value of the first; if the first one fails,
it is not reached. -/
theorem makes_bind {R : Except Failure β → Prop} {f : α → Action β} (hx : x.Makes P)
    (hok : ∀ a, P (.ok a) → (f a).Makes R) (herror : ∀ e, P (.error e) → R (.error e)) :
    (x >>= f).Makes R := by
  obtain ⟨r, es, hes, hP, hrun⟩ := hx
  cases r with
  | error e => exact ⟨.error e, es, hes, herror e hP, fun s w => bind_error (hrun s w)⟩
  | ok a =>
    obtain ⟨r, es', hes', hR, hrun'⟩ := hok a hP
    refine ⟨r, es ++ es', fun e he => (List.mem_append.mp he).elim (hes e) (hes' e), hR, ?_⟩
    intro s w
    -- the entries of the second action follow those of the first
    rw [bind_ok (hrun s w), hrun', World.extend_extend]

/-- A first action that never fails: only what it returns matters to the second one. -/
theorem makes_yields_bind {R : Except Failure β → Prop} {good : α → Prop} {f : α → Action β}
    (hx : x.Makes (Yields good)) (hok : ∀ a, good a → (f a).Makes R) : (x >>= f).Makes R :=
  makes_bind hx hok fun _ h => h.elim

/-- A handler that comes to one result for the failure of the action, if it fails at all. -/
theorem makes_handle {f : Failure → Action α} (hx : x.Makes P) (hok : ∀ a, P (.ok a) → Q (.ok a))
    (herror : ∀ e, P (.error e) → (f e).Makes Q) : (x.handle f).Makes Q := by
  obtain ⟨r, es, hes, hP, hrun⟩ := hx
  cases r with
  | ok a => exact ⟨.ok a, es, hes, hok a hP, fun s w => handle_ok (hrun s w)⟩
  | error e =>
    obtain ⟨r, es', hes', hQ, hrun'⟩ := herror e hP
    refine ⟨r, es ++ es', fun e he => (List.mem_append.mp he).elim (hes e) (hes' e), hQ, ?_⟩
    intro s w
    -- the handler goes on where the failure has left the log
    rw [handle_error (hrun s w), hrun', World.extend_extend]

/-- What an action makes shows in every single run. -/
theorem Makes.of_run (hx : x.Makes P) {s : Surroundings} {w w' : World} {r : Except Failure α}
    (hrun : x s w = (r, w')) : P r := by
  obtain ⟨r', es, -, hP, hrun'⟩ := hx
  -- a run can come to nothing else
  rw [hrun'] at hrun
  cases hrun
  exact hP

/-- What an action makes in every run, it can return: any single run shows it. -/
theorem Makes.canReturn (hx : x.Makes P) :
    x.Makes fun r => P r ∧ ∀ a, r = .ok a → x.CanReturn a := by
  obtain ⟨r, es, hes, hP, hrun⟩ := hx
  refine ⟨r, es, hes, ⟨hP, fun a ha => ?_⟩, hrun⟩
  exact ⟨.busy, .initial, _, ha ▸ hrun .busy .initial⟩

/-- An action that is the same in every run stays in every scope that has log entries, if it
fails as the scope allows. -/
theorem Makes.staysIn {c : Scope} (hwrites : ∀ e : Effect, e.isEntry = true → c.writes e)
    (hx : x.Makes fun r => ∀ f, r = .error f → c.fails f) : x.StaysIn c := by
  obtain ⟨r, es, hes, hfails, hrun⟩ := hx
  intro s w
  refine ⟨r, w.settings, es, fun e he => hwrites e (hes e he), hfails, fun w' hw' => ?_⟩
  rw [hrun, ← hw'.settings]
  rfl

end Closure

end JobHerald.Action
