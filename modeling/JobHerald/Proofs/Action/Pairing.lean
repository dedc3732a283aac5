import Mathlib.Data.List.Forall2
import JobHerald.Proofs.Action.Making

/-!
# Pairs of runs

Some properties are about two runs at once: of the same action in two processes, or of two actions
that differ in a secret.  A pairing says in what such runs may differ: the settings of their
processes, their requests, and the context of their log entries.  Two actions are paired if, from
worlds that differ in nothing else, they come to related results and again to such worlds.

## Main definitions

* `Pairing.Same` — two results with related values or the same failure.
* `Pairing` — two surroundings with the same clock and the same replies, and the differences that
  are allowed.
* `Pairing.Alike` — two worlds that differ in nothing else.
* `Pairing.Pairs` — two actions that keep worlds alike, and come to related results.
* `Pairing.Steady` — an action that is paired with itself, and comes to the same result.

## Main results

* `Pairing.pairs_bind`, `Pairing.pairs_attempt_bind`, … — pairs are kept by all ways of putting
  actions together.
* `Pairing.pairs_forEach` — a loop over two lists of related items.
-/

namespace JobHerald

open JobHerald.Action

/-! ### Results -/

namespace Pairing

variable {α : Type} {Q : α → α → Prop}

/-- Two results with related values, or the same failure. -/
inductive Same (Q : α → α → Prop) : Except Failure α → Except Failure α → Prop
  /-- Both are values. -/
  | ok {a b : α} (h : Q a b) : Same Q (.ok a) (.ok b)
  /-- Both are the same failure. -/
  | error (e : Failure) : Same Q (.error e) (.error e)

theorem Same.refl (r : Except Failure α) : Same (· = ·) r r := by
  cases r with
  | ok a => exact .ok rfl
  | error e => exact .error e

theorem Same.eq {r r' : Except Failure α} (h : Same (· = ·) r r') : r = r' := by
  cases h with
  | ok hab => rw [hab]
  | error e => rfl

theorem Same.mono {Q' : α → α → Prop} {r r' : Except Failure α} (h : Same Q r r')
    (hQ : ∀ a b, Q a b → Q' a b) : Same Q' r r' := by
  cases h with
  | ok hab => exact .ok (hQ _ _ hab)
  | error e => exact .error e

end Pairing

/-- Two surroundings with the same clock and the same replies, and what may differ in two runs. -/
structure Pairing where
  /-- The surroundings of the first run. -/
  left : Surroundings
  /-- The surroundings of the second run. -/
  right : Surroundings
  /-- The settings of the two processes. -/
  known : Settings → Settings → Prop
  /-- Their requests. -/
  sends : Request → Request → Prop
  /-- Requests may be the same. -/
  same : ∀ rq, sends rq rq
  /-- The clock is the same. -/
  clock : right.clock = left.clock
  /-- The n-th request is answered the same. -/
  replies : right.replies = left.replies

namespace Pairing

variable {α β : Type} (P : Pairing)

/-! ### Worlds and actions -/

/-- Two effects that are the same, or two requests that may differ as allowed. -/
inductive Effects : Effect → Effect → Prop
  /-- The effects are the same. -/
  | same (e : Effect) (h : e.isRequest = false) : Effects e e
  /-- Two requests. -/
  | requested {rq rq' : Request} (h : P.sends rq rq') : Effects (.requested rq) (.requested rq')

/-- Two worlds that differ as allowed in the settings that can be had and in the requests so far.
The contexts of their log entries may be any. -/
structure Alike (w w' : World) : Prop where
  /-- The settings may differ as allowed. -/
  settings : Same P.known (settings P.left w).1 (settings P.right w').1
  /-- The effects differ in requests only. -/
  journal : List.Forall₂ P.Effects w.journal w'.journal

/-- Two actions that keep worlds alike, and come to related results. -/
def Pairs (Q : α → α → Prop) (x y : Action α) : Prop :=
  ∀ w w', P.Alike w w' →
    Same Q (x P.left w).1 (y P.right w').1 ∧ P.Alike (x P.left w).2 (y P.right w').2

/-- An action that does alike in both runs. -/
abbrev Steady (x : Action α) : Prop := P.Pairs (· = ·) x x

variable {P} {w w' : World} {Q : α → α → Prop} {R : β → β → Prop}

/-- Effects may be the same: a request may stand for itself, and the others do not differ at all. -/
theorem effects_refl (e : Effect) : P.Effects e e := by
  cases e with
  | requested rq => exact .requested (P.same rq)
  | _ => exact .same _ rfl

/-! ### What is alike -/

/-- Two journals of which a part without requests is looked at. -/
theorem filterMap_eq {f : Effect → Option α} (hf : ∀ rq, f (.requested rq) = none)
    {es es' : List Effect} (h : List.Forall₂ P.Effects es es') :
    es'.filterMap f = es.filterMap f := by
  -- only requests may differ, and of these nothing is looked at
  induction h with
  | nil => rfl
  | cons he _ ih =>
    cases he with
    | same e _ => simp [List.filterMap_cons, ih]
    | requested _ => simp [hf, ih]

/-- The requests of two journals, one by one: effects are paired in their order, and a request with
a request only. -/
theorem forall₂_requests {es es' : List Effect} (h : List.Forall₂ P.Effects es es') :
    List.Forall₂ P.sends (es.filterMap Effect.request?) (es'.filterMap Effect.request?) := by
  -- every other effect is left out on both sides
  induction h with
  | nil => exact .nil
  | cons he _ ih =>
    cases he with
    | same e hrequest =>
      have hnone := Effect.request?_eq_none hrequest
      simpa [List.filterMap_cons, hnone] using ih
    | requested hsends => exact .cons hsends ih

/-- If requests may not differ, the effects are the same altogether. -/
theorem journal_eq (hsends : ∀ rq rq', P.sends rq rq' → rq' = rq) {es es' : List Effect}
    (h : List.Forall₂ P.Effects es es') : es' = es := by
  -- the induction is on the pairing of the effects
  induction h with
  | nil => rfl
  | cons he _ ih =>
    cases he with
    | same e _ => rw [ih]
    | requested h => rw [ih, hsends _ _ h]

/-- As many requests have been made in both worlds, so that the next ones get the same reply. -/
theorem Alike.requestCount_eq (h : P.Alike w w') : requestCount w' = requestCount w :=
  (forall₂_requests h.journal).length_eq.symm

/-- Worlds stay alike when alike effects are written. -/
theorem Alike.extend (h : P.Alike w w') {es es' : List Effect}
    (hes : List.Forall₂ P.Effects es es') : P.Alike (w.extend es) (w'.extend es') where
  settings := by
    rw [settings_of_extend, settings_of_extend]
    exact h.settings
  journal := List.rel_append h.journal hes

/-! ### Basic actions -/

theorem pairs_ofExcept {r r' : Except Failure α} (h : Same Q r r') :
    P.Pairs Q (ofExcept r) (ofExcept r') := by
  intro w w' hw
  rw [ofExcept_apply, ofExcept_apply]
  exact ⟨h, hw⟩

theorem steady_ofExcept (r : Except Failure α) : P.Steady (ofExcept r) :=
  pairs_ofExcept (Same.refl r)

theorem pairs_pure {a b : α} (h : Q a b) : P.Pairs Q (pure a) (pure b) :=
  pairs_ofExcept (.ok h)

theorem pairs_fail (e : Failure) : P.Pairs Q (fail e) (fail e) := pairs_ofExcept (.error e)

theorem steady_record {e : Effect} (h : e.isRequest = false) :
    P.Steady (record e) := by
  intro w w' hw
  exact ⟨.ok rfl, hw.extend (.cons (.same e h) .nil)⟩

theorem steady_log (l : Log.Level) (event : String) (fs : Fields) :
    P.Steady (log l event fs) := steady_record rfl

/-- A sink that keeps what it is told, and may fail depending on how much it was told before: alike
worlds hold as much of it, since requests are not counted. -/
theorem steady_kept {β : Type} {x : Action Unit} {f : Effect → Option β} {e : Effect}
    {fault : Nat → Option Failure}
    (hx : ∀ s w, x s w = ((fault (w.journal.filterMap f).length).elim (.ok ()) .error,
      w.extend [e])) (hf : ∀ rq, f (.requested rq) = none) (he : e.isRequest = false) :
    P.Steady x := by
  intro w w' hw
  rw [hx, hx, filterMap_eq hf hw.journal]
  refine ⟨?_, hw.extend (.cons (.same e he) .nil)⟩
  cases fault (w.journal.filterMap f).length with
  | none => exact .ok rfl
  | some failure => exact .error failure

/-- What is the same in every run is paired with itself. -/
theorem pairs_makes {good : Except Failure α → Prop} {x : Action α} (hx : x.Makes good) :
    P.Pairs (fun a b => b = a ∧ good (.ok a)) x x := by
  obtain ⟨r, es, hes, hgood, hrun⟩ := hx
  have hsame : Same (fun a b => b = a ∧ good (.ok a)) r r := by
    cases r with
    | ok a => exact .ok ⟨rfl, hgood⟩
    | error e => exact .error e
  intro w w' hw
  -- the runs write the same effects, none of which is a request
  rw [hrun, hrun]
  refine ⟨hsame, hw.extend (List.forall₂_same.mpr fun e he => .same e ?_)⟩
  have hentry := hes e he
  cases e with
  | logged entry => rfl
  | _ => cases hentry

theorem pairs_settings : P.Pairs P.known settings settings := by
  intro w w' hw
  refine ⟨hw.settings, ?_, ?_⟩
  -- settings that were read once are kept in the world, so that they are read again as they were
  · rw [settings_again, settings_again]
    exact hw.settings
  · rw [(settings_quietly _ _).1, (settings_quietly _ _).1]
    exact hw.journal

theorem steady_body (payload : Json) : P.Steady (body payload) := by
  rw [body]
  split
  · exact pairs_pure rfl
  · exact pairs_fail _

theorem steady_clock : P.Steady Action.clock := by
  intro w w' hw
  rw [Action.clock, Action.clock, P.clock]
  cases Timestamp.ofClock P.left.clock with
  | ok _ => exact ⟨.ok rfl, hw⟩
  | error f => exact ⟨.error _, hw⟩

/-- Two requests that may differ as allowed get the same reply. -/
theorem pairs_send {rq rq' : Request} (h : P.sends rq rq') :
    P.Pairs (· = ·) (send rq) (send rq') := by
  intro w w' hw
  have halike : P.Alike (w.extend [.requested rq]) (w'.extend [.requested rq']) :=
    hw.extend (.cons (.requested h) .nil)
  -- the reply depends on the number of requests so far only, which is the same in both worlds
  rw [send, send, P.replies, hw.requestCount_eq]
  cases P.left.replies (requestCount w) with
  | ok r => exact ⟨.ok rfl, halike⟩
  | error e => exact ⟨.error e, halike⟩

/-! ### Putting actions together -/

/-- What two paired actions come to, in worlds that are alike. -/
theorem Pairs.runs {x y : Action α} (h : P.Pairs Q x y) (hw : P.Alike w w') :
    ∃ r r' v v', x P.left w = (r, v) ∧ y P.right w' = (r', v') ∧ Same Q r r' ∧ P.Alike v v' :=
  ⟨_, _, _, _, rfl, rfl, h w w' hw⟩

/-- The second actions have to be paired for related values of the first ones.  If the first ones
fail, they fail alike, and neither second action is reached. -/
theorem pairs_bind {x y : Action α} {f g : α → Action β}
    (hx : P.Pairs Q x y) (hf : ∀ a b, Q a b → P.Pairs R (f a) (g b)) :
    P.Pairs R (x >>= f) (y >>= g) := by
  intro w w' hw
  obtain ⟨r, r', v, v', hl, hr, hsame, halike⟩ := hx.runs hw
  cases hsame with
  | ok hab =>
    rw [bind_ok hl, bind_ok hr]
    -- the second actions meet worlds that are alike again
    exact hf _ _ hab v v' halike
  | error e =>
    rw [bind_error hl, bind_error hr]
    exact ⟨.error e, halike⟩

/-- The second actions get the same value, so that they need to be paired for each value once. -/
theorem pairs_bind_eq {x y : Action α} {f g : α → Action β} (hx : P.Pairs (· = ·) x y)
    (hf : ∀ a, P.Pairs R (f a) (g a)) : P.Pairs R (x >>= f) (y >>= g) := by
  refine pairs_bind hx fun a b hab => ?_
  rw [← hab]
  exact hf a

/-- A failure is the same in both runs, so that it is handled alike. -/
theorem pairs_handle {x y : Action α} {f g : Failure → Action α} (hx : P.Pairs Q x y)
    (hf : ∀ e, P.Pairs Q (f e) (g e)) :
    P.Pairs Q (x.handle f) (y.handle g) := by
  intro w w' hw
  obtain ⟨r, r', v, v', hl, hr, hsame, halike⟩ := hx.runs hw
  cases hsame with
  | ok hab =>
    rw [handle_ok hl, handle_ok hr]
    exact ⟨.ok hab, halike⟩
  | error e =>
    rw [handle_error hl, handle_error hr]
    exact hf e v v' halike

theorem Pairs.mono {Q' : α → α → Prop} {x y : Action α} (h : P.Pairs Q x y)
    (hQ : ∀ a b, Q a b → Q' a b) : P.Pairs Q' x y :=
  fun w w' hw => ⟨(h w w' hw).1.mono hQ, (h w w' hw).2⟩

/-- A log entry before each of two actions. -/
theorem pairs_log_bind {x y : Action α} {l : Log.Level} {event : String} {fs : Fields}
    (h : P.Pairs Q x y) :
    P.Pairs Q (log l event fs >>= fun _ => x) (log l event fs >>= fun _ => y) :=
  pairs_bind_eq (steady_log l event fs) fun _ => h

/-! ### Attempts and loops -/

/-- What attempts make of two results with related values or the same failure. -/
inductive Attempted (declined : α → Bool) (Q : α → α → Prop) :
    OperationResult α → OperationResult α → Prop
  /-- Both are made alike. -/
  | result {r r' : Except Failure α} (h : Same Q r r') :
      Attempted declined Q (Attempt.result declined r) (Attempt.result declined r')

theorem pairs_attemptUnless {declined : α → Bool} {x y : Action α} {event : String}
    {context : Fields} (hc : Attempt.Clean context) (hx : P.Pairs Q x y) :
    P.Pairs (Attempted declined Q) (attemptUnless declined x event context)
      (attemptUnless declined y event context) := by
  intro w w' hw
  obtain ⟨r, r', v, v', hl, hr, hsame, halike⟩ := hx.runs hw
  cases hsame with
  | ok hab =>
    rw [attemptUnless_ok hc hl, attemptUnless_ok hc hr]
    exact ⟨.ok (.result (.ok hab)), halike⟩
  | error e =>
    rw [attemptUnless_error hc hl, attemptUnless_error hc hr]
    -- the entries about the one failure are the same
    exact ⟨.ok (.result (.error e)), halike.extend (.cons (.same _ rfl) .nil)⟩

/-- Attempts of actions that come to the same result. -/
theorem pairs_attemptUnless_eq {declined : α → Bool} {x y : Action α} {event : String}
    {context : Fields} (hc : Attempt.Clean context) (hx : P.Pairs (· = ·) x y) :
    P.Pairs (· = ·) (attemptUnless declined x event context)
      (attemptUnless declined y event context) := by
  refine (pairs_attemptUnless hc hx).mono fun r r' h => ?_
  cases h with
  | result hsame => rw [hsame.eq]

theorem pairs_attempt_eq {x y : Action α} {event : String} {context : Fields}
    (hc : Attempt.Clean context) (hx : P.Pairs (· = ·) x y) :
    P.Pairs (· = ·) (attempt x event context) (attempt y event context) :=
  pairs_attemptUnless_eq hc hx

/-- Attempts go on with related values, or with the result of the same failure. -/
theorem pairs_attempt_bind {x y : Action α} {event : String} {context : Fields}
    {f g : OperationResult α → Action β} (hc : Attempt.Clean context) (hx : P.Pairs Q x y)
    (hok : ∀ a b, Q a b → P.Pairs R (f (.success a)) (g (.success b)))
    (herror : ∀ e, P.Pairs R (f (.ofFailure e)) (g (.ofFailure e))) :
    P.Pairs R (attempt x event context >>= f) (attempt y event context >>= g) := by
  refine pairs_bind (pairs_attemptUnless hc hx) fun r r' h => ?_
  cases h with
  | result hsame =>
    cases hsame with
    | ok hab => exact hok _ _ hab
    | error e => exact herror e

/-- A loop over two lists of related items, by induction on the lists: the items are paired one by
one. -/
theorem pairs_forEach {ι : Type} {E : ι → ι → Prop} {f g : ι → Action α}
    (hf : ∀ i k, E i k → P.Pairs Q (f i) (g k)) {is ks : List ι} (h : List.Forall₂ E is ks) :
    P.Pairs (List.Forall₂ Q) (forEach f is) (forEach g ks) := by
  -- the induction is on the pairing of the lists, so that both loops end at once
  induction h with
  | nil => exact pairs_pure .nil
  | cons hik _ ih =>
    refine pairs_bind (hf _ _ hik) fun a b hab => ?_
    exact pairs_bind ih fun as bs habs => pairs_pure (.cons hab habs)

end Pairing

end JobHerald
