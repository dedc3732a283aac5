import JobHerald.Proofs.Action.Making

/-!
# How a run ends

What a client comes to is decided by the settings of the process, by the clock and by the answer to
the next request.  Steps that only load settings or write log entries change none of these, so that
the end of a run can be named before it begins.

Where several ends are possible, a property tells which of them there may be.

## Main definitions

* `Action.Ends` — a run with its result and its requests.
* `Action.Trades` — a run that ends as a property tells.
* `Action.Later` — a world that shows the same settings after some requests.

## Main results

* `Action.Ends.after` — how a run goes on after another one.
* `Action.Ends.bind`, `Action.Ends.handle_error`, … — how a run ends that is put together.
* `Action.Trades.mono` — a weaker property of the end.
-/

namespace JobHerald.Action

variable {α β : Type} {s : Surroundings} {w w' : World}

/-- A world some requests later, which shows the same settings. -/
structure Later (s : Surroundings) (w w' : World) (rqs : List Request) : Prop where
  /-- The settings are those that were there to be had before. -/
  settings : (settings s w').1 = (settings s w).1
  /-- The requests have been made in between. -/
  requests : (w'.journal.filterMap Effect.request?) = w.journal.filterMap Effect.request? ++ rqs

/-- A run that ends in a result after some requests. -/
def Ends (x : Action α) (s : Surroundings) (w : World) (r : Except Failure α)
    (rqs : List Request) : Prop :=
  ∃ w' es, x s w = (r, w') ∧ w'.journal = w.journal ++ es ∧ es.filterMap Effect.request? = rqs ∧
    (settings s w').1 = (settings s w).1

/-- A run that ends in a result after some requests, as a property tells. -/
def Trades (x : Action α) (s : Surroundings) (w : World)
    (P : Except Failure α → List Request → Prop) : Prop :=
  ∃ r rqs, x.Ends s w r rqs ∧ P r rqs

theorem Later.refl (s : Surroundings) (w : World) : Later s w w [] := ⟨rfl, by simp⟩

theorem Later.trans {w'' : World} {rqs rqs' : List Request} (h : Later s w w' rqs)
    (h' : Later s w' w'' rqs') : Later s w w'' (rqs ++ rqs') :=
  ⟨h'.settings.trans h.settings, by rw [h'.requests, h.requests, List.append_assoc]⟩

/-- The next request is the same as before if none was made in between. -/
theorem Later.requestCount_eq (h : Later s w w' []) : requestCount w' = requestCount w := by
  rw [requestCount, h.requests, List.append_nil, requestCount]

section Rules

variable {x : Action α} {f : α → Action β} {a : α} {e : Failure} {r : Except Failure β}
  {rqs rqs' : List Request}

/-- A run that only writes effects, and leaves the settings alone. -/
theorem ends_extend {r : Except Failure α} {es : List Effect} (hrun : x s w = (r, w.extend es)) :
    x.Ends s w r (es.filterMap Effect.request?) := by
  exact ⟨w.extend es, es, hrun, rfl, rfl, settings_of_extend s w es⟩

theorem ends_ofExcept (r : Except Failure α) : (ofExcept r).Ends s w r [] :=
  have hrun : ofExcept r s w = (r, w.extend []) := by rw [ofExcept_apply, World.extend_nil]
  ends_extend hrun

theorem ends_pure (a : α) : (pure a : Action α).Ends s w (.ok a) [] := ends_ofExcept (.ok a)

theorem ends_fail (e : Failure) : (fail e : Action α).Ends s w (.error e) [] :=
  ends_ofExcept (.error e)

theorem ends_log (l : Log.Level) (event : String) (fs : Fields) :
    (log l event fs).Ends s w (.ok ()) [] :=
  ends_extend (log_apply l event fs s w)

/-- A request is answered with the next reply, which is the one for the number of requests made so
far. -/
theorem ends_send (rq : Request) :
    (send rq).Ends s w (s.replies (requestCount w)) [rq] := by
  have hrun : send rq s w = (s.replies (requestCount w), w.extend [.requested rq]) := by
    rw [send]
    cases s.replies (requestCount w) <;> rfl
  exact ends_extend hrun

/-- The settings of the process, whether they have been loaded before or not. -/
theorem ends_settings : settings.Ends s w (settings s w).1 [] :=
  ⟨(settings s w).2, [], rfl, by rw [(settings_quietly s w).1, List.append_nil], rfl,
    settings_again s w⟩

/-- The clock shows the same time throughout. -/
theorem ends_clock : clock.Ends s w ((Timestamp.ofClock s.clock).mapError Failure.calendar
    |>.map fun _ => s.clock) [] := by
  have hrun : clock s w = (((Timestamp.ofClock s.clock).mapError Failure.calendar
      |>.map fun _ => s.clock), w.extend []) := by
    rw [clock, World.extend_nil]
    cases Timestamp.ofClock s.clock <;> rfl
  exact ends_extend hrun

/-- A run makes the same requests, however they are told. -/
theorem Ends.requests_eq {r r' : Except Failure α} (hx : x.Ends s w r rqs)
    (hx' : x.Ends s w r' rqs') : rqs' = rqs := by
  obtain ⟨w', es, hrun, hjournal, rfl, -⟩ := hx
  obtain ⟨w'', es', hrun', hjournal', rfl, -⟩ := hx'
  -- both are about one run, whose journal has grown by one list of effects
  rw [hrun] at hrun'
  cases hrun'
  rw [hjournal] at hjournal'
  rw [List.append_cancel_left hjournal']

/-- What is the same in every run makes no request, wherever it is run: all that it writes are log
entries. -/
theorem Makes.ends {P : Except Failure α → Prop} (hx : x.Makes P) :
    ∃ r, P r ∧ ∀ s w, x.Ends s w r [] := by
  obtain ⟨r, es, hes, hP, hrun⟩ := hx
  refine ⟨r, hP, fun s w => ?_⟩
  -- all effects are log entries
  have hquiet : es.filterMap Effect.request? = [] := by
    rw [List.filterMap_eq_nil_iff]
    intro e he
    cases e with
    | logged entry => rfl
    | _ => cases hes _ he
  -- the same entries are written in this run, and none of them is a request
  rw [← hquiet]
  exact ends_extend (hrun s w)

/-- After a run, another one goes on from the world that it leaves, and the requests of both follow
each other.  This is the rule behind all that put two runs together. -/
theorem Ends.after {r₀ : Except Failure α} (hx : x.Ends s w r₀ rqs) :
    ∃ w', x s w = (r₀, w') ∧ Later s w w' rqs ∧
      ∀ {γ : Type} {y z : Action γ} {r : Except Failure γ} {rqs' : List Request},
        y.Ends s w' r rqs' → z s w = y s w' → z.Ends s w r (rqs ++ rqs') := by
  obtain ⟨w', es, hrun, hjournal, rfl, hsettings⟩ := hx
  refine ⟨w', hrun, ⟨hsettings, by rw [hjournal, List.filterMap_append]⟩, ?_⟩
  rintro γ y z r rqs' ⟨w'', es', hrun', hjournal', rfl, hsettings'⟩ hz
  refine ⟨w'', es ++ es', hz.trans hrun', ?_, List.filterMap_append .., hsettings'.trans hsettings⟩
  rw [hjournal', hjournal, List.append_assoc]

/-- The second action meets a world that is later by the requests of the first, and shows the same
settings. -/
theorem Ends.bind (hx : x.Ends s w (.ok a) rqs)
    (hf : ∀ w', Later s w w' rqs → (f a).Ends s w' r rqs') :
    (x >>= f).Ends s w r (rqs ++ rqs') := by
  obtain ⟨w', hrun, hlater, hgo⟩ := hx.after
  exact hgo (hf w' hlater) (bind_ok hrun)

/-- What comes before the first request: an action that makes none, and the second one makes them
all. -/
theorem Ends.bind_first (hx : x.Ends s w (.ok a) [])
    (hf : ∀ w', Later s w w' [] → (f a).Ends s w' r rqs) : (x >>= f).Ends s w r rqs :=
  hx.bind hf

/-- What comes after the last request: the first action makes them all, and the second one none. -/
theorem Ends.bind_last (hx : x.Ends s w (.ok a) rqs) (hf : ∀ w', (f a).Ends s w' r []) :
    (x >>= f).Ends s w r rqs := by
  have h := hx.bind fun w' _ => hf w'
  rwa [List.append_nil] at h

/-- If the first action fails, the second one is not reached, and makes no request. -/
theorem Ends.bind_error (hx : x.Ends s w (.error e) rqs) : (x >>= f).Ends s w (.error e) rqs := by
  obtain ⟨w', es, hrun, hrest⟩ := hx
  exact ⟨w', es, Action.bind_error hrun, hrest⟩

theorem Ends.handle_ok {g : Failure → Action α} (hx : x.Ends s w (.ok a) rqs) :
    (x.handle g).Ends s w (.ok a) rqs := by
  obtain ⟨w', es, hrun, hrest⟩ := hx
  exact ⟨w', es, Action.handle_ok hrun, hrest⟩

/-- A failure that is turned into another result without a further request. -/
theorem Ends.handle_error {g : Failure → Action α} {r : Except Failure α}
    (hx : x.Ends s w (.error e) rqs) (hg : ∀ w', (g e).Ends s w' r []) :
    (x.handle g).Ends s w r rqs := by
  obtain ⟨w', hrun, -, hgo⟩ := hx.after
  have h := hgo (hg w') (Action.handle_error hrun)
  rwa [List.append_nil] at h

/-- An attempt makes the requests of what it attempts, and returns whatever comes of it. -/
theorem Ends.attemptUnless {declined : α → Bool} {event : String} {context : Fields}
    {r : Except Failure α} (hc : Attempt.Clean context) (hx : x.Ends s w r rqs) :
    (attemptUnless declined x event context).Ends s w (.ok (Attempt.result declined r)) rqs := by
  obtain ⟨w', es, hrun, hjournal, hrqs, hsettings⟩ := hx
  cases r with
  | ok a => exact ⟨w', es, attemptUnless_ok hc hrun, hjournal, hrqs, hsettings⟩
  | error e =>
    -- the entry about the failure comes after all effects of the action, and is no request
    refine ⟨_, es ++ [.logged (Attempt.entry event context (.ofFailure e : OperationResult α))],
      attemptUnless_error hc hrun, ?_, ?_, (settings_of_extend ..).trans hsettings⟩
    · rw [World.journal_extend, hjournal, List.append_assoc]
    · rw [List.filterMap_append, hrqs]
      exact List.append_nil rqs

/-- The end of a check: a log entry, and then a value or a failure. -/
theorem ends_log_then (l : Log.Level) (event : String) (fs : Fields) {x : Action α}
    {r : Except Failure α} (hx : ∀ w', x.Ends s w' r []) :
    (log l event fs >>= fun _ => x).Ends s w r [] :=
  (ends_log l event fs).bind fun w' _ => hx w'

/-- A log entry about a value that is returned: the requests and the value stay as they are. -/
theorem ends_logged {r : Except Failure α} (hx : x.Ends s w r rqs) (l : Log.Level)
    (event : String) (fs : α → Fields) :
    (x >>= fun a => log l event (fs a) >>= fun _ => pure a).Ends s w r rqs := by
  cases r with
  | error e => exact hx.bind_error
  | ok a => exact hx.bind_last fun w' => ends_log_then l event (fs a) fun _ => ends_pure a

/-- The context that is bound in a dispatch changes neither the requests nor the settings. -/
theorem Ends.within {b : Log.Binding} {r : Except Failure α}
    (hx : x.Ends s { w with context := Log.enter w.context (b.fields s.fresh) } r rqs) :
    (within b x).Ends s w r rqs := by
  obtain ⟨w', es, hrun, hjournal, hrqs, hsettings⟩ := hx
  refine ⟨_, es, within_apply hrun, hjournal, hrqs, ?_⟩
  -- neither entering a context nor leaving it touches the settings
  rw [settings_of_context, hsettings, settings_of_context]

/-- A weaker property of the end. -/
theorem Trades.mono {P Q : Except Failure α → List Request → Prop} (hx : x.Trades s w P)
    (h : ∀ r rqs, P r rqs → Q r rqs) : x.Trades s w Q := by
  obtain ⟨r, rqs, hends, hP⟩ := hx
  exact ⟨r, rqs, hends, h r rqs hP⟩

end Rules

end JobHerald.Action
