import JobHerald.Job.Notifier
import JobHerald.Proofs.Channel.Wire
import JobHerald.Proofs.Totality

/-!
# Dispatching in order

A dispatch is one delivery after the other.  Each delivery is what it would be alone, on the
transport as the deliveries before it have left it, and each is reported before the next one
begins.  What the metrics do with the reports makes no difference.

## Main definitions

* `Effect.isTold` — what is told to someone outside: requests and reports to the metrics.
* `Action.Tells` — a run that returns a value after some effects were told.
* `Metrics.Aside` — sinks that leave the transport and the settings alone.
* `Dispatch.Deliveries` — one delivery after the other, with the attempts and the effects.
* `Dispatch.InOrder` — dispatching that is one delivery after the other.

## Main results

* `Dispatch.wire_deliver` — a delivery through tame channels stays on the wire.
* `Dispatch.forEach_of_deliveries` — a dispatch makes the deliveries, whatever the sink does.
* `Dispatch.dispatch_in_order` — **a dispatch is the deliveries of its entries, in order**.
-/

namespace JobHerald

open JobHerald.Action

/-! ### Sinks -/

/-- Whether an effect is told to someone outside: a request, or a report to the metrics. -/
def Effect.isTold (e : Effect) : Bool := e.isRequest || e.measurement?.isSome

namespace Action

variable {α β : Type} {s : Surroundings} {w : World}

/-- A run that returns a value after some effects were told. -/
def Tells (x : Action α) (s : Surroundings) (w : World) (a : α) (told : List Effect) : Prop :=
  ∃ w' es, x s w = (.ok a, w') ∧ w'.journal = w.journal ++ es ∧ es.filter Effect.isTold = told

theorem tells_pure (a : α) : (pure a : Action α).Tells s w a [] :=
  ⟨w, [], rfl, (List.append_nil _).symm, rfl⟩

/-- Log entries are not told. -/
theorem tells_info (event : String) (fs : Fields) : (info event fs).Tells s w () [] :=
  ⟨_, [_], info_apply event fs s w, rfl, rfl⟩

theorem Tells.bind {x : Action α} {f : α → Action β} {a : α} {b : β} {told told' : List Effect}
    (hx : x.Tells s w a told) (hf : ∀ w', (f a).Tells s w' b told') :
    (x >>= f).Tells s w b (told ++ told') := by
  obtain ⟨w', es, hrun, hjournal, rfl⟩ := hx
  obtain ⟨w'', es', hrun', hjournal', rfl⟩ := hf w'
  refine ⟨w'', es ++ es', (bind_ok hrun).trans hrun', ?_, List.filter_append ..⟩
  rw [hjournal', hjournal, List.append_assoc]

/-- An attempt of something that returns tells the same, and returns the result as a success. -/
theorem Tells.attempt {x : Action α} {a : α} {told : List Effect} {context : Fields}
    (hx : x.Tells s w a told) (hc : Attempt.Clean context) (event : String) :
    (attempt x event context).Tells s w (.success a) told := by
  obtain ⟨w', es, hrun, hjournal, htold⟩ := hx
  exact ⟨w', es, attempt_ok hc hrun, hjournal, htold⟩

end Action

/-- A sink that leaves the transport and the settings alone.  Of each call it makes some notes;
whatever else it writes, and whether it fails, may depend on anything. -/
structure Metrics.Aside (m : Metrics)
    (notes : Option Trigger → Option ChannelKind → DeliveryOutcome → List Effect) : Prop where
  /-- The notes of a call are told, and nothing else is. -/
  run : ∀ t k o s w, ∃ r w' es, m t k o s w = (r, w') ∧ w'.settings = w.settings ∧
    w'.journal = w.journal ++ es ∧ es.filter Effect.isTold = notes t k o
  /-- No note is a request. -/
  silent : ∀ t k o, ∀ e ∈ notes t k o, e.isRequest = false

namespace Metrics

/-- The notes of a sink that keeps what it is told. -/
def kept (t : Option Trigger) (k : Option ChannelKind) (o : DeliveryOutcome) : List Effect :=
  [.measured t k o]

/-- The collector keeps each call, whether it fails or not. -/
theorem aside_collector (fault : Nat → Option Failure) : (collector fault).Aside kept where
  run t k o s w := ⟨_, _, [_], collector_apply fault t k o s w, rfl, rfl, rfl⟩
  silent t k o e he := by
    rw [kept, List.mem_singleton] at he
    rw [he]
    rfl

end Metrics

/-! ### Deliveries on the wire -/

namespace Dispatch

theorem wire_attemptThrough (t : Option Trigger) (kind : ChannelKind) {c : Channel} (hc : c.Tame)
    (n : Notice) : (attemptThrough t kind c n).StaysIn .wire := by
  have hinvoke : (c.invoke n).StaysIn .wire := by
    rw [Channel.invoke]
    split
    · exact hc.deliver n
    · exact wire_fail _
  -- the channel is also asked for its label
  have hlabel : (do return (← c.label).plain : Action String).StaysIn .wire :=
    staysIn_bind hc.label fun _ => staysIn_pure _
  have hentries : ∀ e : Effect, e.isEntry = true → Scope.wire.writes e := fun _ h => Or.inl h
  refine staysIn_bind
    (staysIn_attemptUnless (clean_kind_capability kind _) hentries hinvoke) fun r => ?_
  refine staysIn_bind ?_ fun _ => ?_
  · cases r.outcome with
    | delivered => exact wire_log _ _ _
    | skipped => exact staysIn_pure ()
    | failed => exact staysIn_pure ()
  · refine staysIn_bind ?_ fun _ => staysIn_pure _
    exact staysIn_bind (staysIn_attempt (clean_kind kind) hentries hlabel) fun _ => staysIn_pure _

/-- A delivery through channels that stay on the wire stays there. -/
theorem wire_deliver {d : Dispatch} (hd : d.maker.Tame) (t : Option Trigger)
    (receiver : Option String) (kind : ChannelKind) (config : Option ChannelConfig) (n : Notice) :
    (d.deliver t receiver kind config n).StaysIn .wire := by
  refine staysIn_bind_of_canReturn (staysIn_attempt (clean_kind kind) (fun _ h => Or.inl h)
    (hd.making kind config d.settings receiver)) fun made hmade => ?_
  cases hvalue : made.value? with
  | none => exact staysIn_pure _
  | some c =>
    have hc := canReturn_of_attempt (clean_kind kind) hmade hvalue
    exact wire_attemptThrough t kind (hd.made kind config d.settings receiver c hc) n

/-- An attempt names its trigger and its kind of channel, whether or not a channel could be made. -/
theorem canReturn_deliver {d : Dispatch} {t : Option Trigger} {receiver : Option String}
    {kind : ChannelKind} {config : Option ChannelConfig} {n : Notice} {a : ChannelAttempt}
    (h : (d.deliver t receiver kind config n).CanReturn a) :
    a.trigger = t ∧ a.kind = some kind := by
  obtain ⟨made, -, h⟩ := canReturn_bind h
  cases hvalue : made.value? with
  | none =>
    rw [hvalue] at h
    rw [← canReturn_pure h]
    exact ⟨rfl, rfl⟩
  | some c =>
    rw [hvalue] at h
    obtain ⟨r, -, h⟩ := canReturn_bind h
    obtain ⟨u, -, h⟩ := canReturn_bind h
    obtain ⟨label, -, h⟩ := canReturn_bind h
    rw [← canReturn_pure h]
    exact ⟨rfl, rfl⟩

/-! ### One delivery after the other -/

/-- One delivery after the other, none of them reported: each is made in the world that the
ones before it have left, and has its attempt and its effects. -/
inductive Deliveries (d : Dispatch) (t : Trigger) (receiver : Option String) (n : Notice)
    (s : Surroundings) :
    World → List (ChannelKind × Option ChannelConfig) → List (ChannelAttempt × List Effect) → Prop
  /-- There is nothing to deliver. -/
  | nil (w : World) : Deliveries d t receiver n s w [] []
  /-- One delivery, and then the others. -/
  | cons {w w' : World} {kind : ChannelKind} {config : Option ChannelConfig}
      {entries : List (ChannelKind × Option ChannelConfig)} {a : ChannelAttempt}
      {es : List Effect} {runs : List (ChannelAttempt × List Effect)}
      (hrun : d.deliver (some t) receiver kind config n s w = (.ok a, w'))
      (hjournal : w'.journal = w.journal ++ es)
      (hrest : Deliveries d t receiver n s w' entries runs) :
      Deliveries d t receiver n s w ((kind, config) :: entries) ((a, es) :: runs)

variable {d : Dispatch} {t : Trigger} {receiver : Option String} {n : Notice} {s : Surroundings}

/-- All entries can be delivered, since a delivery never fails: the induction is on the entries,
each from the world that the one before has left. -/
theorem exists_deliveries (hd : d.maker.Tame)
    (entries : List (ChannelKind × Option ChannelConfig)) :
    ∀ w, ∃ runs, d.Deliveries t receiver n s w entries runs := by
  induction entries with
  | nil => exact fun w => ⟨[], .nil w⟩
  | cons entry entries ih =>
    intro w
    obtain ⟨a, w', hrun⟩ := d.neverFails_deliver (some t) receiver entry.1 entry.2 n s w
    -- a channel that looks at the transport only adds to the journal what it would add to any
    obtain ⟨r, settings, es, hwire, -, -⟩ := (wire_deliver hd _ receiver entry.1 entry.2 n).run s w
    obtain ⟨runs, hruns⟩ := ih w'
    rw [hrun] at hwire
    have hjournal : w'.journal = w.journal ++ es :=
      congrArg (fun result => result.2.journal) hwire
    exact ⟨(a, es) :: runs, .cons hrun hjournal hruns⟩

/-- There is one attempt for each entry, with its trigger and its kind. -/
theorem Deliveries.kinds {w : World} {entries : List (ChannelKind × Option ChannelConfig)}
    {runs : List (ChannelAttempt × List Effect)} (h : d.Deliveries t receiver n s w entries runs) :
    runs.map (·.1.kind) = entries.map (some ·.1) ∧ ∀ run ∈ runs, run.1.trigger = some t := by
  induction h with
  | nil w => simp
  | cons hrun hjournal hrest ih =>
    obtain ⟨htrigger, hkind⟩ := canReturn_deliver ⟨_, _, _, hrun⟩
    refine ⟨?_, ?_⟩
    · rw [List.map_cons, List.map_cons, hkind, ih.1]
    · intro run hmem
      rcases List.mem_cons.mp hmem with rfl | hmem
      · exact htrigger
      · exact ih.2 run hmem

/-! ### Reports to the metrics -/

variable {m : Metrics} {notes : Option Trigger → Option ChannelKind → DeliveryOutcome → List Effect}

/-- A report is an attempt to call the sink: it never fails, and tells the notes of the call. -/
theorem report_run (hm : m.Aside notes) (d : Dispatch) (a : ChannelAttempt) (s : Surroundings)
    (w : World) : ∃ w' es, report { d with metrics := m } a s w = (.ok (), w') ∧
      w'.settings = w.settings ∧ w'.journal = w.journal ++ es ∧
      es.filter Effect.isTold = notes a.trigger a.kind a.outcome := by
  obtain ⟨r, w', es, hrun, hsettings, hjournal, htold⟩ := hm.run a.trigger a.kind a.outcome s w
  -- a sink that fails is logged, after what it has told
  cases r with
  | ok u => exact ⟨w', es, bind_ok (attempt_ok Attempt.clean_nil hrun), hsettings, hjournal, htold⟩
  | error e =>
    obtain ⟨entry, hfail⟩ : ∃ entry, attempt (m a.trigger a.kind a.outcome)
        "notification_metric_failed" [] s w = (.ok (.ofFailure e), w'.extend [.logged entry]) :=
      ⟨_, attempt_error Attempt.clean_nil hrun⟩
    refine ⟨_, es ++ [.logged entry], bind_ok hfail, hsettings, ?_, ?_⟩
    · rw [World.journal_extend, hjournal, List.append_assoc]
    · rw [List.filter_append, htold]
      exact List.append_nil _

/-- What was told while one entry was delivered and reported. -/
def told (notes : Option Trigger → Option ChannelKind → DeliveryOutcome → List Effect)
    (t : Trigger) (run : ChannelAttempt × List Effect) : List Effect :=
  run.2.filter Effect.isRequest ++ notes (some t) run.1.kind run.1.outcome

/-- On the wire, requests are all that is told: there are no reports, trackings or look-ups. -/
theorem filter_isTold {es : List Effect} (h : ∀ e ∈ es, Scope.wire.writes e) :
    es.filter Effect.isTold = es.filter Effect.isRequest := by
  refine List.filter_congr fun e he => ?_
  rcases h e he with hentry | hrequest
  · cases e with
    | logged entry => rfl
    | _ => cases hentry
  · rw [Effect.isTold, hrequest]
    rfl

/-- A dispatch makes the deliveries that are made without it, in any world that looks the same
on the wire, and reports each of them before it goes on. -/
theorem forEach_of_deliveries (hd : d.maker.Tame) (hm : m.Aside notes) {w : World}
    {entries : List (ChannelKind × Option ChannelConfig)}
    {runs : List (ChannelAttempt × List Effect)} (h : d.Deliveries t receiver n s w entries runs) :
    ∀ v, Scope.wire.Alike w v →
      (forEach (deliverEntry { d with metrics := m } t receiver n) entries).Tells s v
        (runs.map (·.1)) (runs.flatMap (told notes t)) := by
  induction h with
  | nil w => exact fun v _ => tells_pure []
  | @cons w w' kind config entries a es runs hrun hjournal hrest ih =>
    intro v hv
    -- the delivery is the same in both worlds
    obtain ⟨r, settings, es', hes, -, hsame⟩ := wire_deliver hd (some t) receiver kind config n s w
    have hw := hsame w (.refl w)
    rw [hrun, Prod.mk.injEq] at hw
    obtain ⟨rfl, rfl⟩ := hw
    obtain rfl : es' = es := List.append_cancel_left hjournal
    have hdeliver := hsame v hv
    have halike := hv.extend es' settings
    -- the report leaves alone what the next delivery looks at
    obtain ⟨v₁, es₁, hreport, hsettings, hjournal₁, htold₁⟩ :=
      report_run hm d a s { v.extend es' with settings := settings }
    have htrigger : a.trigger = some t := (canReturn_deliver ⟨_, _, _, hrun⟩).1
    rw [htrigger] at htold₁
    have hquiet : es₁.filter Effect.isRequest = [] := by
      rw [List.filter_eq_nil_iff]
      intro e he hrequest
      have hmem : e ∈ notes (some t) a.kind a.outcome := by
        rw [← htold₁, List.mem_filter]
        exact ⟨he, by rw [Effect.isTold, hrequest]; rfl⟩
      rw [hm.silent _ _ _ e hmem] at hrequest
      cases hrequest
    have halike₁ : Scope.wire.Alike { w.extend es' with settings := settings } v₁ := by
      refine ⟨hsettings.trans halike.settings, ?_⟩
      rw [hjournal₁, List.filter_append, ← halike.seen]
      exact (congrArg _ hquiet).trans (List.append_nil _)
    obtain ⟨v₂, es₂, hrun₂, hjournal₂, htold₂⟩ := ih v₁ halike₁
    have hentry : deliverEntry { d with metrics := m } t receiver n (kind, config) s v
        = (.ok a, v₁) := (bind_ok hdeliver).trans (bind_ok hreport)
    refine ⟨v₂, es' ++ es₁ ++ es₂, (bind_ok hentry).trans (bind_ok hrun₂), ?_, ?_⟩
    · rw [hjournal₂, hjournal₁]
      simp [World.extend]
    · rw [List.filter_append, List.filter_append, filter_isTold hes, htold₁, htold₂]
      rfl

theorem report_tells (hm : m.Aside notes) (d : Dispatch) (a : ChannelAttempt) (s : Surroundings)
    (w : World) : (report { d with metrics := m } a).Tells s w ()
      (notes a.trigger a.kind a.outcome) := by
  obtain ⟨w', es, hrun, -, hjournal, htold⟩ := report_run hm d a s w
  exact ⟨w', es, hrun, hjournal, htold⟩

/-- Without channels, only one attempt is reported, which is skipped and has no kind. -/
theorem skip_tells (hm : m.Aside notes) (d : Dispatch) (t : Trigger) (s : Surroundings)
    (w : World) : (skip { d with metrics := m } t).Tells s w ⟨t, [notBound t]⟩
      (notes (some t) none .skipped) := by
  have hrest : ∀ w', (report { d with metrics := m } (notBound t) >>= fun _ =>
      pure (⟨t, [notBound t]⟩ : DispatchReport)).Tells s w' ⟨t, [notBound t]⟩
        (notes (some t) none .skipped ++ []) :=
    fun w' => (report_tells hm d (notBound t) s w').bind fun _ => tells_pure _
  rw [List.append_nil] at hrest
  exact (tells_info _ _).bind hrest

/-! ### Dispatching -/

/-- A binding without channels, or none at all. -/
def IsUnbound (b : Option ChannelBinding) : Prop := ∀ b', b = some b' → b'.kinds = []

/-- Dispatching that is one delivery after the other, whatever becomes of them, and whatever a
sink does with the reports. -/
structure InOrder (d : Dispatch) : Prop where
  /-- There is one attempt for each entry: the one that its delivery alone would have made, where
  the deliveries before it have left the transport.  It is reported before the next delivery. -/
  bound : ∀ (t : Trigger) (b : ChannelBinding) (n : Notice) (receiver : Option String)
    (s : Surroundings) (w : World), b.kinds ≠ [] →
    ∃ runs, d.Deliveries t receiver n s w b.entries runs ∧
      runs.map (·.1.kind) = b.kinds.map some ∧
      ∀ m notes, Metrics.Aside m notes →
        (dispatch { d with metrics := m } t (some b) n receiver).Tells s w ⟨t, runs.map (·.1)⟩
          (runs.flatMap (told notes t))
  /-- Without channels there is one attempt, which is skipped and reported, and no request. -/
  unbound : ∀ (t : Trigger) (b : Option ChannelBinding) (n : Notice) (receiver : Option String)
    (s : Surroundings) (w : World), IsUnbound b → ∀ m notes, Metrics.Aside m notes →
      (dispatch { d with metrics := m } t b n receiver).Tells s w ⟨t, [notBound t]⟩
        (notes (some t) none .skipped)
  /-- A workspace without a policy counts as one without channels. -/
  noPolicy : ∀ (r : Repository) (analytics : Analytics) (urls : WebUrls) (workspace : Workspace)
    (t : Trigger) (n : Notice) (s : Surroundings) (w : World),
    IsUnbound (workspace.policy.bind (·.bindingFor t)) → ∀ m notes, Metrics.Aside m notes →
      (Notifier.dispatchFor ⟨r, analytics, dispatcher { d with metrics := m }, urls⟩
        workspace t n).Tells s w (some ⟨t, [notBound t]⟩) (notes (some t) none .skipped)

theorem dispatch_tells (hd : d.maker.Tame) {b : ChannelBinding} (hb : b.kinds ≠ []) {w : World}
    {runs : List (ChannelAttempt × List Effect)}
    (h : d.Deliveries t receiver n s w b.entries runs) (hm : m.Aside notes) :
    (dispatch { d with metrics := m } t (some b) n receiver).Tells s w ⟨t, runs.map (·.1)⟩
      (runs.flatMap (told notes t)) := by
  have hdispatch : dispatch { d with metrics := m } t (some b) n receiver =
      deliverAll { d with metrics := m } t b n receiver := by
    rw [dispatch, if_neg (by simpa using hb)]
  -- the loop tells the deliveries, each with what its report tells
  have hentries : (forEach (deliverEntry { d with metrics := m } t receiver n) b.entries).Tells s w
      (runs.map (·.1)) (runs.flatMap (told notes t)) :=
    forEach_of_deliveries hd hm h w (.refl w)
  have hall := hentries.bind (f := fun attempts => logReport ⟨t, attempts⟩ >>= fun _ =>
    pure (⟨t, attempts⟩ : DispatchReport)) fun w' => (tells_info _ _).bind fun _ => tells_pure _
  rw [List.append_nil, List.append_nil] at hall
  rw [hdispatch]
  exact hall

theorem dispatch_unbound {b : Option ChannelBinding} (hb : IsUnbound b) :
    d.dispatch t b n receiver = d.skip t := by
  cases b with
  | none => rfl
  | some b =>
    rw [dispatch, hb b rfl]
    rfl

/-- A missing policy is logged, and told to nobody. -/
theorem bindingFor_tells (workspace : Workspace) (w : World) :
    (Notifier.bindingFor workspace t).Tells s w (workspace.policy.bind (·.bindingFor t)) [] := by
  rw [Notifier.bindingFor]
  cases workspace.policy with
  | some p => exact tells_pure _
  | none => exact ⟨_, [_], rfl, rfl, rfl⟩

theorem dispatchFor_tells (hm : m.Aside notes) {r : Repository} {analytics : Analytics}
    {urls : WebUrls} {workspace : Workspace} (w : World)
    (hb : IsUnbound (workspace.policy.bind (·.bindingFor t))) :
    (Notifier.dispatchFor ⟨r, analytics, dispatcher { d with metrics := m }, urls⟩
      workspace t n).Tells s w (some ⟨t, [notBound t]⟩) (notes (some t) none .skipped) := by
  -- wherever the look-up of the binding ends, the dispatch is skipped
  have hskip : ∀ w', (dispatch { d with metrics := m } t (workspace.policy.bind (·.bindingFor t)) n
      (Notifier.receiverOf workspace)).Tells s w' ⟨t, [notBound t]⟩
        (notes (some t) none .skipped) := by
    intro w'
    rw [dispatch_unbound hb]
    exact skip_tells hm d t s w'
  have hbound := (bindingFor_tells workspace w).bind (f := fun b =>
    dispatch { d with metrics := m } t b n (Notifier.receiverOf workspace)) hskip
  have hattempt := hbound.attempt Attempt.clean_nil "notification_dispatch_failed"
  have hvalue := hattempt.bind (f := fun r => pure r.value?) fun _ => tells_pure _
  rw [List.nil_append, List.append_nil] at hvalue
  exact hvalue

/-- **A dispatch is the deliveries of its entries, in order**, for channels that look at nothing
but the transport.  Those of this library do. -/
theorem dispatch_in_order :
    ChannelMaker.Tame Channel.create ∧ ∀ d : Dispatch, d.maker.Tame → d.InOrder := by
  refine ⟨Channel.tame_create, fun d hd => ⟨?_, ?_, ?_⟩⟩
  · intro t b n receiver s w hb
    obtain ⟨runs, hruns⟩ : ∃ runs, d.Deliveries t receiver n s w b.entries runs :=
      exists_deliveries hd b.entries w
    refine ⟨runs, hruns, ?_, fun m notes hm => dispatch_tells hd hb hruns hm⟩
    rw [hruns.kinds.1, ← b.map_fst_entries, List.map_map]
    rfl
  · intro t b n receiver s w hb m notes hm
    rw [dispatch_unbound hb]
    exact skip_tells hm d t s w
  · intro r analytics urls workspace t n s w hb m notes hm
    exact dispatchFor_tells hm w hb

theorem dispatch_in_order_busy :
    ChannelMaker.Tame Channel.create ∧ ∃ runs : List (ChannelAttempt × List Effect),
      runs.map (·.1.kind) = [some .slack, some .email, some .slack] ∧
      (dispatch ⟨none, Metrics.collector fun _ => some .longInteger, Channel.create⟩ .failure
        (some ⟨[.slack, .email, .slack], none, none⟩) (.test "ping") none).Tells .busy .initial
          ⟨.failure, runs.map (·.1)⟩ (runs.flatMap (told Metrics.kept .failure)) := by
  obtain ⟨htame, horder⟩ := dispatch_in_order
  obtain ⟨runs, -, hkinds, htells⟩ := (horder ⟨none, Metrics.logging, Channel.create⟩ htame).bound
    .failure ⟨[.slack, .email, .slack], none, none⟩ (.test "ping") none .busy .initial (by decide)
  exact ⟨htame, runs, hkinds, htells _ _ (Metrics.aside_collector _)⟩

end Dispatch

end JobHerald
