import JobHerald.Log.Context
import JobHerald.Sink

/-!
# Runs of actions

How a run of an action is taken apart: what comes after a step that succeeded, what
after one that failed, and what an attempt makes of either.

## Main definitions

* `World.extend` — a world with further effects in its journal.
* `Attempt.Clean` — contexts that leave the names alone that an attempt uses itself.
* `Attempt.entry` — the log entry of a failed attempt.
* `Attempt.result` — what an attempt makes of a result.
* `Action.CanReturn` — what an action may return.

## Main results

* `Action.attemptUnless_ok`, `Action.attemptUnless_error` — **an attempt returns whatever
  happens**, and only a failure is logged.
-/

namespace JobHerald

/-! ### Journals that grow -/

/-- The world with further effects in its journal. -/
def World.extend (w : World) (es : List Effect) : World := { w with journal := w.journal ++ es }

namespace World

@[simp] theorem settings_extend (w : World) (es : List Effect) :
    (w.extend es).settings = w.settings := rfl

@[simp] theorem context_extend (w : World) (es : List Effect) :
    (w.extend es).context = w.context := rfl

@[simp] theorem journal_extend (w : World) (es : List Effect) :
    (w.extend es).journal = w.journal ++ es := rfl

@[simp] theorem extend_nil (w : World) : w.extend [] = w := by
  simp [extend]

@[simp] theorem extend_extend (w : World) (es fs : List Effect) :
    (w.extend es).extend fs = w.extend (es ++ fs) := by
  simp [extend]

end World

namespace Action

variable {α β : Type} {s : Surroundings} {w w' : World}

/-! ### Sequences -/

theorem bind_ok {x : Action α} {f : α → Action β} {a : α} (h : x s w = (.ok a, w')) :
    (x >>= f) s w = f a s w' := by
  rw [bind_apply, h]

theorem bind_error {x : Action α} {f : α → Action β} {e : Failure}
    (h : x s w = (.error e, w')) : (x >>= f) s w = (.error e, w') := by
  rw [bind_apply, h]

@[simp] theorem ofExcept_apply (r : Except Failure α) (s : Surroundings) (w : World) :
    ofExcept r s w = (r, w) := by
  cases r <;> rfl

@[simp] theorem record_apply (e : Effect) (s : Surroundings) (w : World) :
    record e s w = (.ok (), w.extend [e]) := rfl

@[simp] theorem log_apply (l : Log.Level) (event : String) (fs : Fields) (s : Surroundings)
    (w : World) : log l event fs s w = (.ok (), w.extend [.logged ⟨l, event, fs⟩]) := rfl

@[simp] theorem info_apply (event : String) (fs : Fields) (s : Surroundings) (w : World) :
    info event fs s w = (.ok (), w.extend [.logged ⟨.info, event, fs⟩]) := rfl

/-! ### Settings -/

/-- Settings that can be had once can be had again: they are kept in the world once they have been
loaded, and a failure to load them repeats itself. -/
theorem settings_again (s : Surroundings) (w : World) :
    (settings s (settings s w).2).1 = (settings s w).1 := by
  simp only [Action.settings]
  -- what has been loaded once is kept; what could not be loaded is tried again, and fails alike
  cases hknown : w.settings with
  | some known => simp only [hknown]
  | none =>
    cases hload : Settings.ofEnvironment s.environment s.file with
    | ok known => rfl
    | error f => simp only [hknown]

/-- Effects do not change the settings that can be had. -/
theorem settings_of_extend (s : Surroundings) (w : World) (es : List Effect) :
    (settings s (w.extend es)).1 = (settings s w).1 := by
  rw [Action.settings, Action.settings, World.settings_extend]
  cases w.settings with
  | some known => rfl
  | none => cases Settings.ofEnvironment s.environment s.file <;> rfl

/-- Nor does the context of log entries. -/
theorem settings_of_context (s : Surroundings) (w : World) (context : Fields) :
    (settings s { w with context }).1 = (settings s w).1 := by
  rw [settings, settings]
  cases w.settings with
  | some known => rfl
  | none => cases Settings.ofEnvironment s.environment s.file <;> rfl

/-- Settings are loaded without an effect, and without a change of the context. -/
theorem settings_quietly (s : Surroundings) (w : World) :
    (settings s w).2.journal = w.journal ∧ (settings s w).2.context = w.context := by
  rw [Action.settings]
  cases w.settings with
  | some known => exact ⟨rfl, rfl⟩
  | none => cases Settings.ofEnvironment s.environment s.file <;> exact ⟨rfl, rfl⟩

/-! ### Failures -/

theorem handle_ok {x : Action α} {f : Failure → Action α} {a : α} (h : x s w = (.ok a, w')) :
    x.handle f s w = (.ok a, w') := by
  simp only [handle, h]

theorem handle_error {x : Action α} {f : Failure → Action α} {e : Failure}
    (h : x s w = (.error e, w')) : x.handle f s w = f e s w' := by
  simp only [handle, h]

theorem guarded_ok {x : Action α} {a : α} (h : x s w = (.ok a, w')) :
    x.guarded s w = (.ok (.ok a), w') := by
  simp only [guarded, h]

theorem guarded_error {x : Action α} {e : Failure} (h : x s w = (.error e, w')) :
    x.guarded s w = (.ok (.error e), w') := by
  simp only [guarded, h]

/-- The end of a dispatch only gives the context back that was saved when it began.  The result of
the action and the effects in the journal stay as they are. -/
theorem within_apply {x : Action α} {b : Log.Binding} {r : Except Failure α}
    (h : x s { w with context := Log.enter w.context (b.fields s.fresh) } = (r, w')) :
    within b x s w =
      (r, { w' with
        context := Log.leave w'.context (Log.save w.context (b.fields s.fresh)) }) := by
  simp only [within, h]

end Action

/-! ### Results of failures -/

namespace OperationResult

variable {α : Type}

/-- The codes of failures that do not know how they are to be classified. -/
def generalCodes : List String := ["CONNECTION_ERROR", "TIMEOUT", "UNEXPECTED_ERROR"]

/-- A failure that does not know its status gets one of three codes. -/
theorem ofFailure_of_ne_operation {e : Failure} (h : ∀ o, e ≠ .operation o) :
    ∃ status message, ∃ code ∈ generalCodes, (status = .transient ∨ status = .permanent) ∧
      (ofFailure e : OperationResult α) = failed status message code := by
  -- trouble with a request, a timeout, or anything else
  rw [ofFailure]
  · split
    · exact ⟨_, _, _, by simp [generalCodes], .inl rfl, rfl⟩
    · split
      · exact ⟨_, _, _, by simp [generalCodes], .inl rfl, rfl⟩
      · exact ⟨_, _, _, by simp [generalCodes], .inr rfl, rfl⟩
  · exact fun o ho => h o ho

theorem status_ofFailure (e : Failure) :
    (ofFailure e : OperationResult α).status ≠ .success ∧
      (ofFailure e : OperationResult α).status ≠ .skipped := by
  -- a failure that knows its status is transient, permanent or unsupported; the others are sorted
  by_cases h : ∃ o, e = .operation o
  · obtain ⟨⟨about, message, code⟩, rfl⟩ := h
    cases about <;> simp [ofFailure, failed, OperationFailure.status]
  · obtain ⟨status, message, code, -, hstatus, heq⟩ :=
      ofFailure_of_ne_operation (α := α) fun o ho => h ⟨o, ho⟩
    rw [heq]
    rcases hstatus with rfl | rfl <;> simp [failed]

/-- What is said of a failure does not depend on the type of the value that is missing. -/
theorem ofFailure_retype {β : Type} (e : Failure) :
    (ofFailure e : OperationResult α).message = (ofFailure e : OperationResult β).message ∧
      (ofFailure e : OperationResult α).errorCode =
        (ofFailure e : OperationResult β).errorCode := by
  rw [ofFailure.eq_def, ofFailure.eq_def]
  split
  · exact ⟨rfl, rfl⟩
  · split
    · exact ⟨rfl, rfl⟩
    · split <;> exact ⟨rfl, rfl⟩

/-- A failure has no value. -/
@[simp] theorem value?_ofFailure (e : Failure) :
    (ofFailure e : OperationResult α).value? = none := by
  simp [value?, isSuccess, (status_ofFailure e).1]

/-- A failure is a failed delivery. -/
@[simp] theorem outcome_ofFailure (e : Failure) :
    (ofFailure e : OperationResult α).outcome = .failed := by
  simp [outcome, isSuccess, isSkipped, status_ofFailure e]

@[simp] theorem outcome_success (a : α) : (success a).outcome = .delivered := rfl

@[simp] theorem outcome_skipped : (skipped : OperationResult α).outcome = .skipped := rfl

end OperationResult

/-- What an attempt makes of a result. -/
def Attempt.result {α : Type} (declined : α → Bool) : Except Failure α → OperationResult α
  | .ok a => if declined a then .skipped else .success a
  | .error e => .ofFailure e

/-! ### Contexts of attempts -/

/-- There is nothing to erase under a name that is not there. -/
theorem Fields.erase_eq_self {name : String} {fs : Fields} (h : name ∉ fs.names) :
    erase name fs = fs := by
  refine List.filter_eq_self.mpr fun m hm => ?_
  have hne : m.1 ≠ name := fun hk => h (hk ▸ List.mem_map_of_mem hm)
  simpa using hne

/-- A call with further names is in order if none of them is an argument already. -/
theorem Signature.fault?_loose {callee : String} {filled : List String} {args : Fields}
    (h : ∀ name ∈ args.names, name ∉ filled) : (loose callee filled).fault? args = none := by
  have hnames : args.names.findSome? (loose callee filled).nameFault? = none := by
    rw [List.findSome?_eq_none_iff]
    intro name hname
    simp [nameFault?, loose, h name hname]
  -- no name is refused, and none is required
  rw [fault?, hnames]
  simp [lacking, loose]

namespace Attempt

/-- The names that an attempt, its log entry and its logger use themselves. -/
def taken : List String := arguments ++ [loggerName] ++ reserved ++ ["self", "event", "method_name"]

/-- A context that leaves alone the names that an attempt uses itself. -/
def Clean (context : Fields) : Prop := ∀ name ∈ context.names, name ∉ taken

@[simp] theorem clean_nil : Clean [] := by
  simp [Clean, Fields.names]

@[simp] theorem clean_cons {name : String} {v : Json} {context : Fields} :
    Clean ((name, v) :: context) ↔ name ∉ taken ∧ Clean context := by
  simp [Clean, Fields.names]

/-- The log entry of an attempt that failed. -/
def entry {α : Type} (event : String) (context : Fields) (r : OperationResult α) : Log.Entry :=
  ⟨level r, event,
    [("error", .str r.message), ("error_code", .ofOption r.errorCode),
      ("status", .str r.status.word), ("exc_info", .bool (r.status != .unsupported))] ++ context⟩

section Clean

variable {α : Type} {context : Fields} (h : Clean context)

include h

theorem Clean.not_mem {names : List String} (hsub : names ⊆ taken) :
    ∀ name ∈ context.names, name ∉ names :=
  fun name hname hmem => h name hname (hsub hmem)

theorem Clean.get?_eq_none {name : String} (hname : name ∈ taken) :
    Fields.get? name context = none :=
  Fields.get?_eq_none_iff.mpr fun hmem => h name hmem hname

theorem Clean.erase_eq_self {name : String} (hname : name ∈ taken) :
    Fields.erase name context = context :=
  Fields.erase_eq_self fun hmem => h name hmem hname

theorem Clean.failureFields (event : String) (r : OperationResult α) :
    Attempt.failureFields r context = .ok (entry event context r).fields := by
  have hnone : context.names.find? reserved.contains = none := by
    rw [List.find?_eq_none]
    intro name hname
    have hr : name ∉ reserved := h.not_mem (by decide) name hname
    simpa using hr
  rw [Attempt.failureFields, hnone]
  rfl

/-- The logger takes the entry of an attempt whatever the method. -/
theorem Clean.fieldFault? (method event : String) (r : OperationResult α) :
    Log.fieldFault? method (entry event context r).fields = none := by
  -- neither the proxy nor the method behind it has an argument with one of these names
  have hloose : ∀ (callee : String) (filled : List String), filled ⊆ taken →
      (∀ name ∈ ["error", "error_code", "status", "exc_info"], name ∉ filled) →
      (Signature.loose callee filled).fault? (entry event context r).fields = none := by
    intro callee filled hsub hown
    refine Signature.fault?_loose fun name hname => ?_
    have hnames : (entry event context r).fields.names
        = ["error", "error_code", "status", "exc_info"] ++ context.names := by
      simp [entry, Fields.names]
    rw [hnames, List.mem_append] at hname
    rcases hname with hname | hname
    · exact hown name hname
    · exact h.not_mem hsub name hname
  rw [Log.fieldFault?, hloose _ _ (by decide) (by decide), Log.innerFault?,
    hloose _ _ (by decide) (by decide)]
  rfl

end Clean

end Attempt

/-! ### Attempts -/

namespace Action

variable {α β : Type} {s : Surroundings} {w w' : World} {x : Action α} {declined : α → Bool}
  {event : String} {context : Fields}

/-- The log entry of a failure is written, and its result returned. -/
theorem failure_apply (hc : Attempt.Clean context) (e : Failure) (s : Surroundings) (w : World) :
    (Attempt.failure event context e : Action (OperationResult α)) s w =
      (.ok (.ofFailure e),
        w.extend [.logged (Attempt.entry event context (.ofFailure e : OperationResult α))]) := by
  have hlog : Attempt.loggerName ∈ Attempt.taken := by decide
  have hcall : ∀ fs : Fields, Log.fieldFault? (Attempt.level
      (.ofFailure e : OperationResult α)).word fs = none →
      Action.call (Attempt.level (.ofFailure e : OperationResult α)) event fs =
        log (Attempt.level (.ofFailure e : OperationResult α)) event fs := by
    intro fs hfs
    rw [Action.call, hfs]
  -- the context names no logger, so that the entry is made with the fields of the context as they
  -- are
  simp only [Attempt.failure, hc.get?_eq_none hlog, hc.erase_eq_self hlog,
    hc.failureFields event (.ofFailure e : OperationResult α), Option.getD_none, Json.isTruthy,
    Bool.false_eq_true, if_false]
  rw [bind_ok (ofExcept_apply _ s w), hcall _ (hc.fieldFault? _ event _), bind_ok (log_apply ..)]
  rfl

/-- An attempt of an action that returns a value returns too, and logs nothing. -/
theorem attemptUnless_ok_of_names {a : α}
    (hc : ∀ name ∈ context.names, name ∉ Attempt.arguments) (h : x s w = (.ok a, w')) :
    attemptUnless declined x event context s w =
      (.ok (if declined a then .skipped else .success a), w') := by
  rw [attemptUnless, Signature.fault?_loose hc]
  exact bind_ok (guarded_ok h)

theorem attemptUnless_ok {a : α} (hc : Attempt.Clean context) (h : x s w = (.ok a, w')) :
    attemptUnless declined x event context s w =
      (.ok (if declined a then .skipped else .success a), w') :=
  attemptUnless_ok_of_names (hc.not_mem (by decide)) h

/-- An attempt of an action that fails returns all the same.  It adds one entry to the log, after
all that the action has done, and its result is that of the failure. -/
theorem attemptUnless_error {e : Failure} (hc : Attempt.Clean context)
    (h : x s w = (.error e, w')) :
    attemptUnless declined x event context s w =
      (.ok (.ofFailure e),
        w'.extend [.logged (Attempt.entry event context (.ofFailure e : OperationResult α))]) := by
  rw [attemptUnless, Signature.fault?_loose (hc.not_mem (by decide))]
  exact (bind_ok (guarded_error h)).trans (failure_apply hc e s w')

theorem attempt_ok {a : α} (hc : Attempt.Clean context) (h : x s w = (.ok a, w')) :
    attempt x event context s w = (.ok (.success a), w') :=
  attemptUnless_ok hc h

theorem attempt_error {e : Failure} (hc : Attempt.Clean context) (h : x s w = (.error e, w')) :
    attempt x event context s w =
      (.ok (.ofFailure e),
        w'.extend [.logged (Attempt.entry event context (.ofFailure e : OperationResult α))]) :=
  attemptUnless_error hc h

/-! ### Possible values -/

/-- A value that an action returns in some world of its surroundings. -/
def ReturnsIn (x : Action α) (s : Surroundings) (a : α) : Prop := ∃ w w', x s w = (.ok a, w')

theorem returnsIn_bind {x : Action α} {f : α → Action β} {b : β} (h : (x >>= f).ReturnsIn s b) :
    ∃ a, x.ReturnsIn s a ∧ (f a).ReturnsIn s b := by
  obtain ⟨w, w', hrun⟩ := h
  cases hx : x s w with
  | mk r w₁ =>
    cases r with
    | ok a =>
      rw [bind_ok hx] at hrun
      exact ⟨a, ⟨w, w₁, hx⟩, w₁, w', hrun⟩
    | error e =>
      rw [bind_error hx] at hrun
      cases hrun

theorem returnsIn_pure {a b : α} (h : (pure a : Action α).ReturnsIn s b) : a = b := by
  obtain ⟨w, w', hrun⟩ := h
  cases hrun
  rfl

/-- A value that an action returns in some run. -/
def CanReturn (x : Action α) (a : α) : Prop := ∃ s w w', x s w = (.ok a, w')

theorem canReturn_bind {x : Action α} {f : α → Action β} {b : β} (h : (x >>= f).CanReturn b) :
    ∃ a, x.CanReturn a ∧ (f a).CanReturn b := by
  obtain ⟨s, hs⟩ := h
  obtain ⟨a, ha, hb⟩ := returnsIn_bind hs
  exact ⟨a, ⟨s, ha⟩, s, hb⟩

theorem canReturn_pure {a b : α} (h : (pure a : Action α).CanReturn b) : a = b := by
  obtain ⟨s, hs⟩ := h
  exact returnsIn_pure hs

theorem canReturn_ofExcept {r : Except Failure α} {a : α} (h : (ofExcept r).CanReturn a) :
    r = .ok a := by
  obtain ⟨s, w, w', hrun⟩ := h
  rw [ofExcept_apply] at hrun
  exact congrArg Prod.fst hrun

/-- The value of an attempt was returned by what it attempted: an attempt makes up no value of its
own. -/
theorem canReturn_of_attempt {x : Action α} {event : String} {context : Fields}
    (hc : Attempt.Clean context) {r : OperationResult α} {a : α}
    (hr : (attempt x event context).CanReturn r) (ha : r.value? = some a) : x.CanReturn a := by
  obtain ⟨s, w, w', hrun⟩ := hr
  cases h : x s w with
  | mk result w₁ =>
    cases result with
    | ok b =>
      rw [attempt_ok hc h] at hrun
      cases hrun
      rw [OperationResult.value?_success, Option.some.injEq] at ha
      exact ⟨s, w, _, ha ▸ h⟩
    | error e =>
      rw [attempt_error hc h] at hrun
      cases hrun
      -- a failure has no value
      rw [OperationResult.value?_ofFailure] at ha
      cases ha

end Action

/-! ### Sinks -/

/-- A sink that keeps what it is told, and then may fail, depending on what it has kept before. -/
theorem Action.kept_apply (count : World → Nat) (fault : Nat → Option Failure) (e : Effect)
    (s : Surroundings) (w : World) :
    (do
      let w ← world
      record e
      match fault (count w) with
      | some e => .fail e
      | none => pure () : Action Unit) s w
      = ((fault (count w)).elim (.ok ()) .error, w.extend [e]) := by
  have hworld : world s w = (.ok w, w) := rfl
  rw [bind_ok hworld, bind_ok (record_apply ..)]
  cases fault (count w) <;> rfl

theorem Metrics.collector_apply (fault : Nat → Option Failure) (t : Option Trigger)
    (k : Option ChannelKind) (o : DeliveryOutcome) (s : Surroundings) (w : World) :
    collector fault t k o s w =
      ((fault (count w)).elim (.ok ()) .error, w.extend [.measured t k o]) :=
  Action.kept_apply count fault _ s w

theorem Analytics.collector_apply (fault : Nat → Option Failure) (workspace : Uuid)
    (action : String) (attributes : Fields) (s : Surroundings) (w : World) :
    collector fault workspace action attributes s w =
      ((fault (count w)).elim (.ok ()) .error,
        w.extend [.tracked workspace action attributes]) :=
  Action.kept_apply count fault _ s w

/-- Analytics that go into the log make one entry, or fail without one if a field has a name that
is taken. -/
theorem Analytics.logging_cases (workspace : Uuid) (action : String) (attributes : Fields) :
    (∃ e, logging workspace action attributes = .fail e) ∨
      ∃ l event fs, logging workspace action attributes = Action.log l event fs := by
  rw [logging]
  split
  · exact .inl ⟨_, rfl⟩
  · rw [Action.call]
    split
    · exact .inl ⟨_, rfl⟩
    · exact .inr ⟨_, _, _, rfl⟩

/-! ### Surroundings and settings for runs -/

/-- Surroundings in which every request is answered that the service is busy. -/
def Surroundings.busy : Surroundings := ⟨[], "", 0, fun _ => .ok ⟨503, "busy"⟩, ""⟩

/-- Settings that name no email service. -/
def Settings.bare : Settings where
  stage := ""
  logLevel := "INFO"
  revision := ""
  slack := ⟨30, "hooks.slack.com"⟩
  notify := ⟨"", none, none, "", "", "", "", "", "", ""⟩
  delivery := ⟨10, "agent", 2500⟩
  webApp := ⟨""⟩

/-- The world in which some settings have been loaded, and nothing else has happened. -/
def World.settled (known : Settings) : World := ⟨some known, [], []⟩

end JobHerald
