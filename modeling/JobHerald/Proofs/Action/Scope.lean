import JobHerald.Channel.Basic
import JobHerald.Proofs.Action.Run

/-!
# The scope of an action

An action could read the whole journal and undo what is written there.  The actions of
this library do neither: what they do is decided by the settings and by some of the
effects so far, and all they do is load the settings and write further effects.  A scope
says which effects an action looks at, which it writes, and how it fails.

## Main definitions

* `Action.Scope`, `Action.Scope.Alike`, `Action.StaysIn` — scopes, worlds that look the same
  within one, and the actions that stay in it.
* `Action.Scope.wire` — the scope of what uses the transport.
* `Failure.IsPlain` — failures that no response has caused.

## Main results

* `Action.staysIn_bind`, `Action.staysIn_attemptUnless`, … — scopes are kept by all ways of
  putting actions together.
-/

namespace JobHerald

/-! ### Effects -/

/-- Whether an effect is a log entry. -/
def Effect.isEntry (e : Effect) : Bool := e.entry?.isSome

/-- Whether an effect is a request. -/
def Effect.isRequest (e : Effect) : Bool := e.request?.isSome

theorem Effect.request?_eq_none {e : Effect} (h : e.isRequest = false) : e.request? = none := by
  simpa [isRequest] using h

namespace Action

/-! ### Scopes -/

/-- What an action may look at, write, and fail with. -/
structure Scope where
  /-- The effects so far that the action looks at. -/
  sees : Effect → Bool
  /-- The effects that it writes. -/
  writes : Effect → Prop
  /-- The failures that it ends in. -/
  fails : Failure → Prop

/-- A scope within another. -/
structure Scope.Within (c d : Scope) : Prop where
  /-- What the one looks at, the other does too. -/
  sees : ∀ e, c.sees e = true → d.sees e = true
  /-- What the one writes, the other may write. -/
  writes : ∀ e, c.writes e → d.writes e
  /-- How the one fails, the other may fail. -/
  fails : ∀ f, c.fails f → d.fails f

/-- Two worlds that look the same within a scope. -/
structure Scope.Alike (c : Scope) (w w' : World) : Prop where
  /-- They have the same settings. -/
  settings : w'.settings = w.settings
  /-- The same effects are seen in them. -/
  seen : w'.journal.filter c.sees = w.journal.filter c.sees

/-- An action that stays in a scope.  What it returns, and what it writes, are the same in
all worlds that look the same within the scope. -/
def StaysIn {α : Type} (c : Scope) (x : Action α) : Prop :=
  ∀ s w, ∃ r settings es, (∀ e ∈ es, c.writes e) ∧ (∀ f, r = .error f → c.fails f) ∧
    ∀ w', c.Alike w w' → x s w' = (r, { w'.extend es with settings := settings })

section Closure

variable {α β : Type} {c d : Scope}

theorem Scope.Alike.refl (w : World) : c.Alike w w := ⟨rfl, rfl⟩

/-- Worlds that look the same still do after the same effects. -/
theorem Scope.Alike.extend {w w' : World} (h : c.Alike w w') (es : List Effect)
    (settings : Option Settings) :
    c.Alike { w.extend es with settings := settings }
      { w'.extend es with settings := settings } where
  settings := rfl
  seen := by
    rw [World.extend, World.extend, List.filter_append, List.filter_append, h.seen]

/-- In a given run: the result, the settings that are loaded, and the effects that are written, all
of them within the scope. -/
theorem StaysIn.run {x : Action α} (h : x.StaysIn c) (s : Surroundings) (w : World) :
    ∃ r settings es, x s w = (r, { w.extend es with settings := settings }) ∧
      (∀ e ∈ es, c.writes e) ∧ ∀ f, r = .error f → c.fails f := by
  obtain ⟨r, settings, es, hes, hr, hrun⟩ := h s w
  exact ⟨r, settings, es, hrun w (.refl w), hes, hr⟩

/-- What stays in a scope stays in every larger one: the larger scope sees enough to tell what the
smaller one sees. -/
theorem StaysIn.mono (hcd : c.Within d) {x : Action α} (h : x.StaysIn c) : x.StaysIn d := by
  intro s w
  obtain ⟨r, settings, es, hes, hr, hrun⟩ := h s w
  refine ⟨r, settings, es, fun e he => hcd.writes e (hes e he), fun f hf => hcd.fails f (hr f hf),
    fun w' hw' => hrun w' ⟨hw'.settings, ?_⟩⟩
  -- the larger scope sees enough to tell what the smaller one sees
  have hsub : ∀ es : List Effect, es.filter c.sees = (es.filter d.sees).filter c.sees := by
    intro es
    rw [List.filter_filter]
    refine List.filter_congr fun e _ => ?_
    have he := hcd.sees e
    cases hc : c.sees e with
    | false => rfl
    | true => rw [he hc]; rfl
  rw [hsub, hw'.seen, ← hsub]

/-- An action that leaves the world alone and does not look at it. -/
theorem staysIn_of_const {x : Action α} (r : Surroundings → Except Failure α)
    (hx : ∀ s w, x s w = (r s, w)) (hr : ∀ s f, r s = .error f → c.fails f) : x.StaysIn c := by
  intro s w
  refine ⟨r s, w.settings, [], by simp, hr s, fun w' hw' => ?_⟩
  rw [hx, World.extend_nil, ← hw'.settings]

theorem staysIn_pure (a : α) : (pure a : Action α).StaysIn c :=
  staysIn_of_const (fun _ => .ok a) (fun _ _ => rfl) (by simp)

theorem staysIn_fail {f : Failure} (hf : c.fails f) : (fail f : Action α).StaysIn c :=
  staysIn_of_const (fun _ => .error f) (fun _ _ => rfl) (by rintro _ _ ⟨⟩; exact hf)

theorem staysIn_ofExcept {r : Except Failure α} (hr : ∀ f, r = .error f → c.fails f) :
    (ofExcept r).StaysIn c :=
  staysIn_of_const (fun _ => r) (ofExcept_apply r) fun _ => hr

theorem staysIn_clock (hc : ∀ f, c.fails (.calendar f)) : clock.StaysIn c := by
  refine staysIn_of_const (fun s => (Timestamp.ofClock s.clock).mapError .calendar >>= fun _ =>
    .ok s.clock) (fun s w => ?_) (fun s f hf => ?_)
  · rw [clock]
    cases Timestamp.ofClock s.clock <;> rfl
  · cases h : Timestamp.ofClock s.clock <;> rw [h] at hf <;> cases hf
    exact hc _

theorem staysIn_record {e : Effect} (he : c.writes e) : (record e).StaysIn c := by
  intro s w
  refine ⟨.ok (), w.settings, [e], by simpa using he, by simp, fun w' hw' => ?_⟩
  rw [record_apply, ← hw'.settings]
  rfl

/-- The second action has to stay in the scope for the values that the first can return. -/
theorem staysIn_bind_of_canReturn {x : Action α} {f : α → Action β} (hx : x.StaysIn c)
    (hf : ∀ a, x.CanReturn a → (f a).StaysIn c) : (x >>= f).StaysIn c := by
  intro s w
  obtain ⟨r, settings₁, es, hes, hr, hrun⟩ := hx s w
  cases r with
  | error e =>
    -- the second action is not reached, in any of the worlds
    refine ⟨.error e, settings₁, es, hes, ?_, fun w' hw' => bind_error (hrun w' hw')⟩
    rintro f ⟨⟩
    exact hr e rfl
  | ok a =>
    -- the worlds still look the same after the first action, which writes the same in each
    obtain ⟨r₂, settings₂, es₂, hes₂, hr₂, hrun₂⟩ :=
      hf a ⟨s, w, _, hrun w (.refl w)⟩ s { w.extend es with settings := settings₁ }
    refine ⟨r₂, settings₂, es ++ es₂, ?_, hr₂, fun w' hw' => ?_⟩
    · intro e he
      exact (List.mem_append.mp he).elim (hes e) (hes₂ e)
    · rw [bind_ok (hrun w' hw'), hrun₂ _ (hw'.extend es settings₁)]
      simp [World.extend]

theorem staysIn_bind {x : Action α} {f : α → Action β} (hx : x.StaysIn c)
    (hf : ∀ a, (f a).StaysIn c) : (x >>= f).StaysIn c :=
  staysIn_bind_of_canReturn hx fun a _ => hf a

/-- A handler turns the failures of an action into those of the scope. -/
theorem staysIn_handle {possible : Failure → Prop} {x : Action α} {f : Failure → Action α}
    (hx : x.StaysIn { c with fails := possible }) (hf : ∀ g, possible g → (f g).StaysIn c) :
    (x.handle f).StaysIn c := by
  intro s w
  obtain ⟨r, settings₁, es, hes, hr, hrun⟩ := hx s w
  -- how the scope fails does not matter for what looks the same within it
  have hrun : ∀ w', c.Alike w w' → x s w' = (r, { w'.extend es with settings := settings₁ }) :=
    fun w' hw' => hrun w' ⟨hw'.settings, hw'.seen⟩
  cases r with
  | ok a => exact ⟨.ok a, settings₁, es, hes, by simp, fun w' hw' => handle_ok (hrun w' hw')⟩
  | error e =>
    obtain ⟨r₂, settings₂, es₂, hes₂, hr₂, hrun₂⟩ :=
      hf e (hr e rfl) s { w.extend es with settings := settings₁ }
    refine ⟨r₂, settings₂, es ++ es₂, ?_, hr₂, fun w' hw' => ?_⟩
    · intro e he
      exact (List.mem_append.mp he).elim (hes e) (hes₂ e)
    · rw [handle_error (hrun w' hw'), hrun₂ _ (hw'.extend es settings₁)]
      simp [World.extend]

theorem staysIn_settings (hc : ∀ f, c.fails (.ofSettings f)) : settings.StaysIn c := by
  intro s w
  -- worlds that look the same have the same settings, or none
  cases hknown : w.settings with
  | some known =>
    refine ⟨.ok known, some known, [], by simp, by simp, fun w' hw' => ?_⟩
    have hw : w'.settings = some known := hw'.settings.trans hknown
    simp only [Action.settings, hw, World.extend_nil]
    rw [← hw]
  | none =>
    have hsame : ∀ w', c.Alike w w' → w'.settings = none := fun w' hw' => hw'.settings.trans hknown
    cases h : Settings.ofEnvironment s.environment s.file with
    | ok loaded =>
      refine ⟨.ok loaded, some loaded, [], by simp, by simp, fun w' hw' => ?_⟩
      simp only [Action.settings, hsame w' hw', h, World.extend_nil]
    | error f =>
      refine ⟨.error (.ofSettings f), none, [], by simp, ?_, fun w' hw' => ?_⟩
      · rintro g ⟨⟩
        exact hc f
      · simp only [Action.settings, hsame w' hw', h, World.extend_nil]
        rw [← hsame w' hw']

/-- What is looked for among the effects that are seen is found alike. -/
theorem Scope.Alike.filterMap_eq {γ : Type} {f : Effect → Option γ} {w w' : World}
    (h : c.Alike w w') (hsees : ∀ e, (f e).isSome = true → c.sees e = true) :
    w'.journal.filterMap f = w.journal.filterMap f := by
  have hsame : (fun e => if c.sees e = true then f e else none) = f := by
    funext e
    cases he : f e with
    | some a => rw [if_pos (hsees e (by rw [he]; rfl))]
    | none => rw [ite_self]
  have hseen : ∀ es : List Effect, (es.filter c.sees).filterMap f = es.filterMap f := by
    intro es
    rw [List.filterMap_filter, hsame]
  rw [← hseen, h.seen, hseen]

/-- A request can be made in a scope that sees all requests: they number the replies. -/
theorem staysIn_send {r : Request} (hsees : ∀ e, e.isRequest = true → c.sees e = true)
    (hr : c.writes (.requested r)) (hc : ∀ f, c.fails f) : (send r).StaysIn c := by
  intro s w
  refine ⟨s.replies (requestCount w), w.settings, [.requested r], by simpa using hr,
    fun f _ => hc f, fun w' hw' => ?_⟩
  -- the reply is chosen by the number of requests so far, all of which are seen
  have hcount : requestCount w' = requestCount w := by
    rw [requestCount, hw'.filterMap_eq hsees, requestCount]
  rw [send, hcount, ← hw'.settings]
  cases s.replies (requestCount w) <;> rfl

/-- An attempt stays in the scope of what it attempts, whatever that fails with, if its log
entries are part of the scope. -/
theorem staysIn_attemptUnless {declined : α → Bool} {x : Action α} {event : String}
    {context : Fields} (hc : Attempt.Clean context)
    (hwrites : ∀ e : Effect, e.isEntry = true → c.writes e) {possible : Failure → Prop}
    (hx : x.StaysIn { c with fails := possible }) :
    (attemptUnless declined x event context).StaysIn c := by
  intro s w
  obtain ⟨r, settings, es, hes, -, hrun⟩ := hx s w
  -- how a scope fails does not matter for what looks the same within it
  have hrun : ∀ w', c.Alike w w' → x s w' = (r, { w'.extend es with settings := settings }) :=
    fun w' hw' => hrun w' ⟨hw'.settings, hw'.seen⟩
  cases r with
  | ok a =>
    exact ⟨_, settings, es, hes, by simp, fun w' hw' => attemptUnless_ok hc (hrun w' hw')⟩
  | error e =>
    refine ⟨.ok (.ofFailure e), settings, es ++ [.logged (Attempt.entry event context
      (.ofFailure e : OperationResult α))], ?_, by simp, fun w' hw' => ?_⟩
    · intro f hf
      rcases List.mem_append.mp hf with hf | hf
      · exact hes f hf
      · rw [List.mem_singleton] at hf
        exact hwrites f (hf ▸ rfl)
    · rw [attemptUnless_error hc (hrun w' hw')]
      simp [World.extend]

theorem staysIn_attempt {x : Action α} {event : String} {context : Fields}
    (hc : Attempt.Clean context) (hwrites : ∀ e : Effect, e.isEntry = true → c.writes e)
    {possible : Failure → Prop} (hx : x.StaysIn { c with fails := possible }) :
    (attempt x event context).StaysIn c :=
  staysIn_attemptUnless hc hwrites hx

theorem staysIn_log (hwrites : ∀ e : Effect, e.isEntry = true → c.writes e) (l : Log.Level)
    (event : String) (fs : Fields) : (log l event fs).StaysIn c :=
  staysIn_record (hwrites _ rfl)

end Closure

end Action

/-! ### The scope of the transport -/

/-- What uses the transport: it sees and writes requests, and writes log entries. -/
def Action.Scope.wire : Scope := ⟨Effect.isRequest, fun e => e.isEntry ∨ e.isRequest, fun _ => True⟩

/-! ### Failures and responses -/

/-- The code of a failure that a response with the given status has caused. -/
def OperationFailure.httpCode (status : Int) : String := "HTTP_" ++ Text.decimal status

namespace Failure

/-- A failure whose code is not that of a response. -/
def IsPlain (e : Failure) : Prop :=
  ∀ status, (OperationResult.ofFailure e : OperationResult Unit).errorCode
    ≠ some (OperationFailure.httpCode status)

theorem IsPlain.errorCode_ne {e : Failure} (h : e.IsPlain) {α : Type} (status : Int) :
    (OperationResult.ofFailure e : OperationResult α).errorCode
      ≠ some (OperationFailure.httpCode status) := by
  rw [(OperationResult.ofFailure_retype e).2]
  exact h status

/-- A text that begins with another letter is not the code of a response. -/
theorem ne_httpCode {code : String} (h : code.toList.head? ≠ some 'H') (status : Int) :
    code ≠ OperationFailure.httpCode status := by
  rintro rfl
  exact h (by simp [OperationFailure.httpCode])

/-- A failure that does not know its status gets one of three codes, none of which is that of a
response. -/
theorem isPlain_of_ne_operation {e : Failure} (h : ∀ o, e ≠ .operation o) : e.IsPlain := by
  obtain ⟨status, message, code, hcode, -, heq⟩ :=
    OperationResult.ofFailure_of_ne_operation (α := Unit) h
  intro st hst
  rw [heq] at hst
  -- none of the three general codes begins like that of a response
  have hhead : code.toList.head? ≠ some 'H' := by
    simp only [OperationResult.generalCodes, List.mem_cons, List.not_mem_nil, or_false] at hcode
    rcases hcode with rfl | rfl | rfl <;> decide
  exact ne_httpCode hhead st (Option.some.inj hst)

/-- A delivery that failed without a response has a code that is not the code of a status. -/
theorem isPlain_undelivered {message code : String} (h : code.toList.head? ≠ some 'H') :
    (undelivered message code).IsPlain := by
  intro st hst
  -- without a code of its own, a failed delivery gets one for all
  by_cases hempty : code = ""
  · subst hempty
    exact @ne_httpCode "DELIVERY_FAILED" (by decide) st (Option.some.inj hst)
  · simp only [undelivered, OperationFailure.delivery, OperationFailure.withCode,
      OperationResult.ofFailure, OperationResult.failed, hempty, if_false] at hst
    exact ne_httpCode h st (Option.some.inj hst)

theorem isPlain_unsupported (channel operation : String) :
    (Failure.operation (.unsupported channel operation)).IsPlain :=
  fun st hst => @ne_httpCode "UNSUPPORTED_OPERATION" (by decide) st (Option.some.inj hst)

end Failure

end JobHerald
