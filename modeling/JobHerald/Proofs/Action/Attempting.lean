import JobHerald.Proofs.Action.Run

/-!
# Attempts that return

An attempt returns whatever its action does, and tells the log of a failure, and of nothing else.
There is one way out: a failure is told with the fields of the context, and a field with a name
that the log entry or the logger uses itself is a failure of its own, which nothing handles.

## Main definitions

* `Attempt.Clashes` — contexts with a field that cannot be told with a failure.
* `Attempt.Tells` — the log entry of a failure.
* `Attempt.Accounts` — what an attempt returns and logs, by what its action did.

## Main results

* `Attempt.escapes_of_clashes` — a failure that cannot be told leaves the attempt.
* `Attempt.returns_unless_clash` — **an attempt returns, classifies what happened and logs exactly
  the failures**, unless the action fails and the context clashes.
-/

namespace JobHerald

open JobHerald.Action

/-! ### Names that are taken -/

namespace Signature

variable {name : String} {filled : List String} {args : Fields}

/-- A call cannot use the name of an argument that is there already. -/
theorem exists_fault?_loose (callee : String) (hname : name ∈ args.names)
    (hfilled : name ∈ filled) :
    ∃ f, (loose callee filled).fault? args = some f := by
  cases hfirst : args.names.findSome? (loose callee filled).nameFault? with
  | some f => exact ⟨f, by rw [fault?, hfirst]⟩
  | none =>
    -- otherwise the name itself would have passed
    have hnone := List.findSome?_eq_none_iff.mp hfirst name hname
    simp [nameFault?, loose, hfilled] at hnone

end Signature

namespace Attempt

/-- The names of the fields that a failure is told with, and of the logger's own arguments. -/
def telling : List String := reserved ++ ["self", "method_name"]

/-- A context with a field that cannot be told with a failure. -/
def Clashes (context : Fields) : Prop := ∃ name ∈ context.names, name ∈ telling

variable {α : Type} {context : Fields} {event : String}

/-- The names of a context that are none of the attempt's own are free if none of them clashes. -/
theorem clean_of_not_clashes (hown : ∀ name ∈ context.names, name ∉ arguments ++ [loggerName])
    (h : ¬ Clashes context) : Clean context := by
  -- all names that are taken are of these two sorts
  have htaken : ∀ name ∈ taken, name ∈ arguments ++ [loggerName] ∨ name ∈ telling := by decide
  intro name hname hmem
  rcases htaken name hmem with hargument | htelling
  · exact hown name hname hargument
  · exact h ⟨name, hname, htelling⟩

/-- The fields of a failure cannot be made with a reserved name, and have all of the context. -/
theorem failureFields_cases (event : String) (r : OperationResult α) (context : Fields) :
    (∃ name, failureFields r context = .error (.missingValue name)) ∨
      (∀ name ∈ context.names, name ∉ reserved) ∧
        failureFields r context = .ok (entry event context r).fields := by
  rw [failureFields]
  cases hfind : context.names.find? reserved.contains with
  | some name => exact .inl ⟨name, rfl⟩
  | none =>
    refine .inr ⟨fun name hname => ?_, rfl⟩
    have hnot := List.find?_eq_none.mp hfind name hname
    simpa using hnot

/-- The logger refuses an entry with a field that is called as one of its arguments: `self` is
refused by the proxy, and the name of the method by the call behind it. -/
theorem exists_fieldFault? (method event : String) (r : OperationResult α) {name : String}
    (hname : name ∈ context.names) (hargument : name ∈ ["self", "method_name"]) :
    ∃ f, Log.fieldFault? method (entry event context r).fields = some f := by
  have hmem : name ∈ (entry event context r).fields.names := by
    rw [entry, Fields.names, List.map_append]
    exact List.mem_append_right _ hname
  rw [Log.fieldFault?]
  -- the call of the proxy is checked first; it takes `self`
  cases hself : (Signature.loose (Log.methodName method) ["self", "event"]).fault?
      (entry event context r).fields with
  | some f => exact ⟨f, rfl⟩
  | none =>
    have hmethod : name ∈ ["method_name"] := by
      rcases List.mem_cons.mp hargument with rfl | hmethod
      · have hfilled : "self" ∈ ["self", "event"] := List.mem_cons_self
        obtain ⟨f, hf⟩ := Signature.exists_fault?_loose (Log.methodName method) hmem hfilled
        rw [hself] at hf
        cases hf
      · exact hmethod
    -- what the proxy lets through is refused by the method behind it
    exact Signature.exists_fault?_loose _ hmem hmethod

/-- A failure that cannot be told leaves the attempt as another failure, and nothing is logged: the
entry is made before it is written. -/
theorem failure_of_clashes (event : String) (hlogger : loggerName ∉ context.names)
    (h : Clashes context) (e : Failure) (s : Surroundings) (w : World) :
    ∃ f, (failure event context e : Action (OperationResult α)) s w = (.error f, w) := by
  simp only [failure, Fields.get?_eq_none_iff.mpr hlogger, Fields.erase_eq_self hlogger,
    Option.getD_none, Json.isTruthy, Bool.false_eq_true, if_false]
  rcases failureFields_cases event (.ofFailure e : OperationResult α) context with
    ⟨name, hfields⟩ | ⟨hfree, hfields⟩
  -- a reserved name is refused while the fields are put together
  · rw [hfields]
    exact ⟨_, rfl⟩
  · -- the clash is with an argument of the logger
    obtain ⟨name, hname, htelling⟩ := h
    have hargument : name ∈ ["self", "method_name"] :=
      (List.mem_append.mp htelling).resolve_left (hfree name hname)
    obtain ⟨f, hf⟩ := exists_fieldFault? (level (.ofFailure e : OperationResult α)).word event
      (.ofFailure e : OperationResult α) hname hargument
    rw [hfields, bind_ok (ofExcept_apply ..), Action.call, hf]
    exact ⟨f, rfl⟩

variable {declined : α → Bool} {x : Action α} {s : Surroundings} {w : World}

/-- If the action fails and the context clashes, the attempt fails too, in the world that the action
has left. -/
theorem escapes_of_clashes (hown : ∀ name ∈ context.names, name ∉ arguments ++ [loggerName])
    (h : Clashes context) {e : Failure} {w' : World} (hx : x s w = (.error e, w')) :
    ∃ f, attemptUnless declined x event context s w = (.error f, w') := by
  have harguments : ∀ name ∈ context.names, name ∉ arguments :=
    fun name hname hmem => hown name hname (List.mem_append_left _ hmem)
  have hlogger : loggerName ∉ context.names :=
    fun hmem => hown loggerName hmem (List.mem_append_right _ List.mem_cons_self)
  obtain ⟨f, hf⟩ := failure_of_clashes (α := α) event hlogger h e s w'
  refine ⟨f, ?_⟩
  rw [attemptUnless, Signature.fault?_loose harguments]
  exact (bind_ok (guarded_error hx)).trans hf

/-! ### What is returned and logged -/

/-- The log entry of a failure. -/
structure Tells (event : String) (context : Fields) (r : OperationResult α) (entry : Log.Entry) :
    Prop where
  /-- It has the name of the event. -/
  event : entry.event = event
  /-- It has all fields of the context. -/
  context : context ⊆ entry.fields
  /-- It has the message of the failure, -/
  message : Fields.get? "error" entry.fields = some (.str r.message)
  /-- its code, -/
  code : Fields.get? "error_code" entry.fields = some (.ofOption r.errorCode)
  /-- and its status. -/
  status : Fields.get? "status" entry.fields = some (.str r.status.word)
  /-- What is not supported is a warning, -/
  warning : entry.level = .warning ↔ r.status = .unsupported
  /-- and everything else is an error. -/
  error : entry.level = .error ↔ r.status ≠ .unsupported

/-- What an attempt returns and what it leaves, by what its action did. -/
structure Accounts (declined : α → Bool) (event : String) (context : Fields)
    (did : Except Failure α × World) (r : OperationResult α) (after : World) : Prop where
  /-- An action that did nothing is skipped, and no other one. -/
  skipped : r.status = .skipped ↔ ∃ a, did.1 = .ok a ∧ declined a = true
  /-- Every other value is a success. -/
  success : ∀ a, did.1 = .ok a → declined a = false → r = .success a
  /-- The status is that of a failure exactly if the action failed, -/
  failed : r.isFailure = true ↔ ∃ e, did.1 = .error e
  /-- and so is the delivery that it stands for. -/
  outcome : r.outcome = .failed ↔ ∃ e, did.1 = .error e
  /-- A value is not logged. -/
  silent : ∀ a, did.1 = .ok a → after = did.2
  /-- A failure is logged once, after all that the action did. -/
  told : ∀ e, did.1 = .error e →
    ∃ entry, Tells event context r entry ∧ after = did.2.extend [.logged entry]

theorem tells_entry (event : String) (context : Fields) (r : OperationResult α) :
    Tells event context r (entry event context r) where
  event := rfl
  context := List.subset_append_right _ _
  message := rfl
  code := rfl
  status := rfl
  warning := by
    show level r = .warning ↔ _
    rw [level]
    split <;> simp_all
  error := by
    show level r = .error ↔ _
    rw [level]
    split <;> simp_all

/-- A value is accounted for: it is skipped if the action says that it did nothing, and a success
otherwise. -/
theorem accounts_ok (declined : α → Bool) (event : String) (context : Fields) (a : α) (w : World) :
    Accounts declined event context (.ok a, w) (if declined a then .skipped else .success a) w := by
  cases ha : declined a with
  | true =>
    exact ⟨by simp [OperationResult.skipped, ha], by simp [ha],
      by simp [OperationResult.isFailure, OperationResult.isSkipped, OperationResult.skipped],
      by simp, fun _ _ => rfl, nofun⟩
  | false =>
    exact ⟨by simp [OperationResult.success, ha], by simp,
      by simp [OperationResult.isFailure], by simp, fun _ _ => rfl, nofun⟩

/-- A failure is accounted for: its status is none of the two that values have, and one entry is
written about it. -/
theorem accounts_error (declined : α → Bool) (event : String) (context : Fields) (e : Failure)
    (w : World) :
    Accounts declined event context (.error e, w) (.ofFailure e)
      (w.extend [.logged (entry event context (.ofFailure e : OperationResult α))]) := by
  obtain ⟨hsuccess, hskipped⟩ := OperationResult.status_ofFailure (α := α) e
  exact ⟨by simp [hskipped], nofun,
    by simp [OperationResult.isFailure, OperationResult.isSuccess, OperationResult.isSkipped,
      hsuccess, hskipped],
    by simp, nofun, fun _ _ => ⟨_, tells_entry event context _, rfl⟩⟩

/-- The value false itself says that nothing was done, and no other value does. -/
theorem isDeclined_iff {v : Json} : v.isDeclined = true ↔ v = .bool false := by
  cases v with
  | bool b => cases b <;> simp [Json.isDeclined]
  | _ => simp [Json.isDeclined]

/-- **An attempt returns whatever its action does, classifies it, and logs it exactly if it is a
failure**, unless the action fails and a field of the context has a name that the log entry or the
logger uses itself: then the attempt fails too, and nothing is logged. -/
theorem returns_unless_clash (declined : α → Bool) (x : Action α) (event : String)
    (context : Fields) (s : Surroundings) (w : World)
    (hown : ∀ name ∈ context.names, name ∉ arguments ++ [loggerName]) :
    (¬ ((∃ e, (x s w).1 = .error e) ∧ Clashes context) →
      ∃ r w', attemptUnless declined x event context s w = (.ok r, w') ∧
        Accounts declined event context (x s w) r w') ∧
    ((∃ e, (x s w).1 = .error e) → Clashes context →
      ∃ f, attemptUnless declined x event context s w = (.error f, (x s w).2)) ∧
    ∀ v : Json, v.isDeclined = true ↔ v = .bool false := by
  have harguments : ∀ name ∈ context.names, name ∉ arguments :=
    fun name hname hmem => hown name hname (List.mem_append_left _ hmem)
  -- whether a clash matters is decided by how the action ends
  cases hx : x s w with
  | mk result w' =>
    cases result with
    | ok a =>
      refine ⟨fun _ => ?_, nofun, fun v => isDeclined_iff⟩
      exact ⟨_, w', attemptUnless_ok_of_names harguments hx,
        accounts_ok declined event context a w'⟩
    | error e =>
      refine ⟨fun h => ?_, fun _ hclash => escapes_of_clashes hown hclash hx,
        fun v => isDeclined_iff⟩
      -- here there is no clash, so that the failure can be told
      have hclean := clean_of_not_clashes hown fun hclash => h ⟨⟨e, rfl⟩, hclash⟩
      exact ⟨_, _, attemptUnless_error hclean hx, accounts_error declined event context e w'⟩

/-- A failure is told with a context that does not clash, and a name that the log entry has already
cannot be told. -/
theorem returns_unless_clash_queued :
    let x : Action Json := Action.fail .longInteger
    let queued : Fields := [("queue_status", .str "queued")]
    let clashing : Fields := [("status", .str "queued")]
    (∀ name ∈ queued.names, name ∉ arguments ++ [loggerName]) ∧ ¬ Clashes queued ∧
      (∃ r w', attemptUnless Json.isDeclined x "job_lookup_failed" queued .busy .initial
          = (.ok r, w') ∧
        Accounts Json.isDeclined "job_lookup_failed" queued (.error .longInteger, .initial) r w') ∧
      (∀ name ∈ clashing.names, name ∉ arguments ++ [loggerName]) ∧ Clashes clashing ∧
      ∃ f, attemptUnless Json.isDeclined x "job_lookup_failed" clashing .busy .initial
        = (.error f, .initial) := by
  intro x queued clashing
  have hown : ∀ name ∈ queued.names, name ∉ arguments ++ [loggerName] := by decide
  have hown' : ∀ name ∈ clashing.names, name ∉ arguments ++ [loggerName] := by decide
  have hfree : ¬ Clashes queued := by
    rintro ⟨name, hname, htelling⟩
    exact absurd htelling ((by decide : ∀ name ∈ queued.names, name ∉ telling) name hname)
  have hclash : Clashes clashing := ⟨"status", by decide, by decide⟩
  obtain ⟨hreturns, -, -⟩ :=
    returns_unless_clash Json.isDeclined x "job_lookup_failed" queued .busy .initial hown
  obtain ⟨-, hescapes, -⟩ :=
    returns_unless_clash Json.isDeclined x "job_lookup_failed" clashing .busy .initial hown'
  exact ⟨hown, hfree, hreturns fun h => hfree h.2, hown', hclash, hescapes ⟨_, rfl⟩ hclash⟩

/-- A field called as an argument of the logger, or as a field that every failure is told with, is
none of the attempt's own arguments, and makes the attempt fail with its action. -/
theorem clashing_context_escapes :
    let x : Action Json := Action.fail .longInteger
    "method_name" ∉ arguments ++ [loggerName] ∧ "status" ∉ arguments ++ [loggerName] ∧
      attemptUnless Json.isDeclined x "op_failed" [("method_name", .str "x")] .busy .initial
        = (.error (.filledArgument "BoundLogger._proxy_to_logger" "method_name"), .initial) ∧
      attemptUnless Json.isDeclined x "op_failed" [("status", .str "queued")] .busy .initial
        = (.error (.missingValue "status"), .initial) :=
  ⟨by decide, by decide, rfl, rfl⟩

end Attempt

end JobHerald
