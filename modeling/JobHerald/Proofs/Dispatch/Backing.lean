import JobHerald.Proofs.Channel.Evidence
import JobHerald.Proofs.Dispatch.Ending

/-!
# The evidence behind outcomes

The outcome, the code and the message of an attempt agree with the one answer that the
transport gave, if it was asked at all.

## Main definitions

* `ChannelAttempt.Backed` — an attempt that agrees with the requests and the answer.

## Main results

* `Evidence.backed` — an attempt with the result of an announcement is backed.
* `Dispatch.deliver_backed` — **every attempt is backed by its answer.**
-/

namespace JobHerald

open JobHerald.Action

/-! ### Channels of a kind -/

namespace Channel

variable {s : Surroundings} {w : World} {reply : Except Failure Response} (settings : Settings)
  (kind : ChannelKind) (config : Option ChannelConfig) (receiver : Option String)

/-- What a channel says that it cannot announce, it does not try to; otherwise its answer
decides. -/
theorem evidence_invoke (n : Notice) (h : s.Answers w reply) :
    ((ofSettings settings kind config receiver).invoke n).Trades s w fun v rqs =>
      Evidence kind (kind.response? reply) v rqs ∧
        (kind.declaration.supports n.capability = false →
          v = .error (.operation (.unsupported kind.declaration.kind n.capability.word)) ∧
            rqs = []) := by
  rw [invoke, toDeclaration_ofSettings]
  split
  · next hsupports =>
    have hevidence : ((ofSettings settings kind config receiver).deliver n).Trades s w
        (Evidence kind (kind.response? reply)) := by
      cases kind with
      | slack => exact Slack.Target.evidence_deliver _ n h
      | email => exact Mail.Account.evidence_deliver _ n h
      | webhook => exact Endpoint.Target.evidence_deliver _ n h
    refine hevidence.mono fun v rqs hv => ⟨hv, fun hnot => ?_⟩
    rw [hsupports] at hnot
    cases hnot
  -- what is not declared fails before the channel is asked
  · exact ⟨_, [], ends_fail _, .unsent (Failure.isPlain_unsupported _ _), fun _ => ⟨rfl, rfl⟩⟩

end Channel

/-! ### Attempts that are backed -/

/-- An attempt through a kind of channel that agrees with the requests it made, and with the
answer of the transport to the first of them. -/
structure ChannelAttempt.Backed (a : ChannelAttempt) (kind : ChannelKind)
    (answer : Option Response) (rqs : List Request) : Prop where
  /-- Nothing is sent twice. -/
  once : rqs.length ≤ 1
  /-- What was delivered was accepted, and the other way round. -/
  delivered : a.outcome = .delivered ↔
    rqs.length = 1 ∧ ∃ r, answer = some r ∧ kind.accepts r = true
  /-- The code of a response tells that it was a refusal, and the other way round. -/
  refused : ∀ status, a.errorCode = some (OperationFailure.httpCode status) ↔
    rqs.length = 1 ∧ ∃ r, answer = some r ∧ kind.accepts r = false ∧ r.status = status
  /-- A refusal fails, with the status and the body of the response in the message. -/
  message : ∀ r, rqs.length = 1 → answer = some r → kind.accepts r = false →
    a.outcome = .failed ∧
      ∃ what, a.message = what ++ " (" ++ Text.decimal r.status ++ "): " ++ r.body
  /-- What was skipped was not sent. -/
  skipped : a.outcome = .skipped → rqs = []

namespace Evidence

variable {kind : ChannelKind} {answer : Option Response} {v : Except Failure Json}
  {rqs : List Request} {a : ChannelAttempt}

/-- A failure that no response has caused backs an attempt, unless a request was answered. -/
theorem backed_failed {e : Failure} (he : e.IsPlain) (hrqs : rqs.length ≤ 1)
    (hunanswered : rqs.length = 1 → answer = none) (houtcome : a.outcome = .failed)
    (hcode : a.errorCode = (OperationResult.ofFailure e : OperationResult Json).errorCode) :
    a.Backed kind answer rqs where
  once := hrqs
  delivered := by
    refine ⟨fun h => ?_, fun ⟨h, r, ha, _⟩ => ?_⟩
    · rw [houtcome] at h
      cases h
    · rw [hunanswered h] at ha
      cases ha
  -- the code of a plain failure is not the code of a status
  refused status := by
    refine ⟨fun h => ?_, fun ⟨h, r, ha, _⟩ => ?_⟩
    · rw [hcode] at h
      exact absurd h (he.errorCode_ne status)
    · rw [hunanswered h] at ha
      cases ha
  message r h ha := by
    rw [hunanswered h] at ha
    cases ha
  skipped h := by
    rw [houtcome] at h
    cases h

/-- An attempt with the outcome, the message and the code of an announcement is backed by the
answer to it. -/
theorem backed (h : Evidence kind answer v rqs)
    (houtcome : a.outcome = (Attempt.result Json.isDeclined v).outcome)
    (hmessage : a.message = (Attempt.result Json.isDeclined v).message)
    (hcode : a.errorCode = (Attempt.result Json.isDeclined v).errorCode) :
    a.Backed kind answer rqs := by
  cases h with
  | declined =>
    have houtcome : a.outcome = .skipped := houtcome
    have hcode : a.errorCode = none := hcode
    constructor <;> simp [houtcome, hcode]
  | unsent he =>
    exact backed_failed he (by simp) (by simp)
      (houtcome.trans (OperationResult.outcome_ofFailure _)) hcode
  | lost he rq ha =>
    exact backed_failed he (by simp) (fun _ => ha)
      (houtcome.trans (OperationResult.outcome_ofFailure _)) hcode
  | accepted rq ha hr =>
    have houtcome : a.outcome = .delivered := houtcome
    have hcode : a.errorCode = none := hcode
    constructor <;> simp [houtcome, hcode, ha, hr]
  | @refused r what rq ha hr =>
    have hresult := ofFailure_refused (α := Json) what r
    have houtcome : a.outcome = .failed := houtcome.trans (OperationResult.outcome_ofFailure _)
    rw [Attempt.result, hresult] at hmessage hcode
    constructor
    · simp
    · simp [houtcome, ha, hr]
    · -- the status can be read back from the code
      intro status
      rw [hcode, ha]
      constructor
      · intro h
        exact ⟨rfl, r, rfl, hr, OperationFailure.httpCode_injective (Option.some.inj h)⟩
      · rintro ⟨-, r', hr', -, rfl⟩
        rw [Option.some.injEq] at hr'
        rw [hr']
        rfl
    · rintro r' - ha' -
      rw [ha, Option.some.injEq] at ha'
      exact ⟨houtcome, what, ha' ▸ hmessage⟩
    · simp [houtcome]

end Evidence

/-! ### Dispatching -/

namespace Dispatch

variable {s : Surroundings} {w : World}

/-- A channel that could not be made has sent nothing. -/
theorem backed_notMade (t : Option Trigger) (kind : ChannelKind) (answer : Option Response)
    {e : Failure} (he : e.IsPlain) : (notMade t kind (.ofFailure e)).Backed kind answer [] :=
  Evidence.backed_failed he (by simp) (by simp) rfl (OperationResult.ofFailure_retype e).2

/-- **Every attempt is backed by its answer**: it makes one request at most, and its outcome, code
and message are those of the answer to that request.  What a kind of channel does not declare
fails without a request, and with a code of its own as soon as there are settings. -/
theorem deliver_backed (settings : Option Settings) (metrics : Metrics) (t : Option Trigger)
    (receiver : Option String) (kind : ChannelKind) (config : Option ChannelConfig) (n : Notice)
    (s : Surroundings) (w : World) (hreplies : ∀ i o, s.replies i ≠ .error (.operation o)) :
    ∃ a w' es, (standard settings metrics).deliver t receiver kind config n s w = (.ok a, w') ∧
      w'.journal = w.journal ++ es ∧
      a.Backed kind (kind.response? (s.replies (requestCount w)))
        (es.filterMap Effect.request?) ∧
      (kind.declaration.supports n.capability = false →
        a.outcome = .failed ∧ es.filterMap Effect.request? = [] ∧
        ∀ known, (settingsOr settings s w).1 = .ok known →
          a.errorCode = some "UNSUPPORTED_OPERATION") := by
  have hdeliver : ((standard settings metrics).deliver t receiver kind config n).Trades s w
      fun r rqs => ∃ a, r = .ok a ∧
        a.Backed kind (kind.response? (s.replies (requestCount w))) rqs ∧
        (kind.declaration.supports n.capability = false → a.outcome = .failed ∧ rqs = [] ∧
          ∀ known, (settingsOr settings s w).1 = .ok known →
            a.errorCode = some "UNSUPPORTED_OPERATION") := by
    cases hused : (settingsOr settings s w).1 with
    | error e =>
      -- without settings there is no channel to ask
      have hplain : e.IsPlain := (isForeign_settingsOr settings hused).isPlain
      refine ⟨_, [], ends_deliver_unsettled metrics hused t receiver config, _, rfl,
        backed_notMade t kind _ hplain, fun _ => ⟨rfl, rfl, fun known hknown => ?_⟩⟩
      cases hknown
    | ok known =>
      -- making the channel asks for nothing, so that the announcement meets the same answer
      obtain ⟨w', hlater, hdeliver⟩ := exists_ends_deliver (n := n) metrics hused t receiver config
      have hanswer : s.Answers w' (s.replies (requestCount w)) :=
        ⟨congrArg s.replies hlater.requestCount_eq, hreplies _⟩
      obtain ⟨v, rqs, hinvoke, hevidence, hundeclared⟩ :=
        Channel.evidence_invoke known kind config receiver n hanswer
      obtain ⟨label, hends⟩ := hdeliver hinvoke
      refine ⟨_, rqs, hends, _, rfl, hevidence.backed rfl rfl rfl, fun hnot => ?_⟩
      obtain ⟨rfl, rfl⟩ := hundeclared hnot
      exact ⟨rfl, rfl, fun _ _ => rfl⟩
  obtain ⟨r, rqs, ⟨w', es, hrun, hjournal, rfl, -⟩, a, rfl, hbacked, hundeclared⟩ := hdeliver
  exact ⟨a, w', es, hrun, hjournal, hbacked, hundeclared⟩

theorem deliver_backed_busy :
    (∀ i o, Surroundings.busy.replies i ≠ .error (.operation o)) ∧
      ∃ a w' es, (standard none Metrics.logging).deliver none none .webhook
          (some (.webhook ⟨"https://hooks.example.org"⟩)) (.test "ping") .busy World.initial
            = (.ok a, w') ∧
        w'.journal = World.initial.journal ++ es ∧
        a.Backed .webhook (some ⟨503, "busy"⟩) (es.filterMap Effect.request?) := by
  have hreplies : ∀ i o, Surroundings.busy.replies i ≠ .error (.operation o) := by
    simp [Surroundings.busy]
  obtain ⟨a, w', es, hrun, hjournal, hbacked, -⟩ := deliver_backed none Metrics.logging none none
    .webhook (some (.webhook ⟨"https://hooks.example.org"⟩)) (.test "ping") .busy World.initial
    hreplies
  exact ⟨hreplies, a, w', es, hrun, hjournal, hbacked⟩

end Dispatch

end JobHerald
