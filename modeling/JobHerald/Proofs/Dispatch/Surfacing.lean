import JobHerald.Proofs.Channel.Evidence
import JobHerald.Proofs.Dispatch.Ending

/-!
# Trouble that surfaces

A channel that fails should fail as a delivery, so that the failure is classified by its cause.  It
does so exactly if it catches the failure that its post has met; any other failure escapes, and
counts as unexpected.

## Main definitions

* `Surfacing` — what becomes of a failure that a post has met.
* `Channel.Reaches` — a channel of this library, and what its post reaches.

## Main results

* `ChannelKind.surfacing_verdict` — the verdict tells what becomes of a failure.
* `Channel.surfaces` — **trouble surfaces as a failed delivery exactly if the channel catches it.**
-/

namespace JobHerald

open JobHerald.Action

/-! ### What surfaces -/

theorem Failure.IsForeign.not_isDelivery {e : Failure} (h : e.IsForeign) : ¬ e.IsDelivery := by
  rintro ⟨message, status, body, code, rfl⟩
  exact h _ rfl

/-- A notice whose rendering for a kind of channel does not fail. -/
def Notice.RendersFor (n : Notice) : ChannelKind → Prop
  | .slack => ¬ n.MixesClocks ∧ n.IsCountable
  | .email => ¬ n.MixesClocks
  | .webhook => True

/-- A truth value, or a failed delivery. -/
def IsSurfaced : Except Failure Json → Prop
  | .ok v => ∃ b, v = .bool b
  | .error e => e.IsDelivery

/-- What becomes of a failure that an announcement has met. -/
structure Surfacing (kind : ChannelKind) (reached : Option (Except Failure Response))
    (answer : Except Failure Response) (v : Except Failure Json) (rqs : List Request) : Prop where
  /-- The announcement returns a truth value, or fails as a delivery, exactly if the channel catches
  the failure, or if there is none. -/
  surfaces : IsSurfaced v ↔ ∀ e, reached = some (.error e) → kind.catches e = true
  /-- Otherwise it fails with the failure itself. -/
  escapes : ¬ IsSurfaced v → ∃ e, reached = some (.error e) ∧ v = .error e
  /-- What surfaces is not classified as unexpected. -/
  expected : IsSurfaced v →
    (Attempt.result Json.isDeclined v).errorCode ≠ some "UNEXPECTED_ERROR"
  /-- A failed request counts as trouble with the connection, which may pass, on every kind of
  channel; on the chat channel, so does all other trouble with the operating system. -/
  lost : ∀ e, rqs ≠ [] → kind.response? answer = none → answer = .error e →
    e.family.isRequest = true ∨ kind = .slack ∧ e.family.isSystem = true →
    (Attempt.result Json.isDeclined v).errorCode = some "CONNECTION_ERROR" ∧
      (Attempt.result Json.isDeclined v).status = .transient

/-- The result of a delivery that did not get as far as a response. -/
theorem result_undelivered (message : String) {code : String} (h : code ≠ "") :
    Attempt.result Json.isDeclined (.error (undelivered message code)) =
      .failed .transient message code := by
  simp only [Attempt.result, undelivered, OperationFailure.delivery, OperationFailure.withCode,
    OperationResult.ofFailure, OperationFailure.status, h, if_false]

namespace ChannelKind

variable {kind : ChannelKind}

/-- What is caught surfaces, and is classified by what caught it. -/
theorem verdict_caught {e : Failure} (h : kind.catches e = true) :
    IsSurfaced (kind.verdict (some (.error e))) ∧
      (Attempt.result Json.isDeclined (kind.verdict (some (.error e)))).errorCode
        ≠ some "UNEXPECTED_ERROR" := by
  obtain ⟨message, code, hcode, hwrap⟩ := wrap_caught h
  rw [verdict, hwrap]
  refine ⟨⟨message, none, none, some code, rfl⟩, ?_⟩
  simp only [List.mem_cons, List.not_mem_nil, or_false] at hcode
  -- there are two codes for what is caught, and none is that of an unexpected error
  rcases hcode with rfl | rfl
  · rw [result_undelivered _ (by decide)]
    simp [OperationResult.failed]
  · rw [result_undelivered _ (by decide)]
    simp [OperationResult.failed]

/-- A response has no code, or the code of its status. -/
theorem errorCode_answered_ne {code : String} (h : code.toList.head? ≠ some 'H') (r : Response) :
    (Attempt.result Json.isDeclined (kind.verdict (some (.ok r)))).errorCode ≠ some code := by
  rw [verdict]
  split
  · simp [Attempt.result, delivered, Json.isDeclined, OperationResult.success]
  · rw [Attempt.result, ofFailure_refused]
    intro hcode
    exact Failure.ne_httpCode h r.status (Option.some.inj hcode).symm

/-- A response surfaces: it is a truth value, or a failure with the code of its status. -/
theorem verdict_answered (r : Response) :
    IsSurfaced (kind.verdict (some (.ok r))) ∧
      (Attempt.result Json.isDeclined (kind.verdict (some (.ok r)))).errorCode
        ≠ some "UNEXPECTED_ERROR" := by
  refine ⟨?_, errorCode_answered_ne (by decide) r⟩
  rw [verdict]
  split
  · exact ⟨true, rfl⟩
  · exact ⟨_, _, _, _, rfl⟩

/-- What becomes of a failure on the way is told by the verdict. -/
theorem surfacing_verdict {s : Surroundings} {w : World}
    {reached : Option (Except Failure Response)} {rqs : List Request}
    (hplain : ∀ o, s.replies (requestCount w) ≠ .error (.operation o))
    (honce : PostsOnce kind s w reached rqs) :
    Surfacing kind reached (s.replies (requestCount w)) (kind.verdict reached) rqs := by
  -- all but a failure that is not caught surfaces
  have hsurfaces : (∀ e, reached = some (.error e) → kind.catches e = true) →
      IsSurfaced (kind.verdict reached) ∧
        (Attempt.result Json.isDeclined (kind.verdict reached)).errorCode
          ≠ some "UNEXPECTED_ERROR" := by
    intro hcaught
    match reached with
    | none =>
      refine ⟨⟨false, rfl⟩, ?_⟩
      simp [verdict, Attempt.result, declined, Json.isDeclined, OperationResult.skipped]
    | some (.ok r) => exact verdict_answered r
    | some (.error e) => exact verdict_caught (hcaught e rfl)
  have hescapes : ∀ e, reached = some (.error e) → kind.catches e = false →
      kind.verdict reached = .error e := by
    rintro e rfl huncaught
    rw [verdict, wrap_uncaught huncaught]
  have hiff : IsSurfaced (kind.verdict reached) ↔
      ∀ e, reached = some (.error e) → kind.catches e = true := by
    refine ⟨fun hsurfaced e he => ?_, fun hcaught => (hsurfaces hcaught).1⟩
    -- what is not caught is no failed delivery: none is met on the way
    refine Decidable.byContradiction fun huncaught => ?_
    rw [hescapes e he (Bool.eq_false_of_not_eq_true huncaught)] at hsurfaced
    subst he
    exact (honce.isForeign hplain).not_isDelivery hsurfaced
  refine ⟨hiff, fun hnot => ?_, fun hsurfaced => (hsurfaces (hiff.mp hsurfaced)).2, ?_⟩
  · rw [hiff] at hnot
    simp only [not_forall] at hnot
    obtain ⟨e, he, huncaught⟩ := hnot
    exact ⟨e, he, hescapes e he (Bool.eq_false_of_not_eq_true huncaught)⟩
  · -- a request was made, so that the failure of its answer is what the post has reached
    intro e hrqs hnone hreply htrouble
    have hcut : kind.isCutOff e = true := by
      rcases htrouble with hrequest | ⟨rfl, hsystem⟩
      · exact isCutOff_of_isRequest hrequest kind
      · exact hsystem
    cases honce with
    | unposted => exact absurd rfl hrqs
    | posted hasks =>
      cases hasks with
      | unasked _ => exact absurd rfl hrqs
      | asked rq =>
        obtain ⟨message, hwrap⟩ := wrap_cutOff hcut
        rw [reply, hnone, hreply, verdict, hwrap, result_undelivered _ (by decide)]
        exact ⟨rfl, rfl⟩

end ChannelKind

namespace Channel

/-- A channel of this library, and what its post about a notice reaches. -/
inductive Reaches (n : Notice) (s : Surroundings) (w : World) :
    ChannelKind → Channel → Option (Except Failure Response) → Prop
  /-- The chat channel. -/
  | slack (t : Slack.Target) : Reaches n s w .slack t.channel (t.reach? s w)
  /-- The email channel. -/
  | email (a : Mail.Account) : Reaches n s w .email a.channel (a.reach? n s w)
  /-- The webhook channel. -/
  | webhook (t : Endpoint.Target) : Reaches n s w .webhook t.channel (t.reach? s w)

variable {n : Notice} {s : Surroundings} {w : World} {kind : ChannelKind} {c : Channel}
  {reached : Option (Except Failure Response)}

/-- An announcement comes to the verdict on what its post has reached. -/
theorem ends_invoke (h : c.Reaches n s w kind reached)
    (hn : kind.declaration.supports n.capability = true) (hrenders : n.RendersFor kind) :
    ∃ rqs, (c.invoke n).Ends s w (kind.verdict reached) rqs ∧ PostsOnce kind s w reached rqs := by
  have hinvoke : c.invoke n = c.deliver n := if_pos (by cases h <;> exact hn)
  rw [hinvoke]
  cases h with
  | slack t => exact t.ends_deliver hn hrenders
  | email a => exact a.ends_deliver hn hrenders
  | webhook t => exact t.ends_deliver hn

/-- A failure that is not caught is what the announcement fails with. -/
theorem invoke_uncaught {e : Failure} (h : c.Reaches n s w kind (some (.error e)))
    (hn : kind.declaration.supports n.capability = true) (hrenders : n.RendersFor kind)
    (huncaught : kind.catches e = false) : (c.invoke n s w).1 = .error e := by
  obtain ⟨rqs, ⟨w', es, hrun, -⟩, -⟩ := ends_invoke h hn hrenders
  rw [hrun, ChannelKind.verdict, ChannelKind.wrap_uncaught huncaught]

/-- **Trouble surfaces as a failed delivery exactly if the channel catches it.** -/
theorem surfaces (h : c.Reaches n s w kind reached)
    (hn : kind.declaration.supports n.capability = true) (hrenders : n.RendersFor kind)
    (hplain : ∀ o, s.replies (requestCount w) ≠ .error (.operation o)) :
    ∃ v w' es, c.invoke n s w = (v, w') ∧ w'.journal = w.journal ++ es ∧
      (Dispatch.announce kind c n s w).1 = .ok (Attempt.result Json.isDeclined v) ∧
      Surfacing kind reached (s.replies (requestCount w)) v (es.filterMap Effect.request?) := by
  obtain ⟨rqs, ⟨w', es, hrun, hjournal, rfl, -⟩, honce⟩ := ends_invoke h hn hrenders
  refine ⟨_, w', es, hrun, hjournal, ?_, ChannelKind.surfacing_verdict hplain honce⟩
  have hclean := Dispatch.clean_kind_capability kind n.capability
  generalize kind.verdict reached = v at hrun
  cases v with
  | ok v => exact congrArg Prod.fst (attemptUnless_ok hclean hrun)
  | error e => exact congrArg Prod.fst (attemptUnless_error hclean hrun)

end Channel

/-- Surroundings in which every request fails. -/
def Surroundings.cut (e : Failure) : Surroundings := ⟨[], "", 0, fun _ => .error e, ""⟩

namespace Channel

/-- A deadline that passes is no unexpected error. -/
theorem surfaces_cut :
    let t : Endpoint.Target := ⟨"https://hooks.example.org", none⟩
    let s := Surroundings.cut (.outside .requestTimeout "read timed out")
    let w := World.settled .bare
    t.channel.Reaches (.test "ping") s w .webhook (t.reach? s w) ∧
      ChannelKind.webhook.declaration.supports (Notice.test "ping").capability = true ∧
      (Notice.test "ping").RendersFor .webhook ∧
      (∀ o, s.replies (requestCount w) ≠ .error (.operation o)) ∧
      ∃ v w', t.channel.invoke (.test "ping") s w = (v, w') ∧ IsSurfaced v := by
  intro t s w
  have hreaches : t.channel.Reaches (.test "ping") s w .webhook (t.reach? s w) := .webhook t
  have hplain : ∀ o, s.replies (requestCount w) ≠ .error (.operation o) := by
    intro o ho
    cases ho
  have hreached : t.reach? s w = some (.error (.outside .requestTimeout "read timed out")) := rfl
  obtain ⟨v, w', es, hrun, -, -, hsurfacing⟩ := surfaces hreaches rfl trivial hplain
  refine ⟨hreaches, rfl, trivial, hplain, v, w', hrun, hsurfacing.surfaces.mpr ?_⟩
  intro e he
  rw [hreached] at he
  cases he
  rfl

/-- An address without a scheme makes the chat channel fail with the refusal of its client, before
any request; a connection that the operating system resets does the like to the webhook channel.
Both count as unexpected. -/
theorem trouble_escapes :
    let t : Slack.Target := ⟨"hooks.slack.com/services/T000/B000/XXX", none, "", none⟩
    let u : Endpoint.Target := ⟨"https://hooks.example.org", none⟩
    let s := Surroundings.cut (.outside .system "connection reset")
    let w := World.settled .bare
    (t.channel.invoke (.test "ping") s w).1
        = .error (.unknownScheme "hooks.slack.com/services/T000/B000/XXX") ∧
      (u.channel.invoke (.test "ping") s w).1 = .error (.outside .system "connection reset") ∧
      ∀ e ∈ [Failure.unknownScheme "hooks.slack.com/services/T000/B000/XXX",
          .outside .system "connection reset"],
        ¬ IsSurfaced (.error e) ∧
          (Attempt.result Json.isDeclined (.error e)).errorCode = some "UNEXPECTED_ERROR" := by
  intro t u s w
  -- the scheme is looked for first, so that the address is not looked at further
  have haddress : Slack.addressFault? t.url = some (.unknownScheme t.url) := by
    have hscheme : Slack.hasScheme t.url = false := by decide
    have hnormal : Slack.normalAddress t.url = t.url := by decide
    rw [Slack.addressFault?, hscheme, hnormal]
    rfl
  have hrefused : t.channel.Reaches (.test "ping") s w .slack
      (some (.error (.unknownScheme t.url))) := by
    have hreached : t.reach? s w = some (.error (.unknownScheme t.url)) := by
      rw [Slack.Target.reach?, if_neg (by decide), Slack.reach, haddress]
      rfl
    rw [← hreached]
    exact .slack t
  have hreset : u.channel.Reaches (.test "ping") s w .webhook
      (some (.error (.outside .system "connection reset"))) := .webhook u
  refine ⟨invoke_uncaught hrefused rfl ⟨id, trivial⟩ rfl,
    invoke_uncaught hreset rfl trivial rfl, ?_⟩
  -- neither failure is an error of a delivery
  intro e he
  simp only [List.mem_cons, List.not_mem_nil, or_false] at he
  rcases he with rfl | rfl
  · have hforeign : (Failure.unknownScheme t.url).IsForeign := by
      intro o ho
      cases ho
    exact ⟨hforeign.not_isDelivery, rfl⟩
  · have hforeign : (Failure.outside .system "connection reset").IsForeign := by
      intro o ho
      cases ho
    exact ⟨hforeign.not_isDelivery, rfl⟩

end Channel

end JobHerald
