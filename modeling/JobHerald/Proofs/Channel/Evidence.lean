import Mathlib
import JobHerald.Proofs.Channel.Verdict

/-!
# The evidence behind announcements

What an announcement through a channel of this library comes to can be told from the answer
that the transport gives to the next request.  There is one answer at most, since nothing
is sent twice.

## Main definitions

* `Surroundings.Answers` — the reply of the transport to the next request.
* `Evidence` — what an announcement comes to, for a given answer of the transport.

## Main results

* `Announced.evidence` — what an announcement comes to is told by the answer to its post.
* `Slack.Target.evidence_deliver`, `Endpoint.Target.evidence_deliver`,
  `Mail.Account.evidence_deliver` — **every channel comes to what its answer says.**
-/

namespace JobHerald

open JobHerald.Action

/-! ### Codes -/

theorem Text.decimal_injective {m n : Int} (h : Text.decimal m = Text.decimal n) : m = n :=
  Int.repr_injective h

theorem OperationFailure.httpCode_injective {m n : Int} (h : httpCode m = httpCode n) : m = n := by
  refine Text.decimal_injective ?_
  rw [httpCode, httpCode] at h
  exact String.append_right_inj _ |>.mp h

theorem OperationFailure.httpCode_ne_empty (n : Int) : httpCode n ≠ "" := by
  intro h
  have hlength := congrArg String.length h
  rw [httpCode, String.length_append] at hlength
  have h5 : "HTTP_".length = 5 := by decide
  have h0 : "".length = 0 := by decide
  omega

/-- A refusal carries the status and the body of its response. -/
theorem ofFailure_refused {α : Type} (what : String) (r : Response) :
    (OperationResult.ofFailure (refused what r) : OperationResult α) =
      .failed .transient (what ++ " (" ++ Text.decimal r.status ++ "): " ++ r.body)
        (OperationFailure.httpCode r.status) := by
  have hne : "HTTP_" ++ Text.decimal r.status ≠ "" := OperationFailure.httpCode_ne_empty r.status
  simp only [refused, OperationFailure.delivery, OperationFailure.withCode, if_neg hne,
    OperationResult.ofFailure, OperationFailure.status, OperationFailure.httpCode]

/-! ### What announcements come to -/

/-- The transport answers the next request with a given reply, which knows no status of its own. -/
structure Surroundings.Answers (s : Surroundings) (w : World) (reply : Except Failure Response) :
    Prop where
  /-- It is the reply to the next request. -/
  next : s.replies (requestCount w) = reply
  /-- A failure of the transport is none of an operation. -/
  plain : ∀ o, reply ≠ .error (.operation o)

theorem Surroundings.Answers.isPlain {s : Surroundings} {w : World} {e : Failure}
    (h : s.Answers w (.error e)) : e.IsPlain :=
  Failure.isPlain_of_ne_operation fun o ho => h.plain o (congrArg Except.error ho)

/-- What an announcement through a kind of channel comes to, for a transport with a given
answer to the next request. -/
inductive Evidence (kind : ChannelKind) (answer : Option Response) :
    Except Failure Json → List Request → Prop
  /-- The channel is not configured. -/
  | declined : Evidence kind answer (.ok declined) []
  /-- Nothing was sent. -/
  | unsent {e : Failure} (he : e.IsPlain) : Evidence kind answer (.error e) []
  /-- There was no response. -/
  | lost {e : Failure} (he : e.IsPlain) (rq : Request) (ha : answer = none) :
    Evidence kind answer (.error e) [rq]
  /-- The response accepted the notice. -/
  | accepted {r : Response} (rq : Request) (ha : answer = some r) (hr : kind.accepts r = true) :
    Evidence kind answer (.ok delivered) [rq]
  /-- The response refused the notice. -/
  | refused {r : Response} (what : String) (rq : Request) (ha : answer = some r)
      (hr : kind.accepts r = false) :
    Evidence kind answer (.error (refused what r)) [rq]

section Channels

variable {s : Surroundings} {w : World} {kind : ChannelKind} {reply : Except Failure Response}

/-- The verdict on the answer to a request is told by that answer: there was no response, or there
was one, which accepted the notice or refused it. -/
theorem evidence_reply (h : s.Answers w reply) (rq : Request) :
    Evidence kind (kind.response? reply) (kind.verdict (some (kind.reply s w))) [rq] := by
  rw [ChannelKind.reply, h.next]
  cases hresponse : kind.response? reply with
  | some r =>
    dsimp only
    rw [ChannelKind.verdict]
    -- a response decides by its status and body
    cases haccepts : kind.accepts r with
    | true => exact .accepted rq rfl haccepts
    | false => exact .refused _ rq rfl haccepts
  -- only a failed exchange leaves no response
  | none =>
    cases reply with
    | ok r => simp [ChannelKind.response?] at hresponse
    | error e => exact .lost (ChannelKind.isPlain_wrap h.isPlain) rq rfl

/-- **What an announcement comes to is told by the answer to its post**, if the post makes one
request at most. -/
theorem Announced.evidence {c : Course} {Reached : Except Failure Response → List Request → Prop}
    {v : Except Failure Json} {rqs : List Request} (h : s.Answers w reply)
    (honce : ∀ {r rqs}, Reached r rqs → AsksOnce kind s w r rqs)
    (hv : Announced kind c Reached v rqs) : Evidence kind (kind.response? reply) v rqs := by
  cases hv with
  | declined _ => exact .declined
  | failed _ he => exact .unsent he
  | posted _ hr =>
    cases honce hr with
    | unasked he => exact .unsent (ChannelKind.isPlain_wrap he.isPlain)
    | asked rq => exact evidence_reply h rq

theorem Slack.Target.evidence_deliver (t : Target) (n : Notice) (h : s.Answers w reply) :
    (t.deliver n).Trades s w (Evidence .slack (ChannelKind.slack.response? reply)) :=
  (t.announced_deliver n).mono fun _ _ hv => hv.evidence h Reached.asksOnce

theorem Endpoint.Target.evidence_deliver (t : Target) (n : Notice) (h : s.Answers w reply) :
    (t.deliver n).Trades s w (Evidence .webhook (ChannelKind.webhook.response? reply)) :=
  (t.announced_deliver n).mono fun _ _ hv => hv.evidence h Reached.asksOnce

theorem Mail.Account.evidence_deliver (a : Account) (n : Notice) (h : s.Answers w reply) :
    (a.deliver n).Trades s w (Evidence .email (ChannelKind.email.response? reply)) :=
  (a.announced_deliver n).mono fun _ _ hv => hv.evidence h Reached.asksOnce

end Channels

end JobHerald
