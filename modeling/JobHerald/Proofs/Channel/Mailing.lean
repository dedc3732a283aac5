import JobHerald.Proofs.Channel.Verdict

/-!
# Emails that are sent

Only the client of the email service names an account in its requests, so that they can be told from
those to chats and webhooks.  How many of them an action makes, and what they are, adds up over its
steps: a bound for each step is a bound for the whole.

## Main definitions

* `Request.isAuthorized` — requests that name an account.
* `Mailed`, `Action.Mails` — requests and actions with so many emails at most, each with a property.
* `Mail.Account.Emails` — the emails of an account about a notice.

## Main results

* `Action.mails_bind`, `Action.mails_forEach`, … — the bounds add up.
* `Slack.Target.mails_deliver`, `Endpoint.Target.mails_deliver` — chats and webhooks send no emails.
* `Mail.Account.mails_deliver` — **the email channel sends one email at most about a notice, to the
  receiver and with the template of the notice.**
-/

namespace JobHerald

open JobHerald.Action

/-! ### Emails among requests -/

/-- Whether a request names an account, as those to the email service do. -/
def Request.isAuthorized (rq : Request) : Bool := rq.headers.any (·.1 == "Authorization")

/-- Requests among which there are so many emails at most, each with a property. -/
structure Mailed (good : Request → Prop) (k : Nat) (rqs : List Request) : Prop where
  /-- Each email has the property. -/
  good : ∀ rq ∈ rqs, rq.isAuthorized = true → good rq
  /-- There are not too many. -/
  few : rqs.countP Request.isAuthorized ≤ k

section Emails

variable {good good' : Request → Prop} {k k' : Nat} {rqs rqs' : List Request}

theorem mailed_of_unauthorized (h : ∀ rq ∈ rqs, rq.isAuthorized = false) : Mailed good 0 rqs where
  good rq hrq hauthorized := by
    rw [h rq hrq] at hauthorized
    cases hauthorized
  few := by
    rw [Nat.le_zero, List.countP_eq_zero]
    intro rq hrq
    simp [h rq hrq]

theorem mailed_nil : Mailed good 0 [] := mailed_of_unauthorized (by simp)

/-- A single request is one email at most, and a good one if it is an email at all. -/
theorem mailed_singleton {rq : Request} (h : good rq) : Mailed good 1 [rq] where
  good rq' hrq' _ := by
    rw [List.mem_singleton] at hrq'
    exact hrq' ▸ h
  few := List.countP_le_length

theorem Mailed.append (h : Mailed good k rqs) (h' : Mailed good k' rqs') :
    Mailed good (k + k') (rqs ++ rqs') where
  good rq hrq := (List.mem_append.mp hrq).elim (h.good rq) (h'.good rq)
  few := by
    rw [List.countP_append]
    exact Nat.add_le_add h.few h'.few

theorem Mailed.mono (h : Mailed good k rqs) (hgood : ∀ rq, good rq → good' rq) (hk : k ≤ k') :
    Mailed good' k' rqs where
  good rq hrq hauthorized := hgood rq (h.good rq hrq hauthorized)
  few := Nat.le_trans h.few hk

end Emails

/-! ### Actions that send emails -/

namespace Action

/-- An action that sends so many emails at most, each with a property, wherever the settings of the
process come to a given result. -/
def Mails {α : Type} (x : Action α) (s : Surroundings) (had : Except Failure Settings)
    (good : Request → Prop) (k : Nat) : Prop :=
  ∀ w, (settings s w).1 = had → x.Trades s w fun _ rqs => Mailed good k rqs

section Rules

variable {α β γ : Type} {s : Surroundings} {had : Except Failure Settings}
  {good good' : Request → Prop} {k k' : Nat} {x : Action α} {f : α → Action β}

theorem Mails.mono (hx : x.Mails s had good k) (hgood : ∀ rq, good rq → good' rq) (hk : k ≤ k') :
    x.Mails s had good' k' := by
  intro w hw
  obtain ⟨r, rqs, hends, hmailed⟩ := hx w hw
  exact ⟨r, rqs, hends, hmailed.mono hgood hk⟩

/-- What makes no request sends no email. -/
theorem mails_of_ends (hx : ∀ w, ∃ r, x.Ends s w r []) : x.Mails s had good 0 := by
  intro w _
  obtain ⟨r, hends⟩ := hx w
  exact ⟨r, [], hends, mailed_nil⟩

theorem mails_pure (a : α) : (pure a : Action α).Mails s had good 0 :=
  mails_of_ends fun _ => ⟨_, ends_pure a⟩

theorem mails_fail (e : Failure) : (fail e : Action α).Mails s had good 0 :=
  mails_of_ends fun _ => ⟨_, ends_fail e⟩

theorem mails_ofExcept (r : Except Failure α) : (ofExcept r).Mails s had good 0 :=
  mails_of_ends fun _ => ⟨_, ends_ofExcept r⟩

theorem mails_log (l : Log.Level) (event : String) (fs : Fields) :
    (log l event fs).Mails s had good 0 :=
  mails_of_ends fun _ => ⟨_, ends_log l event fs⟩

/-- The emails of two steps add up; the second one has to be bounded for the values that the first
can return. -/
theorem mails_bind (hx : x.Mails s had good k)
    (hf : ∀ a, x.CanReturn a → (f a).Mails s had good k') :
    (x >>= f).Mails s had good (k + k') := by
  intro w hw
  obtain ⟨r, rqs, hends, hmailed⟩ := hx w hw
  cases r with
  | error e => exact ⟨_, rqs, hends.bind_error, hmailed.mono (fun _ h => h) (Nat.le_add_right k k')⟩
  | ok a =>
    -- the settings are still the same for the second step
    obtain ⟨w', hrun, hlater, hgo⟩ := hends.after
    obtain ⟨r, rqs', hends', hmailed'⟩ := hf a ⟨s, w, w', hrun⟩ w' (hlater.settings.trans hw)
    exact ⟨r, _, hgo hends' (bind_ok hrun), hmailed.append hmailed'⟩

/-- A first step that sends no email: what the second one sends is what both send. -/
theorem mails_bind_first (hx : x.Mails s had good 0)
    (hf : ∀ a, x.CanReturn a → (f a).Mails s had good k) : (x >>= f).Mails s had good k := by
  have h := mails_bind hx hf
  rwa [Nat.zero_add] at h

/-- A second step that sends no email: what the first one sends is what both send. -/
theorem mails_bind_last (hx : x.Mails s had good k) (hf : ∀ a, (f a).Mails s had good 0) :
    (x >>= f).Mails s had good k :=
  mails_bind hx fun a _ => hf a

/-- A first step that comes to one value wherever the settings are as given. -/
theorem mails_bind_of_ends {a : α} (hx : ∀ w, (settings s w).1 = had → x.Ends s w (.ok a) [])
    (hf : (f a).Mails s had good k) : (x >>= f).Mails s had good k := by
  intro w hw
  obtain ⟨w', hrun, hlater, hgo⟩ := (hx w hw).after
  obtain ⟨r, rqs, hends, hmailed⟩ := hf w' (hlater.settings.trans hw)
  exact ⟨r, rqs, hgo hends (bind_ok hrun), hmailed⟩

theorem mails_attemptUnless {declined : α → Bool} {event : String} {context : Fields}
    (hc : Attempt.Clean context) (hx : x.Mails s had good k) :
    (attemptUnless declined x event context).Mails s had good k := by
  intro w hw
  obtain ⟨r, rqs, hends, hmailed⟩ := hx w hw
  exact ⟨_, rqs, hends.attemptUnless hc, hmailed⟩

theorem mails_within {b : Log.Binding} (hx : x.Mails s had good k) :
    (within b x).Mails s had good k := by
  intro w hw
  obtain ⟨r, rqs, hends, hmailed⟩ := hx _ ((settings_of_context s w _).trans hw)
  exact ⟨r, rqs, hends.within, hmailed⟩

/-- A loop sends an email at most for each item that may need one. -/
theorem mails_forEach {p : γ → Bool} {f : γ → Action α}
    (hf : ∀ c, (f c).Mails s had good (if p c then 1 else 0)) (cs : List γ) :
    (forEach f cs).Mails s had good (cs.countP p) := by
  induction cs with
  | nil => exact mails_pure []
  | cons c cs ih =>
    rw [List.countP_cons, Nat.add_comm]
    exact mails_bind (hf c) fun a _ => mails_bind_last ih fun as => mails_pure (a :: as)

end Rules

end Action

/-! ### Chats and webhooks -/

section Others

variable {s : Surroundings} {had : Except Failure Settings} {good : Request → Prop}

/-- The chat channel sends no email. -/
theorem Slack.Target.mails_deliver (t : Target) (n : Notice) :
    (t.deliver n).Mails s had good 0 := by
  refine fun w _ => (t.announced_deliver n).mono fun v rqs hv => hv.requests mailed_nil ?_
  rintro r _ - ⟨-, payload, -, rfl⟩
  refine mailed_of_unauthorized fun rq hrq => ?_
  obtain ⟨patience, rfl⟩ := mem_asks hrq
  rfl

/-- The webhook channel sends no email. -/
theorem Endpoint.Target.mails_deliver (t : Target) (n : Notice) :
    (t.deliver n).Mails s had good 0 := by
  refine fun w _ => (t.announced_deliver n).mono fun v rqs hv => hv.requests mailed_nil ?_
  rintro r _ - ⟨-, text, -, rfl⟩
  refine mailed_of_unauthorized fun rq hrq => ?_
  obtain ⟨agent, patience, rfl⟩ := mem_asks hrq
  rfl

end Others

/-! ### The email channel -/

namespace Mail

variable {s : Surroundings} {w : World} {known : Settings} {good : Request → Prop}

/-- A post to the service is one email at most, as the settings of the process say. -/
theorem mailed_asks {endpoint : String} {payload : Json} (hknown : (settings s w).1 = .ok known)
    (hgood : ∀ header, known.notify.header s.clock = .ok header →
      good (request known header endpoint payload)) :
    Mailed good 1 (asks endpoint payload s w) := by
  have hnone : Mailed good 1 [] := mailed_nil.mono (fun _ h => h) (Nat.zero_le 1)
  rw [asks, hknown]
  dsimp only
  -- without a header, or with a number that cannot be written, nothing is posted
  cases hheader : known.notify.header s.clock with
  | error e => exact hnone
  | ok header =>
    dsimp only
    split
    · exact mailed_singleton (hgood header hheader)
    · exact hnone

namespace Account

/-- The emails of an account about a notice: they go to the receiver that the notice names, or else
to that of the account, with the template for the notice, and only if there are all of these. -/
def Emails (a : Account) (n : Notice) (clock : Int) (known : Settings) (rq : Request) : Prop :=
  ∃ header receiver values, known.notify.header clock = .ok header ∧
    a.receiverFor n.receiver? = some receiver ∧
    a.isConfigured (a.settings.templateFor n.capability) = true ∧
    rq = request known header emailEndpoint
      (emailPayload receiver (a.settings.templateFor n.capability) values)

/-- The email channel sends one email at most about a notice that is not sent in bulk. -/
theorem mails_deliver (a : Account) {n : Notice} (hbulk : n.isBulk = false) :
    (a.deliver n).Mails s (.ok known) (a.Emails n s.clock known) 1 := by
  refine fun w hw => (a.announced_deliver n).mono fun v rqs hv => hv.requests ?_ ?_
  · exact mailed_nil.mono (fun _ h => h) (Nat.zero_le 1)
  · rintro r _ hsends ⟨-, endpoint, payload, hpayload, rfl⟩
    -- what is not declined has been configured
    have hsent : a.sends n = true := eq_true_of_ne_false hsends
    rw [sends, Bool.and_eq_true] at hsent
    cases hpayload with
    | email hreceiver hvalues =>
      exact mailed_asks hw fun header hheader =>
        ⟨header, _, _, hheader, hreceiver, hsent.1, rfl⟩
    | bulk h => exact absurd hbulk (by simp [(isBulk_of_bulk? h).1])

end Account

end Mail

end JobHerald
