import JobHerald.Channel.Webhook
import JobHerald.Proofs.Channel.Layout

/-!
# What channels send about notices

A channel has one way of sending, and uses it for each of the notices that it declares.  What it
sends is made from the notice alone, and can be made unless a time or a number of a finished job
cannot be shown.

## Main definitions

* `Notice.IsCountable`, `Notice.receiver?`, `Notice.isBulk`, `NotifySettings.templateFor` — what
  matters about a notice.
* `Slack.Target.message?` — the message that the chat channel makes of a notice.
* `Endpoint.Target.text?` — the text that the webhook channel makes of a notice.
* `Mail.values?`, `Mail.bulk?` — the values of an email about a notice, and the bulk job about it.

## Main results

* `Slack.Target.deliver_eq_send`, `Endpoint.Target.deliver_eq`, `Mail.Account.deliver_eq_send`,
  `Mail.Account.deliver_eq_sendAll` — **a notice is announced by sending what is made of it.**
* `Slack.Target.makes_message`, `Endpoint.Target.exists_text`, `Mail.exists_values` — when it can be
  made.
-/

namespace JobHerald

open JobHerald.Action

/-! ### Notices -/

/-- A notice whose numbers of records can be written. -/
def Notice.IsCountable : Notice → Prop
  | jobFailure summary _ => summary.IsCountable
  | jobSuccess summary _ => summary.IsCountable
  | _ => True

/-- The receiver that a notice names. -/
def Notice.receiver? : Notice → Option String
  | jobFailure _ receiver => receiver
  | jobSuccess _ receiver => receiver
  | connectionDisabled event => event.receiver.map (·.address)
  | connectionDisableWarning event => event.receiver.map (·.address)
  | schemaPropagated _ update => update.receiver.map (·.address)
  | _ => none

/-- Whether a notice goes to receivers of its own, in bulk. -/
def Notice.isBulk : Notice → Bool
  | breakingChangeWarning _ => true
  | breakingChangeSyncsDisabled _ => true
  | _ => false

/-- The template for what a notice needs; there is none for tests. -/
def NotifySettings.templateFor (s : NotifySettings) : Capability → String
  | .jobFailure => s.jobFailureTemplate
  | .jobSuccess => s.jobSuccessTemplate
  | .connectionDisabled => s.disabledTemplate
  | .connectionDisableWarning => s.disableWarningTemplate
  | .schemaPropagated => s.schemaTemplate
  | .breakingChangeWarning => s.breakingWarningTemplate
  | .breakingChangeSyncsDisabled => s.breakingDisabledTemplate
  | .test => ""

/-! ### The chat channel -/

namespace Slack.Target

/-- The message about a notice; there is none about what the chat channel does not announce. -/
def message? (t : Target) : Notice → Option (Action Fields)
  | .jobFailure s _ => some (t.jobPayload "job_failure" s)
  | .jobSuccess s _ => some (t.jobPayload "job_success" s)
  | .connectionDisabled c => some (connectionPayload "connection_disabled" c)
  | .connectionDisableWarning c => some (connectionPayload "connection_disable_warning" c)
  | .schemaPropagated summary u => some (schemaMessage summary u)
  | .breakingChangeWarning _ => none
  | .breakingChangeSyncsDisabled _ => none
  | .test message => some (pure (plainMessage message))

section Messages

variable {t : Target} {n : Notice} {render : Action Fields}

/-- There is a message about each notice that is declared, and about no other. -/
theorem isSome_message? (t : Target) (n : Notice) :
    (t.message? n).isSome = declaration.supports n.capability := by
  cases n <;> rfl

/-- A target decides nothing about a message but where a reason is cut. -/
theorem message?_eq {t t' : Target} (h : t'.reasonLimit = t.reasonLimit) (n : Notice) :
    t'.message? n = t.message? n := by
  cases n with
  | jobFailure summary receiver => rw [message?, jobPayload, h, message?, jobPayload]
  | jobSuccess summary receiver => rw [message?, jobPayload, h, message?, jobPayload]
  | _ => rfl

/-- A notice with values is announced by one email, to the receiver and with the template of the
notice. -/
theorem deliver_eq_send (h : t.message? n = some render) : t.deliver n = t.send render := by
  cases n <;> cases h <;> rfl

/-- The message about a notice can be made, and is laid out, unless a time or a number of a
finished job cannot be shown. -/
theorem makes_message (h : t.message? n = some render) :
    render.Makes (RendersIf (¬ n.MixesClocks ∧ n.IsCountable) IsLaidOut) := by
  -- a notice that is not about a job has no times and no numbers
  have hother : ∀ {x : Action Fields}, x.Makes (RendersIf True IsLaidOut) →
      x.Makes (RendersIf (¬ False ∧ True) IsLaidOut) := by
    intro x hx
    rwa [not_false_eq_true, true_and]
  cases n with
  | jobFailure summary receiver =>
    cases h
    exact t.makes_jobPayload summary (.inl rfl)
  | jobSuccess summary receiver =>
    cases h
    exact t.makes_jobPayload summary (.inr rfl)
  | connectionDisabled event =>
    cases h
    exact hother (makes_connectionPayload event (.inl rfl))
  | connectionDisableWarning event =>
    cases h
    exact hother (makes_connectionPayload event (.inr rfl))
  | schemaPropagated summary update =>
    cases h
    exact hother (makes_schemaMessage summary update)
  | breakingChangeWarning change => cases h
  | breakingChangeSyncsDisabled change => cases h
  | test message =>
    cases h
    exact hother (makes_pure (.made trivial (isLaidOut_plainMessage message)))

end Messages

end Slack.Target

/-! ### The webhook channel -/

namespace Endpoint.Target

/-- The text about a notice; there is none about what the webhook channel does not announce. -/
def text? : Notice → Option (Except Failure String)
  | .jobFailure s _ => some (Template.render "job_failure" (Template.jobValues s))
  | .jobSuccess s _ => some (Template.render "job_success" (Template.jobValues s))
  | .connectionDisabled c =>
      some (Template.render "connection_disabled" (Template.connectionValues c))
  | .connectionDisableWarning c =>
      some (Template.render "connection_disable_warning" (Template.connectionValues c))
  | .schemaPropagated summary u =>
      some (Template.render "schema_propagated" (Template.schemaValues summary u))
  | .breakingChangeWarning _ => none
  | .breakingChangeSyncsDisabled _ => none
  | .test message => some (.ok message)

/-- There is a text about each notice that is declared: its template can be rendered with the values
that it is given. -/
theorem exists_text {n : Notice} (h : declaration.supports n.capability = true) :
    ∃ text, text? n = some (.ok text) := by
  -- all but the test message are rendered from a template
  have hrendered : ∀ {r : Except Failure String}, (∃ text, r = .ok text) →
      ∃ text, some r = some (.ok text) := by
    rintro r ⟨text, rfl⟩
    exact ⟨text, rfl⟩
  cases n with
  | jobFailure summary receiver => exact hrendered (Template.exists_render_job summary (.inl rfl))
  | jobSuccess summary receiver => exact hrendered (Template.exists_render_job summary (.inr rfl))
  | connectionDisabled event =>
    exact hrendered (Template.exists_render_connection event (.inl rfl))
  | connectionDisableWarning event =>
    exact hrendered (Template.exists_render_connection event (.inr rfl))
  | schemaPropagated summary update =>
    exact hrendered (Template.exists_render_schema summary update)
  | test message => exact ⟨message, rfl⟩
  | breakingChangeWarning change => cases h
  | breakingChangeSyncsDisabled change => cases h

theorem sendTemplate_eq (t : Target) {template text : String} {values : Fields}
    (h : Template.render template values = .ok text) :
    t.sendTemplate template values = t.send text := by
  rw [sendTemplate, h]
  rfl

/-- A notice with a text is announced by sending it. -/
theorem deliver_eq (t : Target) {n : Notice} {text : String} (h : text? n = some (.ok text)) :
    t.deliver n = t.send text := by
  cases n with
  | test message =>
    cases h
    rfl
  | breakingChangeWarning change => cases h
  | breakingChangeSyncsDisabled change => cases h
  | _ => exact t.sendTemplate_eq (Option.some.inj h)

end Endpoint.Target

/-! ### The email channel -/

namespace Mail

/-- The values of the one email about a notice. -/
def values? : Notice → Option (Except Failure Fields)
  | .jobFailure s _ => some (jobValues s)
  | .jobSuccess s _ => some (jobValues s)
  | .connectionDisabled c => some (.ok (connectionValues c))
  | .connectionDisableWarning c => some (.ok (connectionValues c))
  | .schemaPropagated summary u => some (.ok (schemaValues summary u))
  | _ => none

/-- The title of the bulk job about a notice, and the change that it is about. -/
def bulk? : Notice → Option (String × BreakingChange)
  | .breakingChangeWarning b => some ("Breaking change warning", b)
  | .breakingChangeSyncsDisabled b => some ("Breaking change syncs disabled", b)
  | _ => none

section Values

variable {n : Notice} {values : Fields} {title : String} {change : BreakingChange}

theorem membersWithinLimit_jobValues {s : EventSummary} (h : jobValues s = .ok values) :
    Json.membersWithinLimit values = true ↔ s.IsCountable := by
  rw [jobValues] at h
  split at h
  · cases h
  · cases h
    simp [Json.membersWithinLimit, Json.isWithinLimit, EventSummary.IsCountable]

/-- The values of a template can be written if the numbers of records can. -/
theorem membersWithinLimit_values (h : values? n = some (.ok values)) :
    Json.membersWithinLimit values = true ↔ n.IsCountable := by
  cases n with
  | jobFailure summary receiver => exact membersWithinLimit_jobValues (Option.some.inj h)
  | jobSuccess summary receiver => exact membersWithinLimit_jobValues (Option.some.inj h)
  | connectionDisabled event =>
    cases h
    exact iff_of_true rfl trivial
  | connectionDisableWarning event =>
    cases h
    exact iff_of_true rfl trivial
  | schemaPropagated summary update =>
    cases h
    exact iff_of_true rfl trivial
  | breakingChangeWarning change => cases h
  | breakingChangeSyncsDisabled change => cases h
  | test message => cases h

/-- A bulk job tells of a breaking change: there are no times and no numbers in it. -/
theorem isBulk_of_bulk? (h : bulk? n = some (title, change)) :
    n.isBulk = true ∧ n.IsCountable ∧ ¬ n.MixesClocks := by
  cases n with
  | breakingChangeWarning change => exact ⟨rfl, trivial, id⟩
  | breakingChangeSyncsDisabled change => exact ⟨rfl, trivial, id⟩
  | _ => cases h

theorem isBulk_of_values? {r : Except Failure Fields} (h : values? n = some r) :
    n.isBulk = false := by
  cases n with
  | breakingChangeWarning change => cases h
  | breakingChangeSyncsDisabled change => cases h
  | _ => rfl

/-- About each notice that is declared there are values of an email, or a bulk job; the values
cannot be made if the clocks of a job are mixed. -/
theorem exists_values (hn : Account.declaration.supports n.capability = true)
    (hclocks : ¬ n.MixesClocks) :
    (∃ values, values? n = some (.ok values)) ∨ ∃ title change, bulk? n = some (title, change) := by
  -- only the values of a job need its clocks
  have hjob : ∀ {s : EventSummary}, ¬ s.MixesClocks →
      ∃ values, some (jobValues s) = some (.ok values) := by
    intro s hs
    obtain ⟨values, hvalues⟩ := exists_jobValues hs
    exact ⟨values, congrArg some hvalues⟩
  cases n with
  | jobFailure summary receiver => exact .inl (hjob hclocks)
  | jobSuccess summary receiver => exact .inl (hjob hclocks)
  | connectionDisabled event => exact .inl ⟨_, rfl⟩
  | connectionDisableWarning event => exact .inl ⟨_, rfl⟩
  | schemaPropagated summary update => exact .inl ⟨_, rfl⟩
  | breakingChangeWarning change => exact .inr ⟨_, _, rfl⟩
  | breakingChangeSyncsDisabled change => exact .inr ⟨_, _, rfl⟩
  | test message => cases hn

end Values

namespace Account

theorem sendJob_eq (a : Account) {template : String} {named : Option String} {s : EventSummary}
    {values : Fields} (h : jobValues s = .ok values) :
    a.sendJob template named s = a.send template named values := by
  rw [sendJob, h]
  rfl

theorem sendJob_mixed (a : Account) {template : String} {named : Option String} {s : EventSummary}
    (h : s.MixesClocks) : a.sendJob template named s = fail (.calendar .mixedClocks) := by
  rw [sendJob, jobValues_mixed h]
  rfl

variable {n : Notice}

/-- A notice with values is announced by one email. -/
theorem deliver_eq_send (a : Account) {values : Fields} (h : values? n = some (.ok values)) :
    a.deliver n = a.send (a.settings.templateFor n.capability) n.receiver? values := by
  cases n with
  | jobFailure summary receiver => exact a.sendJob_eq (Option.some.inj h)
  | jobSuccess summary receiver => exact a.sendJob_eq (Option.some.inj h)
  | connectionDisabled event =>
    cases h
    rfl
  | connectionDisableWarning event =>
    cases h
    rfl
  | schemaPropagated summary update =>
    cases h
    rfl
  | breakingChangeWarning change => cases h
  | breakingChangeSyncsDisabled change => cases h
  | test message => cases h

/-- A breaking change is announced by a bulk job, which has its receivers in the rows. -/
theorem deliver_eq_sendAll (a : Account) {title : String} {change : BreakingChange}
    (h : bulk? n = some (title, change)) :
    a.deliver n = a.sendAll title (a.settings.templateFor n.capability) change := by
  cases n with
  | breakingChangeWarning b =>
    cases h
    rfl
  | breakingChangeSyncsDisabled b =>
    cases h
    rfl
  | _ => cases h

/-- The email channel fails about a job whose clocks are mixed, before it does anything. -/
theorem deliver_eq_mixed (a : Account) (h : n.MixesClocks) :
    a.deliver n = fail (.calendar .mixedClocks) := by
  cases n with
  | jobFailure summary receiver => exact a.sendJob_mixed h
  | jobSuccess summary receiver => exact a.sendJob_mixed h
  | _ => cases h

end Account

end Mail

end JobHerald
