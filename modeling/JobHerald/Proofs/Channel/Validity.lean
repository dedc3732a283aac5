import JobHerald.Proofs.Channel.Notices

/-!
# Messages that are valid

The chat channel checks twice that a message can be shown: while its blocks are made, and before it
is posted.  Neither check ever finds anything: the texts are cut to the limits that the service
sets, whatever the length of the names, the links, the reason of a failure or the summary of a
change, and whatever limit a target sets for a reason.

## Main definitions

* `Slack.Block.IsWithinLimits` — blocks within the limits of the chat service.
* `Slack.Target.AlwaysPasses` — messages that neither check of the channel turns down.

## Main results

* `Slack.Block.fits_iff_isWithinLimits` — the chat service takes the blocks within its limits.
* `Slack.Target.always_passes_message` — **no message about a notice is turned down by a check.**
-/

namespace JobHerald

open JobHerald.Action

namespace Slack

/-! ### Limits -/

/-- A block within the limits of the chat service: a text has at most 3000 characters, and fields
number at most ten. -/
def Block.IsWithinLimits : Block → Prop
  | text s => s.length ≤ 3000
  | fields texts => texts ≠ [] ∧ texts.length ≤ 10
  | divider => True

theorem Block.fits_iff_isWithinLimits {b : Block} : b.Fits ↔ b.IsWithinLimits := by
  cases b with
  | text s => exact fits_text_iff
  | fields texts => exact fits_fields_iff
  | divider => exact ⟨fun _ => trivial, fun _ => rfl⟩

namespace Target

/-! ### Messages that pass -/

/-- A message that neither check of the channel turns down, and that is made under a condition. -/
structure AlwaysPasses (possible : Prop) (render : Action Fields) : Prop where
  /-- It is made exactly under the condition, in every run. -/
  made : ∀ s w, (∃ payload w', render s w = (.ok payload, w')) ↔ possible
  /-- Whenever it is made, it consists of blocks within the limits. -/
  within_limits : ∀ payload, render.CanReturn payload → ∃ blocks : List Block,
    blocksOf payload = .arr (blocks.map Block.toJson) ∧ ∀ b ∈ blocks, b.IsWithinLimits
  /-- Whenever it is made, the check of its blocks finds nothing. -/
  valid : ∀ payload, render.CanReturn payload → blocksValid (blocksOf payload) = .ok true
  /-- No block is malformed when it is not made. -/
  formed : ∀ s w e w', render s w = (.error e, w') → e.family ≠ .blockForm
  /-- The two checks change nothing. -/
  unchecked : prepare render = render
  /-- So the channel never says that a message could not be rendered. -/
  unreached : ∀ s w message w',
    prepare render s w ≠ (.error (undelivered message "RENDER_FAILED"), w')

section Passing

variable {possible : Prop} {render : Action Fields}

/-- A message that is laid out goes through both checks unchanged. -/
theorem prepare_eq (h : render.Makes (RendersIf possible IsLaidOut)) : prepare render = render := by
  obtain ⟨r, es, -, hr, hrun⟩ := h
  funext s w
  rw [prepare]
  cases hr with
  | @made payload hpossible hlaid =>
    rw [bind_ok (handle_ok (hrun s w)), blocksValid_of_isLaidOut hlaid, hrun s w]
    rfl
  -- a message that cannot be written fails as it would have failed unchecked
  | unwritable hpossible he =>
    have hfailure := handle_error (f := fun e => .fail (renderFailure e)) (hrun s w)
    rw [renderFailure_unwritable he] at hfailure
    rw [bind_error hfailure, hrun s w]

/-- What is laid out whenever it is made is turned down by neither check. -/
theorem alwaysPasses (h : render.Makes (RendersIf possible IsLaidOut)) :
    AlwaysPasses possible render where
  made s w := by
    cases hrun : render s w with
    | mk r w' =>
      have hmade := (h.of_run hrun).exists_iff
      simpa using hmade
  within_limits payload hpayload := by
    obtain ⟨s, w, w', hrun⟩ := hpayload
    cases h.of_run hrun with
    | made hpossible hlaid =>
      obtain ⟨blocks, hfits, hblocks⟩ := hlaid
      exact ⟨blocks, hblocks, fun b hb => Block.fits_iff_isWithinLimits.mp (hfits b hb)⟩
  valid payload hpayload := by
    obtain ⟨s, w, w', hrun⟩ := hpayload
    cases h.of_run hrun with
    | made hpossible hlaid => exact blocksValid_of_isLaidOut hlaid
  formed s w e w' hrun := by
    cases h.of_run hrun with
    | unwritable hpossible he => rcases he with rfl | rfl <;> decide
  -- the checks change nothing, so that the last two follow from the equation
  unchecked := prepare_eq h
  unreached s w message w' hrun := by
    rw [prepare_eq h] at hrun
    cases h.of_run hrun with
    | unwritable hpossible he => rcases he with he | he <;> cases he

end Passing

variable {t : Target} {n : Notice}

/-- **No message about a notice is turned down by a check.**  The chat channel announces each
notice that it declares by sending a message, which is made unless a time or a number of a finished
job cannot be shown, and then keeps within all limits of the chat service. -/
theorem always_passes_message (h : declaration.supports n.capability = true) :
    ∃ render, t.deliver n = t.send render ∧
      AlwaysPasses (¬ n.MixesClocks ∧ n.IsCountable) render := by
  have hmessage := t.isSome_message? n
  rw [h, Option.isSome_iff_exists] at hmessage
  obtain ⟨render, hrender⟩ := hmessage
  exact ⟨render, deliver_eq_send hrender, alwaysPasses (makes_message hrender)⟩

/-- A failure with a reason that is too long for a section, sent with a limit below zero. -/
theorem always_passes_long_reason :
    ∃ render, Target.deliver ⟨"https://hooks.slack.com/x", none, defaultHost, some (-3)⟩
        (.jobFailure { EventSummary.timed ⟨0, .unknown⟩ ⟨5000000, .unknown⟩ with
          errorMessage := some (String.ofList (List.replicate 4000 'x')) } none)
        = Target.send ⟨"https://hooks.slack.com/x", none, defaultHost, some (-3)⟩ render ∧
      ∃ payload w', render .busy .initial = (.ok payload, w') := by
  obtain ⟨render, hdeliver, hpasses⟩ := always_passes_message
    (t := ⟨"https://hooks.slack.com/x", none, defaultHost, some (-3)⟩)
    (n := .jobFailure { EventSummary.timed ⟨0, .unknown⟩ ⟨5000000, .unknown⟩ with
      errorMessage := some (String.ofList (List.replicate 4000 'x')) } none) rfl
  refine ⟨render, hdeliver, (hpasses.made .busy .initial).mpr ⟨?_, ?_⟩⟩
  · rintro ⟨start, stop, htimes, hoffsets⟩
    cases htimes
    exact hoffsets rfl
  · exact ⟨Text.isWithinLimit_zero, Text.isWithinLimit_zero⟩

end Target

end Slack

end JobHerald
