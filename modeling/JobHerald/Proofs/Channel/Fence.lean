import JobHerald.Proofs.Channel.Layout

/-!
# The fences around a failure reason

A failure reason stands between two fences, so that it is shown as it was written.  It is cut twice:
to the limit of the target, which adds three dots, and then, together with the fences, to the limit
of a section.  The second cut never meets the closing fence if the first one leaves room for it, and
no other limit is sure to do so: without a limit, or with the limit zero, the reason stays whole,
and a limit below zero only takes characters from its end.

## Main definitions

* `Slack.shownReason?` — the text of the block with the reason, in a finished message.
* `Slack.ShowsReason` — what that text is in every message about a job that failed for a reason.

## Main results

* `Slack.makes_shownReason` — the text of the block, cut to the limit of a section.
* `Slack.exists_fence_iff` — the closing fence is left if the reason is short enough.
* `Slack.fence_survives_iff` — **the closing fence survives exactly for the limits 1 to 2969.**
-/

namespace JobHerald

open JobHerald.Action

namespace Text

/-- A negative position leaves out characters at the end. -/
theorem length_upTo_of_neg {k : Int} (h : k < 0) (s : String) :
    (upTo k s).length = s.length - k.natAbs := by
  cases k with
  | ofNat n => exact absurd h (Int.not_lt.mpr (Int.natCast_nonneg n))
  | negSucc n =>
    rw [upTo, length_take]
    show min (s.length - (n + 1)) s.length = s.length - (n + 1)
    omega

theorem length_upTo_natCast (n : Nat) (s : String) : (upTo n s).length = min n s.length := by
  rw [upTo, bound_natCast, length_take]

end Text

namespace Slack

/-! ### The block with the reason -/

/-- What stands in front of a failure reason. -/
def opening : String := "*Failure reason:*\n\n```\n"

/-- What stands after a failure reason. -/
def fence : String := "\n```\n"

theorem reasonText_eq (limit : Option Int) (reason : String) :
    reasonText limit reason = opening ++ cutReason limit reason ++ fence := rfl

/-- The two fences take up 28 characters. -/
theorem length_reasonText (limit : Option Int) (reason : String) :
    (reasonText limit reason).length = (cutReason limit reason).length + 28 := by
  have hopening : opening.length = 23 := by decide
  have hfence : fence.length = 5 := by decide
  rw [reasonText_eq, String.length_append, String.length_append, hopening, hfence]
  omega

/-- The text of a section in a message. -/
def sectionText? (block : Json) : Option String :=
  (block.get? "text").bind fun markup => (markup.get? "text").bind Json.str?

theorem sectionText?_toJson {s : String} (h : s ≠ "") :
    sectionText? (Block.text s).toJson = some s := by
  simp [sectionText?, Block.toJson, Block.markup, Json.get?, Json.obj?, Fields.get?_cons,
    Json.str?, h]

/-- The text of the block with the reason: the third of the four blocks about a failed job. -/
def shownReason? (payload : Fields) : Option String :=
  match Target.blocksOf payload with
  | .arr [_, _, reason, _] => sectionText? reason
  | _ => none

/-- Each message about a job that failed for a reason shows a text with a property in the block
with the reason.  Such a message is made if its duration and its totals can be shown. -/
def ShowsReason (limit : Option Int) (reason : String) (P : String → Prop) : Prop :=
  ∀ s text, s.isSuccess = false → s.errorMessage = some reason →
    (jobMessage s text limit).Makes (RendersIf (¬ s.MixesClocks ∧ s.IsCountable) fun payload =>
      ∃ shown, shownReason? payload = some shown ∧ P shown)

variable {limit : Option Int} {reason : String} {k : Int}

/-- A text that is cut is not empty. -/
theorem cut_ne_empty {n : Int} {s : String} (h : s ≠ "") : cut n s ≠ "" := by
  unfold cut
  split
  · exact h
  · simp

theorem reasonText_ne_empty (limit : Option Int) (reason : String) :
    reasonText limit reason ≠ "" := by
  intro h
  have hlength := length_reasonText limit reason
  rw [h] at hlength
  simp at hlength

theorem makes_reasonBlocks_text {s : EventSummary} (limit : Option Int)
    (hfailed : s.isSuccess = false) (hreason : s.errorMessage = some reason) :
    (reasonBlocks limit s).Makes
      (Yields (· = [(Block.text (cut sectionLimit (reasonText limit reason))).toJson])) := by
  have hblocks : reasonBlocks limit s = do return [← section' (reasonText limit reason)] := by
    rw [reasonBlocks, hfailed, hreason]
  rw [hblocks]
  refine makes_yields_bind (makes_section_text _) ?_
  rintro block rfl
  exact makes_pure rfl

/-- The block with the reason shows the reason between its fences, cut to the limit of a section. -/
theorem makes_shownReason (limit : Option Int) (reason : String) :
    ShowsReason limit reason (· = cut sectionLimit (reasonText limit reason)) := by
  intro s text hfailed hreason
  -- the duration can fail, and then there is no message in which the reason could be shown
  refine makes_bind (makes_ofExcept (rendersIf_durationFields s)) ?_
    fun e he => he.of_error And.left
  rintro ⟨label, duration⟩ ⟨hclocks, -⟩
  refine makes_yields_bind (makes_section _) fun title _ => ?_
  refine makes_yields_bind (makes_fields (by simp) (by simp [fieldsLimit])) fun ends _ => ?_
  refine makes_yields_bind (makes_reasonBlocks_text limit hfailed hreason) ?_
  rintro _ rfl
  refine makes_bind (makes_ofExcept (rendersIf_totalsText s)) ?_
    fun e he => he.of_error And.right
  rintro totals ⟨hcount, -⟩
  refine makes_yields_bind (makes_section totals) fun sum _ => ?_
  refine makes_pure (.made ⟨hclocks, hcount⟩ ⟨_, ?_, rfl⟩)
  -- the reason is in the third block
  rw [shownReason?]
  exact sectionText?_toJson (cut_ne_empty (reasonText_ne_empty limit reason))

/-! ### Reasons that are cut -/

theorem cutReason_of_le (h : (reason.length : Int) ≤ k) : cutReason (some k) reason = reason :=
  if_neg fun hcut => absurd hcut.2 (by omega)

theorem cutReason_of_lt (hk : k ≠ 0) (h : k < reason.length) :
    cutReason (some k) reason = Text.upTo k reason ++ "..." :=
  if_pos ⟨hk, h⟩

theorem length_append_dots (s : String) : (s ++ "...").length = s.length + 3 := by
  have hdots : "...".length = 3 := by decide
  rw [String.length_append, hdots]

/-- A positive limit leaves that many characters of a reason, with three dots after them if there
were more. -/
theorem cutReason_natCast {n : Nat} (hn : 1 ≤ n) (reason : String) :
    cutReason (some n) reason
      = if reason.length ≤ n then reason else Text.take n reason ++ "..." := by
  split
  · next hshort => exact cutReason_of_le (by omega)
  · next hlong =>
    rw [cutReason_of_lt (by omega) (by omega), Text.upTo, Text.bound_natCast]

/-! ### Fences that are left -/

/-- A text that ends with three dots does not end with the fence. -/
theorem not_fence_of_dots (s : String) : ¬ ∃ front, s ++ "..." = front ++ fence := by
  rintro ⟨front, h⟩
  have hlast := congrArg (fun t => t.toList.getLast?) h
  simp [fence] at hlast

theorem cut_reasonText_of_le (h : (cutReason limit reason).length ≤ 2972) :
    cut sectionLimit (reasonText limit reason) = reasonText limit reason := by
  have hlength := length_reasonText limit reason
  have hlimit : sectionLimit = 3000 := rfl
  exact if_pos (by omega)

theorem cut_reasonText_of_lt (h : 2972 < (cutReason limit reason).length) :
    cut sectionLimit (reasonText limit reason)
      = Text.take 2997 (reasonText limit reason) ++ "..." := by
  have hlength := length_reasonText limit reason
  have hlimit : sectionLimit = 3000 := rfl
  exact if_neg (by omega)

/-- The closing fence is left if the reason, as its target's limit leaves it, has at most 2972
characters. -/
theorem exists_fence_iff :
    (∃ front, cut sectionLimit (reasonText limit reason) = front ++ fence) ↔
      (cutReason limit reason).length ≤ 2972 := by
  constructor
  · intro hfence
    refine Decidable.byContradiction fun hlong => ?_
    rw [cut_reasonText_of_lt (by omega)] at hfence
    exact not_fence_of_dots _ hfence
  · intro hshort
    exact ⟨_, by rw [cut_reasonText_of_le hshort, reasonText_eq]⟩

/-- A limit leaves room for the closing fence if it is one of the numbers 1 to 2969. -/
def LeavesRoom (limit : Option Int) : Prop := ∃ k : Int, limit = some k ∧ 1 ≤ k ∧ k ≤ 2969

theorem length_cutReason_le (h : LeavesRoom limit) (reason : String) :
    (cutReason limit reason).length ≤ 2972 := by
  obtain ⟨k, rfl, hpos, hroom⟩ := h
  obtain ⟨n, rfl⟩ := Int.eq_ofNat_of_zero_le (a := k) (by omega)
  rw [cutReason_natCast (by omega)]
  split
  · omega
  · rw [length_append_dots, Text.length_take]
    omega

/-- Every other limit leaves too much of some reason: of one that is longer than what fits by what
the limit takes away. -/
theorem exists_long_cutReason (h : ¬ LeavesRoom limit) :
    ∃ reason, 2972 < (cutReason limit reason).length := by
  have hexists : ∀ n, ∃ reason : String, reason.length = n :=
    fun n => ⟨String.ofList (List.replicate n 'x'), by simp⟩
  cases limit with
  | none =>
    obtain ⟨reason, hlength⟩ := hexists 2973
    exact ⟨reason, by rw [cutReason]; omega⟩
  | some k =>
    -- one character more than fits, and as many more as the limit allows or takes from the end
    obtain ⟨reason, hlength⟩ := hexists (k.natAbs + 2973)
    refine ⟨reason, ?_⟩
    rcases Int.lt_trichotomy k 0 with hneg | rfl | hpos
    · rw [cutReason_of_lt (by omega) (by omega), length_append_dots, Text.length_upTo_of_neg hneg]
      omega
    · rw [cutReason, if_neg (by simp)]
      omega
    · have hlarge : 2969 < k := by
        refine Decidable.byContradiction fun hsmall => h ⟨k, rfl, ?_, ?_⟩ <;> omega
      obtain ⟨n, rfl⟩ := Int.eq_ofNat_of_zero_le (a := k) (by omega)
      rw [cutReason_of_lt (by omega) (by omega), length_append_dots, Text.length_upTo_natCast]
      omega

/-! ### The limits -/

/-- A job that failed for a reason as soon as it started. -/
def failedFor (reason : String) : EventSummary :=
  { EventSummary.timed ⟨0, .unknown⟩ ⟨0, .unknown⟩ with errorMessage := some reason }

/-- There is a message about such a job, so that what holds of the message is not void. -/
theorem ShowsReason.exists_message {P : String → Prop} (h : ShowsReason limit reason P) :
    ∃ payload w', jobMessage (failedFor reason) "" limit .busy .initial = (.ok payload, w') ∧
      ∃ shown, shownReason? payload = some shown ∧ P shown := by
  have htimes : (failedFor reason).times? = some (⟨0, .unknown⟩, ⟨0, .unknown⟩) := rfl
  have hclocks : ¬ (failedFor reason).MixesClocks := by
    rw [EventSummary.mixesClocks_iff htimes]
    decide
  have hcount : (failedFor reason).IsCountable := ⟨Text.isWithinLimit_zero, Text.isWithinLimit_zero⟩
  obtain ⟨payload, w', hrun⟩ :=
    (exists_jobMessage_iff (s := failedFor reason) "" limit .busy .initial).mpr ⟨hclocks, hcount⟩
  cases (h (failedFor reason) "" rfl rfl).of_run hrun with
  | made _ hshown => exact ⟨payload, w', hrun, hshown⟩

/-- What is shown of a reason is decided by the reason and the limit alone. -/
theorem showsReason_iff {P : String → Prop} :
    ShowsReason limit reason P ↔ P (cut sectionLimit (reasonText limit reason)) := by
  constructor
  · intro h
    obtain ⟨payload, w', hrun, shown, hshown, hP⟩ := h.exists_message
    -- the message that exists is also the one of `makes_shownReason`
    cases (makes_shownReason limit reason (failedFor reason) "" rfl rfl).of_run hrun with
    | made _ hcut =>
      obtain ⟨_, hshown', rfl⟩ := hcut
      rw [hshown] at hshown'
      rwa [Option.some.inj hshown'] at hP
  · intro hP s text hfailed hreason
    refine (makes_shownReason limit reason s text hfailed hreason).mono fun r hr => ?_
    cases hr with
    | made hpossible hcut =>
      obtain ⟨shown, hshown, rfl⟩ := hcut
      exact .made hpossible ⟨_, hshown, hP⟩
    | unwritable hpossible he => exact .unwritable hpossible he

/-- **The closing fence survives exactly for the limits 1 to 2969.**  For these, a reason within the
limit is shown whole, and of a longer one the first characters, with three dots.  For all other
limits there is a reason of which the cut to the limit of a section takes the closing fence. -/
theorem fence_survives_iff (limit : Option Int) :
    ((∀ reason, ShowsReason limit reason fun shown => ∃ front, shown = front ++ fence) ↔
        ∃ k : Int, limit = some k ∧ 1 ≤ k ∧ k ≤ 2969) ∧
      (∀ k : Nat, limit = some (k : Int) → 1 ≤ k → k ≤ 2969 → ∀ reason,
        ShowsReason limit reason (· = opening
          ++ (if reason.length ≤ k then reason else Text.take k reason ++ "...") ++ fence)) ∧
      ((¬ ∃ k : Int, limit = some k ∧ 1 ≤ k ∧ k ≤ 2969) → ∃ reason,
        ShowsReason limit reason fun shown =>
          shown = Text.take 2997 (reasonText limit reason) ++ "..." ∧
            ¬ ∃ front, shown = front ++ fence) := by
  refine ⟨?_, ?_, ?_⟩
  -- some reason is too long for the limit, or the room is enough for all
  · simp only [showsReason_iff, exists_fence_iff]
    constructor
    · intro hall
      refine Classical.byContradiction fun hlimit => ?_
      obtain ⟨reason, hlong⟩ := exists_long_cutReason hlimit
      exact absurd (hall reason) (by omega)
    · exact fun hroom reason => length_cutReason_le hroom reason
  · rintro k rfl hpos hroom reason
    -- with such a limit the second cut does nothing
    have hshort : (cutReason (some k) reason).length ≤ 2972 :=
      length_cutReason_le ⟨k, rfl, by omega, by omega⟩ reason
    rw [showsReason_iff, cut_reasonText_of_le hshort, reasonText_eq, cutReason_natCast hpos]
  · intro hlimit
    obtain ⟨reason, hlong⟩ := exists_long_cutReason hlimit
    refine ⟨reason, showsReason_iff.mpr ⟨cut_reasonText_of_lt hlong, ?_⟩⟩
    rw [exists_fence_iff]
    omega

/-- A reason of 2970 characters is shown between its fences with the largest of the limits, and the
next larger limit leaves too much of some reason. -/
theorem fence_survives_at_bound :
    (∃ payload w', jobMessage (failedFor (String.ofList (List.replicate 2970 'x'))) ""
        (some 2969) .busy .initial = (.ok payload, w') ∧
      shownReason? payload = some (opening
        ++ (Text.take 2969 (String.ofList (List.replicate 2970 'x')) ++ "...") ++ fence)) ∧
      ∃ reason, ShowsReason (some 2970) reason fun shown =>
        shown = Text.take 2997 (reasonText (some 2970) reason) ++ "..." ∧
          ¬ ∃ front, shown = front ++ fence := by
  obtain ⟨-, hshown, -⟩ := fence_survives_iff (some 2969)
  obtain ⟨-, -, hlost⟩ := fence_survives_iff (some 2970)
  constructor
  · obtain ⟨payload, w', hrun, shown, hpayload, rfl⟩ :=
      (hshown 2969 rfl (by decide) (by decide) _).exists_message
    have hlong : ¬ (String.ofList (List.replicate 2970 'x')).length ≤ 2969 := by
      rw [String.length_ofList, List.length_replicate]
      decide
    rw [if_neg hlong] at hpayload
    exact ⟨payload, w', hrun, hpayload⟩
  · refine hlost ?_
    rintro ⟨k, hk, -, hroom⟩
    cases hk
    omega

end Slack

end JobHerald
