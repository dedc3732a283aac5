import JobHerald.Channel.Slack
import JobHerald.Proofs.Action.Making
import JobHerald.Proofs.Channel.Grammar
import JobHerald.Proofs.Channel.Rendering

/-!
# Messages that can be laid out

The blocks of a chat message are made from texts of any length: a section cuts its text, and the
numbers of fields are fixed.  So every block that is made fits, and a message about a job can be
made unless its two times cannot be subtracted, or a number of records has too many digits to be
written.

## Main definitions

* `Slack.Block.Fits`, `Slack.IsLaidOut` — blocks that the chat service takes, and messages of such
  blocks.
* `EventSummary.IsCountable` — summaries whose numbers of records can be written.
* `RendersIf` — what comes of a message: it is made under a condition, and otherwise a time or a
  number is to blame.

## Main results

* `Slack.makes_section`, `Slack.makes_fields` — the blocks that are made fit.
* `Slack.makes_jobMessage`, `Slack.makes_schemaMessage` — the messages that are made are laid out.
* `Slack.Target.makes_prepare` — a message that is laid out passes the check of its blocks.
* `EventSummary.rendered_iff` — **a finished job can be rendered exactly if its clocks are not mixed
  and, for the chat message, its numbers of records can be written.**
-/

namespace JobHerald

open JobHerald.Action

/-! ### Texts -/

namespace Text

theorem length_take (n : Nat) (s : String) : (take n s).length = min n s.length := by
  rw [take, String.length_ofList, List.length_take, String.length_toList]

/-- A text up to a position has no more characters than the position says. -/
theorem length_upTo_le {k : Int} (h : 0 ≤ k) (s : String) : ((upTo k s).length : Int) ≤ k := by
  obtain ⟨n, rfl⟩ := Int.eq_ofNat_of_zero_le h
  rw [upTo, bound_natCast, length_take]
  omega

/-- Zero can be written. -/
theorem isWithinLimit_zero : isWithinLimit 0 = true := by
  have hpos : ∀ k, (0 : Int).natAbs < Nat.pow 10 k := fun k => Nat.pow_pos (n := k) (by decide)
  exact decide_eq_true (hpos digitLimit)

end Text

/-! ### What comes of a message -/

/-- A failure to show a time or a number. -/
def Failure.IsUnwritable (e : Failure) : Prop := e = .calendar .mixedClocks ∨ e = .longInteger

/-- Something is made under a condition, and is well-formed then; otherwise a time or a number is
to blame. -/
inductive RendersIf {α : Type} (possible : Prop) (good : α → Prop) : Except Failure α → Prop
  /-- It is made. -/
  | made {a : α} (h : possible) (ha : good a) : RendersIf possible good (.ok a)
  /-- It cannot be made. -/
  | unwritable {e : Failure} (h : ¬ possible) (he : e.IsUnwritable) :
      RendersIf possible good (.error e)

theorem RendersIf.exists_iff {α : Type} {possible : Prop} {good : α → Prop} {r : Except Failure α}
    (h : RendersIf possible good r) : (∃ a, r = .ok a) ↔ possible := by
  cases h with
  | @made a h ha => exact ⟨fun _ => h, fun _ => ⟨a, rfl⟩⟩
  | unwritable h he => exact ⟨nofun, fun hpossible => absurd hpossible h⟩

/-- What fails under a condition fails under a weaker one. -/
theorem RendersIf.of_error {α β : Type} {possible possible' : Prop} {good : α → Prop}
    {good' : β → Prop} (hweaker : possible' → possible) {e : Failure}
    (h : RendersIf possible good (.error e)) : RendersIf possible' good' (.error e) := by
  cases h with
  | unwritable h he => exact .unwritable (fun h' => h (hweaker h')) he

namespace Slack

/-! ### Blocks that fit -/

/-- A limit leaves room for the three dots of a text that is cut. -/
theorem length_cut_le {limit : Int} (h : 3 ≤ limit) (s : String) :
    ((cut limit s).length : Int) ≤ limit := by
  unfold cut
  split
  · assumption
  · have hfront := Text.length_upTo_le (k := limit - 3) (by omega) s
    have hdots : "...".length = 3 := by decide
    rw [String.length_append]
    omega

/-- A block that the chat service takes. -/
def Block.Fits (b : Block) : Prop := b.fault? = none

theorem Block.fits_text_iff {s : String} : (Block.text s).Fits ↔ s.length ≤ sectionLimit := by
  simp only [Fits, fault?]
  split
  · next hlong => exact ⟨nofun, fun hshort => absurd hlong (by omega)⟩
  · next hshort => exact ⟨fun _ => by omega, fun _ => rfl⟩

theorem Block.fits_fields_iff {texts : List String} :
    (Block.fields texts).Fits ↔ texts ≠ [] ∧ texts.length ≤ fieldsLimit := by
  simp only [Fits, fault?]
  split
  · next hmany => exact ⟨nofun, fun h => absurd hmany (by omega)⟩
  · next hfew =>
    cases texts with
    | nil => exact ⟨nofun, fun h => absurd rfl h.1⟩
    | cons text texts => exact ⟨fun _ => ⟨nofun, by omega⟩, fun _ => rfl⟩

/-- A text is cut to the limit of a section before the block is checked against the same limit. -/
theorem Block.fits_cut (s : String) : (text (cut sectionLimit s)).Fits := by
  have hlength : ((cut sectionLimit s).length : Int) ≤ sectionLimit := length_cut_le (by decide) s
  exact fits_text_iff.mpr (by omega)

/-- A block that fits, in a message. -/
def IsBlock (v : Json) : Prop := ∃ b : Block, b.Fits ∧ v = b.toJson

theorem Block.checked_of_fits {b : Block} (h : b.Fits) : b.checked = pure b.toJson := by
  rw [checked, h]

theorem makes_checked {b : Block} (h : b.Fits) : b.checked.Makes (Yields IsBlock) := by
  rw [Block.checked_of_fits h]
  exact makes_pure ⟨b, h, rfl⟩

/-- A text is cut in the same way in every run. -/
theorem makes_truncate (limit : Int) (s : String) :
    (truncate limit s).Makes (Yields (· = cut limit s)) := by
  unfold truncate
  split
  · next hshort => exact makes_pure (by rw [Yields, cut, if_pos hshort])
  · exact makes_yields_bind (makes_log _ _ _) fun _ _ => makes_pure rfl

/-- A section is made of any text, which is cut to the limit of a section. -/
theorem makes_section_text (s : String) :
    (section' s).Makes (Yields (· = (Block.text (cut sectionLimit s)).toJson)) := by
  refine makes_yields_bind (makes_truncate _ s) ?_
  rintro t rfl
  rw [Block.checked_of_fits (Block.fits_cut s)]
  exact makes_pure rfl

/-- The section fits, whatever its text: it is cut to the limit, and is not empty. -/
theorem makes_section (s : String) : (section' s).Makes (Yields IsBlock) := by
  refine (makes_section_text s).mono ?_
  rintro (e | v) hv
  · exact hv
  · exact ⟨_, Block.fits_cut s, hv⟩

theorem makes_fields {texts : List String} (hne : texts ≠ []) (h : texts.length ≤ fieldsLimit) :
    (fields texts).Makes (Yields IsBlock) :=
  makes_checked (Block.fits_fields_iff.mpr ⟨hne, h⟩)

/-! ### Messages that are laid out -/

/-- A message all of whose blocks fit. -/
def IsLaidOut (payload : Fields) : Prop :=
  ∃ blocks : List Block, (∀ b ∈ blocks, b.Fits) ∧
    Target.blocksOf payload = .arr (blocks.map Block.toJson)

theorem isLaidOut_plainMessage (text : String) : IsLaidOut (plainMessage text) :=
  ⟨[], by simp, rfl⟩

theorem blockValid_toJson {b : Block} (h : b.Fits) : blockValid b.toJson = .ok true := by
  cases b with
  | text s => rfl
  | fields texts =>
    have hlength := (Block.fits_fields_iff.mp h).2
    simp [Block.toJson, blockValid, Fields.has, Fields.get?_cons, Json.size?, hlength]
  | divider => rfl

/-- A message that is laid out passes the check of its blocks. -/
theorem blocksValid_of_isLaidOut {payload : Fields} (h : IsLaidOut payload) :
    blocksValid (Target.blocksOf payload) = .ok true := by
  obtain ⟨blocks, hfits, hblocks⟩ := h
  rw [hblocks, blocksValid, allValid_eq_true_iff]
  intro v hv
  obtain ⟨b, hb, rfl⟩ := List.mem_map.mp hv
  exact blockValid_toJson (hfits b hb)

end Slack

/-! ### Times that can be subtracted -/

theorem Duration.exists_between_iff {start stop : Timestamp} :
    (∃ text, Duration.between start stop = .ok text) ↔
      start.offset.isSome = stop.offset.isSome := by
  constructor
  · rintro ⟨text, htext⟩
    refine Decidable.byContradiction fun hne => ?_
    rw [Duration.between, Timestamp.sub_mixed hne] at htext
    cases htext
  · exact fun hoffsets => ⟨_, by rw [Duration.between, Timestamp.sub_eq hoffsets]; rfl⟩

/-- A job of which both times are known mixes its clocks if only one of them has an offset. -/
theorem EventSummary.mixesClocks_iff {s : EventSummary} {start stop : Timestamp}
    (h : s.times? = some (start, stop)) :
    s.MixesClocks ↔ start.offset.isSome ≠ stop.offset.isSome := by
  constructor
  · rintro ⟨start', stop', htimes, hoffsets⟩
    rw [h, Option.some.injEq, Prod.mk.injEq] at htimes
    obtain ⟨rfl, rfl⟩ := htimes
    exact hoffsets
  · exact fun hoffsets => ⟨start, stop, h, hoffsets⟩

/-- A summary whose numbers of records do not have too many digits to be written. -/
def EventSummary.IsCountable (s : EventSummary) : Prop :=
  Text.isWithinLimit s.recordsCommitted = true ∧ Text.isWithinLimit s.recordsEmitted = true

namespace Slack

variable {s : EventSummary}

/-- The duration of a job is shown unless its clocks are mixed. -/
theorem rendersIf_durationFields (s : EventSummary) :
    RendersIf (¬ s.MixesClocks) (fun _ => True) (durationFields s) := by
  rw [durationFields]
  cases htimes : s.times? with
  | none =>
    refine .made ?_ trivial
    rintro ⟨start, stop, h, -⟩
    rw [htimes] at h
    cases h
  | some times =>
    obtain ⟨start, stop⟩ := times
    rw [EventSummary.mixesClocks_iff htimes]
    dsimp only
    -- the two clocks can be subtracted if both have an offset, or neither
    by_cases hoffsets : start.offset.isSome = stop.offset.isSome
    · obtain ⟨text, htext⟩ := Duration.exists_between_iff.mpr hoffsets
      rw [htext]
      exact .made (not_not_intro hoffsets) trivial
    · rw [Duration.between, Timestamp.sub_mixed hoffsets]
      exact .unwritable (not_not_intro hoffsets) (.inl rfl)

theorem rendersIf_count (n : Nat) :
    RendersIf (Text.isWithinLimit n = true) (fun _ => True) (count n) := by
  unfold count
  split
  · next h => exact .made h trivial
  · next h => exact .unwritable h (.inr rfl)

/-- The totals of a job are shown if its numbers of records can be written. -/
theorem rendersIf_totalsText (s : EventSummary) :
    RendersIf s.IsCountable (fun _ => True) (totalsText s) := by
  have hloaded := rendersIf_count s.recordsCommitted
  have hextracted := rendersIf_count s.recordsEmitted
  rw [totalsText]
  generalize count s.recordsCommitted = loaded at hloaded
  generalize count s.recordsEmitted = extracted at hextracted
  -- the loaded records are written first, then the extracted ones
  cases hloaded with
  | unwritable h he => exact .unwritable (fun hcount => h hcount.1) he
  | made hfirst _ =>
    cases hextracted with
    | unwritable h he => exact .unwritable (fun hcount => h hcount.2) he
    | made hsecond _ => exact .made ⟨hfirst, hsecond⟩ trivial

/-! ### Messages about finished jobs -/

theorem makes_reasonBlocks (limit : Option Int) (s : EventSummary) :
    (reasonBlocks limit s).Makes (Yields fun vs =>
      ∃ blocks : List Block, (∀ b ∈ blocks, b.Fits) ∧ vs = blocks.map Block.toJson) := by
  unfold reasonBlocks
  split
  · refine makes_yields_bind (makes_section _) ?_
    rintro v ⟨b, hb, rfl⟩
    exact makes_pure ⟨[b], by simpa using hb, rfl⟩
  · exact makes_pure ⟨[], by simp, rfl⟩

/-- The message about a job can be made exactly if its duration and its totals can be shown, and is
laid out then. -/
theorem makes_jobMessage (s : EventSummary) (text : String) (limit : Option Int) :
    (jobMessage s text limit).Makes (RendersIf (¬ s.MixesClocks ∧ s.IsCountable) IsLaidOut) := by
  -- the duration and the totals are the two parts that can fail; all else is always made
  refine makes_bind (makes_ofExcept (rendersIf_durationFields s)) ?_
    fun e he => he.of_error And.left
  rintro ⟨label, duration⟩ ⟨hclocks, -⟩
  refine makes_yields_bind (makes_section _) ?_
  rintro title ⟨b₁, h₁, rfl⟩
  refine makes_yields_bind (makes_fields (by simp) (by simp [fieldsLimit])) ?_
  rintro ends ⟨b₂, h₂, rfl⟩
  refine makes_yields_bind (makes_reasonBlocks limit s) ?_
  rintro reason ⟨bs, hbs, rfl⟩
  refine makes_bind (makes_ofExcept (rendersIf_totalsText s)) ?_
    fun e he => he.of_error And.right
  rintro totals ⟨hcount, -⟩
  refine makes_yields_bind (makes_section totals) ?_
  rintro sum ⟨b₃, h₃, rfl⟩
  refine makes_pure (.made ⟨hclocks, hcount⟩ ⟨[b₁, b₂] ++ bs ++ [b₃], ?_, ?_⟩)
  · intro b hb
    simp only [List.mem_append, List.mem_cons, List.not_mem_nil, or_false] at hb
    rcases hb with ((rfl | rfl) | hb) | rfl
    · exact h₁
    · exact h₂
    · exact hbs b hb
    · exact h₃
  · simp [Target.blocksOf, Fields.get?_cons]

/-! ### Messages about changed schemas -/

/-- The message about a changed schema can always be made, and is laid out. -/
theorem makes_schemaMessage (summary : String) (u : SchemaUpdate) :
    (schemaMessage summary u).Makes (RendersIf True IsLaidOut) := by
  refine makes_yields_bind (makes_section _) ?_
  rintro title ⟨b₁, h₁, rfl⟩
  refine makes_yields_bind (makes_fields (by simp) (by simp [fieldsLimit])) ?_
  rintro owners ⟨b₂, h₂, rfl⟩
  refine makes_yields_bind (makes_section _) ?_
  rintro changes ⟨b₃, h₃, rfl⟩
  refine makes_pure (.made trivial ⟨[b₁, b₂, .divider, b₃], ?_, rfl⟩)
  intro b hb
  simp only [List.mem_cons, List.not_mem_nil, or_false] at hb
  rcases hb with rfl | rfl | rfl | rfl
  · exact h₁
  · exact h₂
  · rfl
  · exact h₃

/-! ### Messages of targets -/

namespace Target

theorem makes_jobPayload (t : Target) (s : EventSummary) {template : String}
    (h : template = "job_failure" ∨ template = "job_success") :
    (t.jobPayload template s).Makes (RendersIf (¬ s.MixesClocks ∧ s.IsCountable) IsLaidOut) := by
  obtain ⟨text, htext⟩ := Template.exists_render_job s h
  rw [jobPayload, htext]
  exact makes_jobMessage s text t.reasonLimit

theorem makes_connectionPayload (c : ConnectionEvent) {template : String}
    (h : template = "connection_disabled" ∨ template = "connection_disable_warning") :
    (connectionPayload template c).Makes (RendersIf True IsLaidOut) := by
  obtain ⟨text, htext⟩ := Template.exists_render_connection c h
  rw [connectionPayload, htext]
  exact makes_pure (a := plainMessage text) (.made trivial (isLaidOut_plainMessage text))

/-- A time or a number that cannot be shown is no fault of a block. -/
theorem renderFailure_unwritable {e : Failure} (h : e.IsUnwritable) : renderFailure e = e := by
  rcases h with rfl | rfl <;> rfl

/-- A message that is made also passes the check of its blocks. -/
theorem makes_prepare {possible : Prop} {render : Action Fields}
    (h : render.Makes (RendersIf possible IsLaidOut)) :
    (prepare render).Makes (RendersIf possible IsLaidOut) := by
  refine makes_bind (P := RendersIf possible IsLaidOut)
    (makes_handle h (fun _ hpayload => hpayload) fun e he => ?_) ?_ fun _ he => he
  -- a failure of the making goes through unchanged
  · cases he with
    | unwritable h he =>
      rw [renderFailure_unwritable he]
      exact makes_fail (.unwritable h he)
  · rintro payload ⟨hpossible, hlaid⟩
    -- what is laid out passes the check
    rw [blocksValid_of_isLaidOut hlaid]
    exact makes_pure (a := payload) (.made hpossible hlaid)

end Target

end Slack

/-! ### Finished jobs -/

theorem Mail.exists_jobValues_iff {s : EventSummary} :
    (∃ values, jobValues s = .ok values) ↔ ¬ s.MixesClocks := by
  refine ⟨fun ⟨values, hvalues⟩ hmixed => ?_, exists_jobValues⟩
  rw [jobValues_mixed hmixed] at hvalues
  cases hvalues

theorem Slack.exists_jobMessage_iff {s : EventSummary} (text : String) (limit : Option Int)
    (env : Surroundings) (w : World) :
    (∃ payload w', jobMessage s text limit env w = (.ok payload, w')) ↔
      ¬ s.MixesClocks ∧ s.IsCountable := by
  cases hrun : jobMessage s text limit env w with
  | mk r w' =>
    have hmade := ((makes_jobMessage s text limit).of_run hrun).exists_iff
    simpa using hmade

namespace EventSummary

/-- **A finished job can be rendered exactly if its clocks are not mixed**, whatever its names,
its failure reason and its totals are, and however long a reason may be: as a chat message, which
also has to write its numbers of records, as the values of an email, and as a duration. -/
theorem rendered_iff (s : EventSummary) :
    (∀ text limit env w, (∃ payload w', Slack.jobMessage s text limit env w = (.ok payload, w')) ↔
        ¬ s.MixesClocks ∧ s.IsCountable) ∧
      ((∃ values, Mail.jobValues s = .ok values) ↔ ¬ s.MixesClocks) ∧
      ∀ start stop, s.times? = some (start, stop) →
        ((∃ text, Duration.between start stop = .ok text) ↔ ¬ s.MixesClocks) := by
  refine ⟨Slack.exists_jobMessage_iff, Mail.exists_jobValues_iff, fun start stop htimes => ?_⟩
  rw [mixesClocks_iff htimes, Decidable.not_not]
  exact Duration.exists_between_iff

/-- A job that failed without a reason, with the readings of the clock at its two ends. -/
def timed (start stop : Timestamp) : EventSummary where
  workspace := ⟨"Main", default, ""⟩
  connection := ⟨"C", default, ""⟩
  source := ⟨"S", default, ""⟩
  destination := ⟨"D", default, ""⟩
  startedAt := some start
  finishedAt := some stop
  isSuccess := false
  jobId := .number 42
  errorMessage := none
  recordsEmitted := 0
  recordsCommitted := 0
  bytesEmitted := 0
  bytesCommitted := 0

theorem times?_timed (start stop : Timestamp) : (timed start stop).times? = some (start, stop) :=
  rfl

/-- A job that seems to end before it starts, on one clock, is rendered. -/
theorem rendered_backwards :
    (∃ payload w', Slack.jobMessage (timed ⟨5000000, .unknown⟩ ⟨0, .unknown⟩) "" none .busy .initial
        = (.ok payload, w')) ∧
      (∃ values, Mail.jobValues (timed ⟨5000000, .unknown⟩ ⟨0, .unknown⟩) = .ok values) ∧
      ∃ text, Duration.between ⟨5000000, .unknown⟩ ⟨0, .unknown⟩ = .ok text := by
  obtain ⟨hmessage, hvalues, hduration⟩ := rendered_iff (timed ⟨5000000, .unknown⟩ ⟨0, .unknown⟩)
  have hclocks : ¬ (timed ⟨5000000, .unknown⟩ ⟨0, .unknown⟩).MixesClocks := by
    rw [mixesClocks_iff (times?_timed _ _)]
    decide
  have hcount : (timed ⟨5000000, .unknown⟩ ⟨0, .unknown⟩).IsCountable :=
    ⟨Text.isWithinLimit_zero, Text.isWithinLimit_zero⟩
  exact ⟨(hmessage "" none .busy .initial).mpr ⟨hclocks, hcount⟩, hvalues.mpr hclocks,
    (hduration _ _ (times?_timed _ _)).mpr hclocks⟩

/-- A job whose start has no known offset, while its end has one, is not rendered at all. -/
theorem not_rendered_mixed :
    let s := timed ⟨1704103200000000, .unknown⟩ ⟨1704103385000000, .fixed 0⟩
    (∀ text limit env w, ¬ ∃ payload w',
        Slack.jobMessage s text limit env w = (.ok payload, w')) ∧
      Mail.jobValues s = .error (.calendar .mixedClocks) ∧
      Duration.between ⟨1704103200000000, .unknown⟩ ⟨1704103385000000, .fixed 0⟩
        = .error .mixedClocks := by
  intro s
  have hmixed : s.MixesClocks := ⟨_, _, times?_timed _ _, by decide⟩
  refine ⟨fun text limit env w hmessage => ?_, Mail.jobValues_mixed hmixed, rfl⟩
  exact ((Slack.exists_jobMessage_iff text limit env w).mp hmessage).1 hmixed

end EventSummary

end JobHerald
