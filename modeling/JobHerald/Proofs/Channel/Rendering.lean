import JobHerald.Channel.Email
import JobHerald.Proofs.Calendar.Span

/-!
# Notices that can be rendered

The templates of all notices can be filled, since each of their holes has a value.  The values of an
email about a finished job can be made unless its two times cannot be subtracted.

## Main definitions

* `EventSummary.MixesClocks`, `Notice.MixesClocks` — only one of the two times of a job has a known
  offset from UTC.
* `Template.holes` — the names of the holes of a template.

## Main results

* `Mail.jobValues_mixed`, `Mail.exists_jobValues` — **the values of an email can be made unless the
  clocks are mixed.**
* `Template.exists_fill` — **a template can be filled if each of its holes has a value.**
-/

namespace JobHerald

/-! ### Times that cannot be subtracted -/

/-- One of the two times of a job has a known offset from UTC, and the other one has not. -/
def EventSummary.MixesClocks (summary : EventSummary) : Prop :=
  ∃ start stop, summary.times? = some (start, stop) ∧ start.offset.isSome ≠ stop.offset.isSome

/-- A notice about a job whose clocks are mixed. -/
def Notice.MixesClocks : Notice → Prop
  | jobFailure summary _ => summary.MixesClocks
  | jobSuccess summary _ => summary.MixesClocks
  | _ => False

namespace Mail

variable {summary : EventSummary}

theorem jobValues_mixed (h : summary.MixesClocks) :
    jobValues summary = .error (.calendar .mixedClocks) := by
  obtain ⟨start, stop, htimes, hoffsets⟩ := h
  have hduration : jobDuration summary = .error .mixedClocks := by
    rw [jobDuration, htimes]
    show Duration.between start stop = _
    rw [Duration.between, Timestamp.sub_mixed hoffsets]
    rfl
  rw [jobValues, hduration]

theorem exists_jobValues (h : ¬ summary.MixesClocks) :
    ∃ values, jobValues summary = .ok values := by
  -- the duration is the only value that can fail
  have hduration : ∃ duration, jobDuration summary = .ok duration := by
    rw [jobDuration]
    cases htimes : summary.times? with
    | none => exact ⟨"", rfl⟩
    | some times =>
      obtain ⟨start, stop⟩ := times
      have hoffsets : start.offset.isSome = stop.offset.isSome :=
        Decidable.byContradiction fun hne => h ⟨start, stop, htimes, hne⟩
      refine ⟨Duration.coarse (Timestamp.seconds (start.span stop)), ?_⟩
      show Duration.between start stop = _
      rw [Duration.between, Timestamp.sub_eq hoffsets]
      rfl
  obtain ⟨duration, hduration⟩ := hduration
  rw [jobValues, hduration]
  exact ⟨_, rfl⟩

end Mail

/-! ### Texts of events -/

namespace Template

/-- The names of the holes of a template. -/
def holes (t : Template) : List String :=
  t.filterMap fun
    | .text _ => none
    | .hole name => some name

/-- A template can be filled if each of its holes has a value. -/
theorem exists_fill {values : Fields} {t : Template} (h : t.holes ⊆ values.names) :
    ∃ text, fill values t = .ok text := by
  induction t with
  | nil => exact ⟨"", rfl⟩
  | cons piece rest ih =>
    cases piece with
    | text s =>
      obtain ⟨text, htext⟩ := ih h
      exact ⟨s ++ text, by rw [fill, htext]; rfl⟩
    -- the value of a hole exists by the hypothesis, and the rest is filled as before
    | hole name =>
      obtain ⟨text, htext⟩ := ih (List.subset_of_cons_subset h)
      have hhas : Fields.has name values = true := Fields.has_iff.mpr (h List.mem_cons_self)
      obtain ⟨v, hv⟩ := Option.isSome_iff_exists.mp hhas
      exact ⟨v.plain ++ text, by simp only [fill, hv, htext]; rfl⟩

/-- A template is rendered with values that fill its holes, if none of them is called a name. -/
theorem exists_render {name : String} {values : Fields} {t : Template}
    (ht : byName? name = some t) (hname : "name" ∉ values.names) (h : t.holes ⊆ values.names) :
    ∃ text, render name values = .ok text := by
  obtain ⟨text, htext⟩ := exists_fill h
  refine ⟨text, ?_⟩
  rw [render, if_neg fun hhas => hname (Fields.has_iff.mp hhas), ht]
  exact htext

theorem exists_render_job (summary : EventSummary) {name : String}
    (h : name = "job_failure" ∨ name = "job_success") :
    ∃ text, render name (jobValues summary) = .ok text := by
  have hnames : Fields.names (jobValues summary) = ["connection_name", "connection_url",
      "source_name", "destination_name", "error_message", "job_id"] := rfl
  rcases h with rfl | rfl
  · refine exists_render (t := jobFailure) rfl ?_ ?_ <;> (rw [hnames]; decide)
  · refine exists_render (t := jobSuccess) rfl ?_ ?_ <;> (rw [hnames]; decide)

theorem exists_render_connection (event : ConnectionEvent) {name : String}
    (h : name = "connection_disabled" ∨ name = "connection_disable_warning") :
    ∃ text, render name (connectionValues event) = .ok text := by
  have hnames : Fields.names (connectionValues event) = ["source_connector",
      "destination_connector", "job_description", "workspace_id", "connection_id"] := rfl
  rcases h with rfl | rfl
  · refine exists_render (t := connectionDisabled) rfl ?_ ?_ <;> (rw [hnames]; decide)
  · refine exists_render (t := connectionDisableWarning) rfl ?_ ?_ <;> (rw [hnames]; decide)

theorem exists_render_schema (summary : String) (update : SchemaUpdate) :
    ∃ text, render "schema_propagated" (schemaValues summary update) = .ok text := by
  have hnames : Fields.names (schemaValues summary update) = ["connection_name",
      "workspace_name", "source_name", "summary"] := rfl
  refine exists_render (t := schemaPropagated) rfl ?_ ?_ <;> (rw [hnames]; decide)

end Template

end JobHerald
