import JobHerald.Proofs.Channel.Notices

/-!
# Templates that are filled

A filled template is its fixed text with each value in the place of its hole, character for
character: a value is never looked at again, whatever it consists of.  The one thing that can go
wrong is a hole without a value, and no notice has one.

## Main definitions

* `Template.written` — what stands in the place of a piece.
* `Template.Rendered` — what a template and its values are rendered to.
* `Notice.filling?` — the template that a notice is put into words with, and its values.
* `Slack.Target.worded?` — the chat message about a notice that has been put into words.

## Main results

* `Template.rendered_fill` — a template is filled piece by piece, up to the first missing value.
* `Template.renders_verbatim` — **values are inserted as they are, and once**, and every notice can
  be put into words.
-/

namespace JobHerald

namespace Template

/-! ### Pieces -/

/-- What stands in the place of a piece. -/
def written (values : Fields) : Piece → String
  | .text s => s
  | .hole name => ((Fields.get? name values).map Json.plain).getD ""

/-- What a template and its values are rendered to. -/
inductive Rendered (values : Fields) (t : Template) : Except Failure String → Prop
  /-- Every hole has a value: the fixed text and the values follow one another. -/
  | filled (h : ∀ hole ∈ t.holes, hole ∈ values.names) :
      Rendered values t (.ok (String.join (t.map (written values))))
  /-- The first hole without a value is a failure. -/
  | missing {before after : List String} {name : String} (h : t.holes = before ++ name :: after)
      (hbefore : ∀ hole ∈ before, hole ∈ values.names) (hname : name ∉ values.names) :
      Rendered values t (.error (.missingValue name))

section Filling

variable {values values' : Fields} {t : Template} {r : Except Failure String}

@[simp] theorem holes_text (s : String) (t : Template) :
    holes (.text s :: t) = t.holes := rfl

@[simp] theorem holes_hole (name : String) (t : Template) :
    holes (.hole name :: t) = name :: t.holes := rfl

/-- Fixed text stands before whatever comes of the rest, and does not change which hole is missing
first. -/
theorem Rendered.text (s : String) (h : Rendered values t r) :
    Rendered values (.text s :: t) (r.map (s ++ ·)) := by
  cases h with
  | filled hall =>
    have hjoin : s ++ String.join (t.map (written values))
        = String.join ((.text s :: t : Template).map (written values)) := by
      rw [List.map_cons, String.join_cons]
      rfl
    rw [Except.map, hjoin]
    exact .filled hall
  | missing hholes hbefore hname => exact .missing hholes hbefore hname

/-- So does a value in the place of its hole. -/
theorem Rendered.hole {name : String} {v : Json} (hv : Fields.get? name values = some v)
    (h : Rendered values t r) : Rendered values (.hole name :: t) (r.map (v.plain ++ ·)) := by
  have hname : name ∈ values.names := by
    rw [← Fields.has_iff, Fields.has, hv]
    rfl
  cases h with
  | filled hall =>
    have hjoin : v.plain ++ String.join (t.map (written values))
        = String.join ((.hole name :: t : Template).map (written values)) := by
      rw [List.map_cons, String.join_cons, written, hv]
      rfl
    rw [Except.map, hjoin]
    refine .filled fun hole hhole => ?_
    rcases List.mem_cons.mp hhole with rfl | hhole
    · exact hname
    · exact hall hole hhole
  | @missing before after name' hholes hbefore hname' =>
    -- the name before has a value, so that the first missing one is still missing first
    have hholes' : holes (.hole name :: t) = (name :: before) ++ name' :: after := by
      rw [holes_hole, hholes, List.cons_append]
    refine .missing hholes' (fun hole hhole => ?_) hname'
    rcases List.mem_cons.mp hhole with rfl | hhole
    · exact hname
    · exact hbefore hole hhole

/-- A template is filled piece by piece, up to the first missing value: the induction is on its
pieces. -/
theorem rendered_fill (values : Fields) (t : Template) : Rendered values t (fill values t) := by
  induction t with
  | nil => exact .filled fun _ hhole => absurd hhole List.not_mem_nil
  | cons piece rest ih =>
    cases piece with
    | text s => exact ih.text s
    | hole name =>
      rw [fill]
      -- a hole with a value is filled; the first one without it is the failure
      split
      · next v hv => exact ih.hole hv
      · next hnone =>
        have hholes : holes (.hole name :: rest) = [] ++ name :: holes rest := rfl
        exact .missing hholes (fun _ hhole => absurd hhole List.not_mem_nil)
          (Fields.get?_eq_none_iff.mp hnone)

theorem Rendered.eq_ok (h : Rendered values t r) (hall : ∀ hole ∈ t.holes, hole ∈ values.names) :
    r = .ok (String.join (t.map (written values))) := by
  cases h with
  | filled _ => rfl
  | @missing before after name hholes hbefore hname =>
    refine absurd (hall name ?_) hname
    rw [hholes]
    exact List.mem_append_right before List.mem_cons_self

/-- Something is rendered exactly if every hole has a value. -/
theorem Rendered.ok_iff (h : Rendered values t r) :
    (∃ text, r = .ok text) ↔ ∀ hole ∈ t.holes, hole ∈ values.names := by
  refine ⟨fun ⟨text, htext⟩ => ?_, fun hall => ⟨_, h.eq_ok hall⟩⟩
  cases h with
  | filled hall => exact hall
  | missing => cases htext

/-- Only the values of its holes matter to a template. -/
theorem fill_congr (h : ∀ hole ∈ t.holes, Fields.get? hole values' = Fields.get? hole values) :
    fill values' t = fill values t := by
  induction t with
  | nil => rfl
  | cons piece rest ih =>
    cases piece with
    | text s => rw [fill, fill, ih h]
    | hole name =>
      rw [fill, fill, h name List.mem_cons_self,
        ih fun hole hhole => h hole (List.mem_cons_of_mem name hhole)]

/-- A template is found by its name. -/
theorem byName?_of_mem {name : String} (h : (name, t) ∈ table) : byName? name = some t := by
  simp only [table, List.mem_cons, Prod.mk.injEq, List.not_mem_nil, or_false] at h
  rcases h with ⟨rfl, rfl⟩ | ⟨rfl, rfl⟩ | ⟨rfl, rfl⟩ | ⟨rfl, rfl⟩ | ⟨rfl, rfl⟩ <;> rfl

/-- A template is rendered by filling it, if no value is called a name. -/
theorem render_eq_fill {name : String} (ht : (name, t) ∈ table) (hname : "name" ∉ values.names) :
    render name values = fill values t := by
  rw [render, if_neg fun hhas => hname (Fields.has_iff.mp hhas), byName?_of_mem ht]

end Filling

end Template

/-! ### Notices in words -/

/-- The template that a notice is put into words with, and its values. -/
def Notice.filling? : Notice → Option (String × Fields)
  | jobFailure s _ => some ("job_failure", Template.jobValues s)
  | jobSuccess s _ => some ("job_success", Template.jobValues s)
  | connectionDisabled c => some ("connection_disabled", Template.connectionValues c)
  | connectionDisableWarning c => some ("connection_disable_warning", Template.connectionValues c)
  | schemaPropagated summary u => some ("schema_propagated", Template.schemaValues summary u)
  | _ => none

/-- The chat message about a notice that has been put into words; a changed schema is told of in
other words than those of its template. -/
def Slack.Target.worded? (t : Target) (text : String) : Notice → Option (Action Fields)
  | .jobFailure s _ => some (jobMessage s text t.reasonLimit)
  | .jobSuccess s _ => some (jobMessage s text t.reasonLimit)
  | .connectionDisabled _ => some (pure (plainMessage text))
  | .connectionDisableWarning _ => some (pure (plainMessage text))
  | _ => none

section Notices

variable {n : Notice} {template text : String} {values : Fields}

/-- Every hole of the template of a notice has a value. -/
theorem Notice.exists_text (h : n.filling? = some (template, values)) :
    ∃ text, Template.render template values = .ok text := by
  cases n with
  | jobFailure s receiver =>
    cases h
    exact Template.exists_render_job s (.inl rfl)
  | jobSuccess s receiver =>
    cases h
    exact Template.exists_render_job s (.inr rfl)
  | connectionDisabled c =>
    cases h
    exact Template.exists_render_connection c (.inl rfl)
  | connectionDisableWarning c =>
    cases h
    exact Template.exists_render_connection c (.inr rfl)
  | schemaPropagated summary u =>
    cases h
    exact Template.exists_render_schema summary u
  | breakingChangeWarning change => cases h
  | breakingChangeSyncsDisabled change => cases h
  | test message => cases h

/-- The webhook channel posts the words of a notice. -/
theorem Endpoint.Target.deliver_eq_send (t : Target) (h : n.filling? = some (template, values))
    (htext : Template.render template values = .ok text) : t.deliver n = t.send text := by
  have htemplate : t.deliver n = t.sendTemplate template values := by
    cases n <;> cases h <;> rfl
  rw [htemplate, t.sendTemplate_eq htext]

/-- The chat channel makes its message of the words that the template gives. -/
theorem Slack.Target.message?_worded (t : Target) {message : Action Fields}
    (h : n.filling? = some (template, values))
    (htext : Template.render template values = .ok text)
    (hmessage : t.worded? text n = some message) : t.message? n = some message := by
  cases n with
  | jobFailure s receiver =>
    cases h
    rw [← hmessage, message?, jobPayload, htext]
    rfl
  | jobSuccess s receiver =>
    cases h
    rw [← hmessage, message?, jobPayload, htext]
    rfl
  | connectionDisabled c =>
    cases h
    rw [← hmessage, message?, connectionPayload, htext]
    rfl
  | connectionDisableWarning c =>
    cases h
    rw [← hmessage, message?, connectionPayload, htext]
    rfl
  | schemaPropagated summary u => cases hmessage
  | breakingChangeWarning change => cases h
  | breakingChangeSyncsDisabled change => cases h
  | test message => cases h

end Notices

/-- **Values are inserted as they are, and once**: a template is rendered to its fixed text with
each value in the place of its hole, exactly if every hole has a value, and else the first hole
without one is the failure; values under other names do not matter.  So the channels never fail to
put a notice into words. -/
theorem Template.renders_verbatim :
    (∀ name t values, (name, t) ∈ table → "name" ∉ Fields.names values →
      Rendered values t (render name values) ∧
      ((∃ text, render name values = .ok text) ↔ ∀ hole ∈ t.holes, hole ∈ values.names) ∧
      ∀ values', "name" ∉ Fields.names values' →
        (∀ hole ∈ t.holes, Fields.get? hole values' = Fields.get? hole values) →
        render name values' = render name values) ∧
    ((∀ s, (Json.str s).plain = s) ∧ ∀ k, (Json.int k).plain = Text.decimal k) ∧
    ∀ (n : Notice) template values, n.filling? = some (template, values) →
      ∃ text, render template values = .ok text ∧
        (∀ t : Endpoint.Target, t.deliver n = t.send text) ∧
        ∀ (t : Slack.Target) message, t.worded? text n = some message →
          t.deliver n = t.send message := by
  refine ⟨fun name t values ht hname => ?_, ⟨fun s => rfl, fun k => rfl⟩,
    fun n template values h => ?_⟩
  · have hrendered : Rendered values t (render name values) :=
      render_eq_fill ht hname ▸ rendered_fill values t
    refine ⟨hrendered, hrendered.ok_iff, fun values' hname' hsame => ?_⟩
    rw [render_eq_fill ht hname, render_eq_fill ht hname', fill_congr hsame]
  · obtain ⟨text, htext⟩ := Notice.exists_text h
    exact ⟨text, htext, fun t => t.deliver_eq_send h htext,
      fun t message hmessage =>
        Slack.Target.deliver_eq_send (t.message?_worded h htext hmessage)⟩

/-- Values that look like holes, and one under a name that no hole has. -/
def Template.lookalikes : Fields :=
  [("summary", .str "\x7dend\x7b"), ("connection_name", .str "\x7bsummary\x7d"),
    ("source_name", .int 7), ("workspace_name", .str "\x7b\x7b0\x7d\n"),
    ("connection_url", .str "unused")]

/-- A disabled connection between connectors whose names look like holes. -/
def ConnectionEvent.lookalike : ConnectionEvent :=
  ⟨none, "\x7bdestination_connector\x7d", "\x7b0\x7d", "it failed\n", default, default⟩

/-- Values that look like holes are inserted as they are, and so are the names of connectors. -/
theorem Template.renders_verbatim_lookalikes :
    ("schema_propagated", schemaPropagated) ∈ table ∧ "name" ∉ lookalikes.names ∧
      render "schema_propagated" lookalikes = .ok ("The schema of '\x7bsummary\x7d' has changed."
        ++ "\n\nWorkspace: \x7b\x7b0\x7d\n\nSource: 7\n\n\x7dend\x7b") ∧
      ∃ text, render "connection_disabled" (connectionValues .lookalike) = .ok text ∧
        ∀ t : Endpoint.Target, t.deliver (.connectionDisabled .lookalike) = t.send text := by
  have ht : ("schema_propagated", schemaPropagated) ∈ table := by decide
  have hname : "name" ∉ lookalikes.names := by decide
  obtain ⟨htemplates, -, hnotices⟩ := renders_verbatim
  refine ⟨ht, hname, ?_, ?_⟩
  · rw [(htemplates _ _ _ ht hname).1.eq_ok (by decide)]
    exact congrArg Except.ok (by decide +kernel)
  · obtain ⟨text, htext, hdeliver, -⟩ := hnotices (.connectionDisabled .lookalike) _ _ rfl
    exact ⟨text, htext, hdeliver⟩

end JobHerald
