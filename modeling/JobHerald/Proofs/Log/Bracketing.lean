import Mathlib.Data.List.Forall2
import JobHerald.Proofs.Action.Run

/-!
# Nested dispatches

A dispatch binds its identifiers in the one context there is, and gives back what they were when it
ends.  So the context is scoped by running time; but since the ends of dispatches are nested like
the dispatches themselves, what is seen of it at any point can be told from the text of a program
alone, as if it were handed from a dispatch to its body.

## Main definitions

* `Log.Opening`, `Log.Opening.within` — the arguments of a dispatch with a new identifier at hand.
* `Log.Program`, `Log.Program.run` — programs of nested dispatches, and what they do.
* `Log.Program.meaning` — what they show and how they end, told from their text.

## Main results

* `Log.leave_enter` — the end of a dispatch gives the context back.
* `Log.get?_leave` — of the fields that were bound, whatever else has become of the context.
* `Log.Program.run_eq_meaning` — **programs mean what they do**, and leave the context alone.
-/

namespace JobHerald

open JobHerald.Action

/-! ### Fields -/

namespace Fields

variable {k k' : String} {u v : Json} {fs : Fields}

theorem names_cons (k : String) (v : Json) (fs : Fields) : names ((k, v) :: fs) = k :: names fs :=
  rfl

theorem insertAll_cons (fs : Fields) (k : String) (v : Json) (new : Fields) :
    insertAll fs ((k, v) :: new) = insertAll (insert k v fs) new := rfl

theorem mem_names_insert : k' ∈ names (insert k v fs) ↔ k' = k ∨ k' ∈ names fs := by
  rw [← has_iff, ← has_iff, has, has]
  by_cases h : k' = k
  · simp [h]
  · simp [h, get?_insert_of_ne (Ne.symm h)]

/-- A field that is set again has its last value. -/
theorem insert_insert : insert k u (insert k v fs) = insert k u fs := by
  induction fs with
  | nil => simp [insert]
  | cons m fs ih =>
    obtain ⟨k₀, v₀⟩ := m
    by_cases h : k₀ = k
    · simp [insert, h]
    · simp [insert, h, ih]

/-- A field that is set to the value it has keeps it. -/
theorem insert_of_get? (h : get? k fs = some v) : insert k v fs = fs := by
  induction fs with
  | nil => cases h
  | cons m fs ih =>
    obtain ⟨k₀, v₀⟩ := m
    rw [get?_cons] at h
    by_cases hk : k₀ = k
    · rw [if_pos hk] at h
      cases h
      simp [insert, hk]
    · rw [if_neg hk] at h
      simp [insert, hk, ih h]

/-- A field that is there already does not care which others are set before. -/
theorem insert_comm (hne : k' ≠ k) (hmem : k ∈ names fs) :
    insert k u (insert k' v fs) = insert k' v (insert k u fs) := by
  induction fs with
  | nil => cases hmem
  | cons m fs ih =>
    obtain ⟨k₀, v₀⟩ := m
    by_cases hk : k₀ = k
    · subst hk
      simp [insert, Ne.symm hne]
    -- the field is further on, and setting it moves nothing
    · have hmem : k ∈ names fs := (List.mem_cons.mp hmem).resolve_left (Ne.symm hk)
      by_cases hk' : k₀ = k'
      · subst hk'
        simp [insert, hne]
      · simp [insert, hk, hk', ih hmem]

/-- A field that is new can be taken away again. -/
theorem erase_insert_of_notMem (h : k ∉ names fs) : erase k (insert k v fs) = fs := by
  induction fs with
  | nil => simp [insert, erase]
  | cons m fs ih =>
    obtain ⟨k₀, v₀⟩ := m
    rw [names_cons, List.mem_cons, not_or] at h
    have hk : k₀ ≠ k := Ne.symm h.1
    rw [insert, if_neg hk, erase, List.filter_cons_of_pos (by simpa using hk)]
    exact congrArg _ (ih h.2)

theorem erase_insert_of_ne (hne : k' ≠ k) :
    erase k (insert k' v fs) = insert k' v (erase k fs) := by
  induction fs with
  | nil => simp [insert, erase, hne]
  | cons m fs ih =>
    obtain ⟨k₀, v₀⟩ := m
    by_cases hk : k₀ = k
    · subst hk
      simp only [erase] at ih
      simp [insert, erase, Ne.symm hne, ih]
    · simp only [erase] at ih
      by_cases hk' : k₀ = k'
      · simp [insert, erase, hk', hne]
      · simp [insert, erase, hk, hk', ih]

/-! ### Several fields -/

theorem get?_insertAll_of_notMem {new : Fields} (h : k ∉ names new) :
    get? k (insertAll fs new) = get? k fs := by
  induction new generalizing fs with
  | nil => rfl
  | cons m new ih =>
    obtain ⟨k₀, v₀⟩ := m
    rw [names_cons, List.mem_cons, not_or] at h
    rw [insertAll_cons, ih h.2, get?_insert_of_ne (Ne.symm h.1)]

/-- Of several fields that are set, each has its new value, and all others keep theirs. -/
theorem get?_insertAll {new : Fields} (hnew : new.names.Nodup) :
    get? k (insertAll fs new) = (get? k new).or (get? k fs) := by
  induction new generalizing fs with
  | nil => rfl
  | cons m new ih =>
    obtain ⟨k₀, v₀⟩ := m
    rw [names_cons, List.nodup_cons] at hnew
    rw [insertAll_cons, get?_cons]
    by_cases hk : k₀ = k
    · subst hk
      rw [if_pos rfl, get?_insertAll_of_notMem hnew.1, get?_insert_self, Option.some_or]
    · rw [if_neg hk, ih hnew.2, get?_insert_of_ne hk]

theorem nodup_names_insert (h : fs.names.Nodup) : (insert k v fs).names.Nodup := by
  induction fs with
  | nil => exact List.pairwise_singleton _ k
  | cons m fs ih =>
    obtain ⟨k₀, v₀⟩ := m
    rw [names_cons, List.nodup_cons] at h
    by_cases hk : k₀ = k
    · rw [insert, if_pos hk, names_cons, List.nodup_cons]
      exact h
    · rw [insert, if_neg hk, names_cons, List.nodup_cons, mem_names_insert]
      exact ⟨fun hmem => hmem.elim hk h.1, ih h.2⟩

theorem nodup_names_insertAll {new : Fields} (h : fs.names.Nodup) :
    (insertAll fs new).names.Nodup := by
  induction new generalizing fs with
  | nil => exact h
  | cons m new ih => exact ih (nodup_names_insert h)

/-- A field that is there already does not care which others are set before. -/
theorem insert_insertAll {new : Fields} (hnew : k ∉ names new) (hmem : k ∈ names fs) :
    insert k u (insertAll fs new) = insertAll (insert k u fs) new := by
  induction new generalizing fs with
  | nil => rfl
  | cons m new ih =>
    obtain ⟨k₀, v₀⟩ := m
    rw [names_cons, List.mem_cons, not_or] at hnew
    rw [insertAll_cons, insertAll_cons, ih hnew.2 (mem_names_insert.mpr (.inr hmem)),
      insert_comm (Ne.symm hnew.1) hmem]

theorem erase_insertAll {new : Fields} (hnew : k ∉ names new) :
    erase k (insertAll fs new) = insertAll (erase k fs) new := by
  induction new generalizing fs with
  | nil => rfl
  | cons m new ih =>
    obtain ⟨k₀, v₀⟩ := m
    rw [names_cons, List.mem_cons, not_or] at hnew
    rw [insertAll_cons, insertAll_cons, ih hnew.2, erase_insert_of_ne (Ne.symm hnew.1)]

theorem get?_erase_self : get? k (erase k fs) = none := by
  rw [get?_eq_none_iff, names, erase]
  simp

theorem get?_erase_of_ne (h : k' ≠ k) : get? k (erase k' fs) = get? k fs := by
  induction fs with
  | nil => rfl
  | cons m fs ih =>
    obtain ⟨k₀, v₀⟩ := m
    rw [erase] at ih ⊢
    by_cases hk : k₀ = k'
    · subst hk
      rw [List.filter_cons_of_neg (by simp), ih, get?_cons, if_neg h]
    · rw [List.filter_cons_of_pos (by simpa using hk), get?_cons, get?_cons, ih]

end Fields

/-! ### The two ends of a dispatch -/

namespace Log

open Fields

theorem get?_restore_self (context : Fields) (k : String) (old : Option Json) :
    get? k (restore context (k, old)) = old := by
  cases old with
  | some v => exact get?_insert_self k v context
  | none => exact get?_erase_self

theorem get?_restore_of_ne {k k' : String} (h : k' ≠ k) (context : Fields) (old : Option Json) :
    get? k (restore context (k', old)) = get? k context := by
  cases old with
  | some v => exact get?_insert_of_ne h v context
  | none => exact get?_erase_of_ne h

/-- The end of a dispatch gives back the fields that were bound, and leaves all others as they have
become. -/
theorem get?_leave (k : String) (context after bound : Fields) :
    get? k (leave after (save context bound)) =
      if k ∈ bound.names then get? k context else get? k after := by
  induction bound generalizing after with
  | nil => rfl
  | cons m bound ih =>
    obtain ⟨k₀, v₀⟩ := m
    show get? k (leave (restore after (k₀, get? k₀ context)) (save context bound)) = _
    rw [ih, names_cons]
    -- a later field of the same name would give back the same value
    by_cases hk : k₀ = k
    · subst hk
      rw [get?_restore_self, ite_self, if_pos List.mem_cons_self]
    · have hmem : k ∈ k₀ :: names bound ↔ k ∈ names bound := by
        rw [List.mem_cons]
        exact ⟨fun h => h.resolve_left (Ne.symm hk), .inr⟩
      simp only [get?_restore_of_ne hk, hmem]

theorem get?_enter {bound : Fields} (h : bound.names.Nodup) (k : String) (context : Fields) :
    get? k (enter context bound) = (get? k bound).or (get? k context) :=
  get?_insertAll h

/-- The field that is given back first might as well not have been bound. -/
theorem restore_enter {k : String} {v : Json} {bound : Fields} (h : k ∉ bound.names)
    (context : Fields) :
    restore (enter context ((k, v) :: bound)) (k, get? k context) = enter context bound := by
  rw [enter, insertAll_cons]
  cases hold : get? k context with
  -- the old value is set again
  | some u =>
    show insert k u (insertAll (insert k v context) bound) = _
    rw [insert_insertAll h (mem_names_insert.mpr (.inl rfl)), insert_insert, insert_of_get? hold]
    rfl
  -- there was no such field, and it is taken away again
  | none =>
    show erase k (insertAll (insert k v context) bound) = _
    rw [erase_insertAll h, erase_insert_of_notMem (get?_eq_none_iff.mp hold)]
    rfl

/-- The end of a dispatch gives the context back: field by field, what was there before is there
again. -/
theorem leave_enter {bound : Fields} (h : bound.names.Nodup) (context : Fields) :
    leave (enter context bound) (save context bound) = context := by
  induction bound with
  | nil => rfl
  | cons m bound ih =>
    obtain ⟨k, v⟩ := m
    rw [names_cons, List.nodup_cons] at h
    show leave (restore (enter context ((k, v) :: bound)) (k, get? k context))
      (save context bound) = context
    rw [restore_enter h.1, ih h.2]

/-! ### The fields of a dispatch -/

/-- The identifiers that a dispatch binds, without further fields. -/
def Binding.own (b : Binding) (fresh : String) : Fields :=
  [("correlation_id", if b.correlation.isTruthy then b.correlation else .str fresh)]
    ++ textField "job_id" b.job ++ textField "workspace_id" b.workspace
    ++ (if b.trigger.isNull then [] else [("trigger", b.trigger)])

theorem Binding.fields_eq (b : Binding) (fresh : String) :
    b.fields fresh = insertAll (b.own fresh) b.extra := rfl

theorem names_textField (name : String) (v : Json) : (textField name v).names.Sublist [name] := by
  rw [textField]
  split
  · exact List.nil_sublist _
  · exact List.Sublist.refl _

/-- The identifiers come under their names, in their order. -/
theorem Binding.names_own (b : Binding) (fresh : String) :
    (b.own fresh).names.Sublist Binding.names := by
  have htrigger : (Fields.names (if b.trigger.isNull then [] else [("trigger", b.trigger)])).Sublist
      ["trigger"] := by
    split
    · exact List.nil_sublist _
    · exact List.Sublist.refl _
  rw [own, Fields.names, List.map_append, List.map_append, List.map_append]
  exact (((List.Sublist.refl ["correlation_id"]).append (names_textField _ _)).append
    (names_textField _ _)).append htrigger

theorem Binding.nodup_names_fields (b : Binding) (fresh : String) :
    (b.fields fresh).names.Nodup :=
  nodup_names_insertAll ((b.names_own fresh).nodup (by decide))

/-- The arguments of a dispatch, with the new correlation identifier that is at hand when it begins.
Further fields do not have the names of identifiers, which are arguments of their own. -/
structure Opening where
  /-- The identifiers and further fields. -/
  binding : Binding
  /-- The new correlation identifier. -/
  fresh : String
  /-- It is a text with letters. -/
  fresh_ne : fresh ≠ ""
  /-- Further fields have other names than the identifiers. -/
  apart : ∀ k ∈ binding.extra.names, k ∉ Binding.names

namespace Opening

/-- The fields that are bound. -/
def fields (o : Opening) : Fields := o.binding.fields o.fresh

/-- An action inside a dispatch that begins like this. -/
def within {α : Type} (o : Opening) (x : Action α) : Action α := fun s w =>
  Action.within o.binding x { s with fresh := o.fresh } w

/-- There is a correlation identifier in every dispatch, and it counts as true. -/
theorem get?_correlation (o : Opening) :
    ∃ v, get? "correlation_id" o.fields = some v ∧ v.isTruthy = true := by
  have hextra : "correlation_id" ∉ o.binding.extra.names :=
    fun h => o.apart _ h (by decide)
  rw [fields, Binding.fields_eq, get?_insertAll_of_notMem hextra]
  refine ⟨_, rfl, ?_⟩
  -- a correlation identifier that is given counts, or else a fresh one is made
  by_cases h : o.binding.correlation.isTruthy = true
  · rw [if_pos h]
    exact h
  · rw [if_neg h]
    exact bne_iff_ne.mpr o.fresh_ne

end Opening

/-! ### Programs -/

/-- What is seen of a context: the value of each field. -/
abbrev View := String → Option Json

/-- What is seen of a world. -/
def viewOf (w : World) : View := fun k => get? k w.context

/-- The view inside a dispatch: a field that it binds hides the one outside. -/
def Opening.shadowing (o : Opening) (outside : View) : View :=
  fun k => (get? k o.fields).or (outside k)

/-- A view in which there is a correlation identifier, which counts as true. -/
def View.IsCorrelated (view : View) : Prop :=
  ∃ v, view "correlation_id" = some v ∧ v.isTruthy = true

theorem Opening.isCorrelated_shadowing (o : Opening) (outside : View) :
    View.IsCorrelated (o.shadowing outside) := by
  obtain ⟨v, hv, htrue⟩ := o.get?_correlation
  exact ⟨v, by rw [shadowing, hv, Option.some_or], htrue⟩

/-- A program of nested dispatches. -/
inductive Program where
  /-- It does nothing. -/
  | skip
  /-- It writes a log entry, which shows the context. -/
  | log (level : Level) (event : String)
  /-- It fails. -/
  | fail (e : Failure)
  /-- A program inside a dispatch. -/
  | dispatch (o : Opening) (body : Program)
  /-- A program, and then another one unless the first fails. -/
  | next (p q : Program)
  /-- A program, and another one if the first fails. -/
  | rescue (p q : Program)

namespace Program

/-- What a program does. -/
def run : Program → Action Unit
  | skip => pure ()
  | log level event => do Action.log level event (← Action.world).context
  | fail e => Action.fail e
  | dispatch o body => o.within body.run
  | next p q => do p.run; q.run
  | rescue p q => p.run.handle fun _ => q.run

/-- A log entry, and what is seen of the context when it is written. -/
structure Sight where
  /-- The level. -/
  level : Level
  /-- The name of the event. -/
  event : String
  /-- What is seen of the context. -/
  view : View

/-- An effect that is a log entry with the fields that are seen. -/
def Sight.ShownBy (p : Sight) (e : Effect) : Prop :=
  ∃ fields, e = .logged ⟨p.level, p.event, fields⟩ ∧ ∀ k, get? k fields = p.view k

/-- What a program shows and how it ends, given what is seen outside.  Views are only handed
inwards: each field is that of the innermost dispatch around that binds it. -/
def meaning : Program → View → List Sight × Except Failure Unit
  | skip, _ => ([], .ok ())
  | log level event, view => ([⟨level, event, view⟩], .ok ())
  | fail e, _ => ([], .error e)
  | dispatch o body, view => body.meaning (o.shadowing view)
  | next p q, view =>
      match p.meaning view with
      | (sights, .ok ()) => (sights ++ (q.meaning view).1, (q.meaning view).2)
      | (sights, .error e) => (sights, .error e)
  | rescue p q, view =>
      match p.meaning view with
      | (sights, .ok ()) => (sights, .ok ())
      | (sights, .error _) => (sights ++ (q.meaning view).1, (q.meaning view).2)

/-- A program means what it does, and leaves the context alone: all it leaves behind is entries
that show what is seen. -/
theorem run_eq_meaning (p : Program) (s : Surroundings) (w : World) :
    ∃ es, p.run s w = ((p.meaning (viewOf w)).2, w.extend es) ∧
      List.Forall₂ Sight.ShownBy (p.meaning (viewOf w)).1 es := by
  induction p generalizing s w with
  | skip => exact ⟨[], by rw [World.extend_nil]; rfl, .nil⟩
  | log level event =>
    exact ⟨[.logged ⟨level, event, w.context⟩], rfl,
      .cons ⟨w.context, rfl, fun _ => rfl⟩ .nil⟩
  | fail e => exact ⟨[], by rw [World.extend_nil]; rfl, .nil⟩
  | dispatch o body ih =>
    have hnodup : o.fields.names.Nodup := o.binding.nodup_names_fields o.fresh
    obtain ⟨es, hrun, hshown⟩ := ih { s with fresh := o.fresh }
      { w with context := enter w.context o.fields }
    -- inside, the fields of the dispatch hide those outside
    have hview : viewOf { w with context := enter w.context o.fields } = o.shadowing (viewOf w) :=
      funext fun k => get?_enter hnodup k w.context
    rw [hview] at hrun hshown
    refine ⟨es, ?_, hshown⟩
    show Action.within o.binding body.run { s with fresh := o.fresh } w = _
    rw [within_apply hrun]
    show (_, { w.extend es with
      context := leave (enter w.context o.fields) (save w.context o.fields) }) = _
    rw [leave_enter hnodup]
    rfl
  | next p q ihp ihq =>
    obtain ⟨es, hrun, hshown⟩ := ihp s w
    rw [run, meaning]
    cases hp : p.meaning (viewOf w) with
    | mk sights r =>
      rw [hp] at hrun hshown
      cases r with
      | error e => exact ⟨es, Action.bind_error hrun, hshown⟩
      | ok u =>
        obtain ⟨es', hrun', hshown'⟩ := ihq s (w.extend es)
        refine ⟨es ++ es', ?_, List.rel_append hshown hshown'⟩
        rw [bind_ok hrun, hrun', World.extend_extend]
        rfl
  | rescue p q ihp ihq =>
    obtain ⟨es, hrun, hshown⟩ := ihp s w
    rw [run, meaning]
    cases hp : p.meaning (viewOf w) with
    | mk sights r =>
      rw [hp] at hrun hshown
      cases r with
      | ok u => exact ⟨es, handle_ok hrun, hshown⟩
      | error e =>
        obtain ⟨es', hrun', hshown'⟩ := ihq s (w.extend es)
        refine ⟨es ++ es', ?_, List.rel_append hshown hshown'⟩
        rw [handle_error hrun, hrun', World.extend_extend]
        rfl

/-- Where a correlation identifier is seen outside, one is seen at every point of a program. -/
theorem isCorrelated_of_view (p : Program) {view : View} (h : view.IsCorrelated) :
    ∀ sight ∈ (p.meaning view).1, sight.view.IsCorrelated := by
  induction p generalizing view with
  | skip => exact fun _ hmem => absurd hmem List.not_mem_nil
  | log level event =>
    intro sight hmem
    rw [List.mem_singleton.mp hmem]
    exact h
  | fail e => exact fun _ hmem => absurd hmem List.not_mem_nil
  | dispatch o body ih => exact ih (o.isCorrelated_shadowing view)
  | next p q ihp ihq =>
    rw [meaning]
    have hp := ihp h
    cases hm : p.meaning view with
    | mk sights r =>
      rw [hm] at hp
      cases r with
      -- after a failure the second program is not seen
      | error e => exact hp
      | ok u => exact fun sight hmem => (List.mem_append.mp hmem).elim (hp sight) (ihq h sight)
  | rescue p q ihp ihq =>
    rw [meaning]
    have hp := ihp h
    cases hm : p.meaning view with
    | mk sights r =>
      rw [hm] at hp
      cases r with
      | ok u => exact hp
      | error e => exact fun sight hmem => (List.mem_append.mp hmem).elim (hp sight) (ihq h sight)

/-- A correlation identifier is seen at every point of a dispatch. -/
theorem isCorrelated_dispatch (o : Opening) (body : Program) (view : View) :
    ∀ sight ∈ ((dispatch o body).meaning view).1, sight.view.IsCorrelated :=
  isCorrelated_of_view body (o.isCorrelated_shadowing view)

end Program

end Log

end JobHerald
