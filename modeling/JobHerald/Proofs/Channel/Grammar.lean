import JobHerald.Slack.Block

/-!
# The grammar of finished messages

The blocks of a finished message have types: a section carries a text, or at most ten fields, and a
divider carries nothing.  The check of a message looks at one block after the other and stops at the
first that does not pass.  It takes the length of a section's fields without asking whether they are
a list, so that a short text and a small object pass as fields, and what has no length makes the
check fail.

## Main definitions

* `Json.IsShortList`, `Json.IsShort`, `Json.IsLengthless` — values by their length.
* `Slack.FollowsRules` — the rules for one block, where it is left open what fields may be.
* `Slack.IsMessage` — lists of blocks that all follow the rules.
* `Slack.Sticks`, `Slack.SticksAt` — blocks, and messages, whose check fails.
* `Slack.Decided` — values for which the check answers what the grammar says.

## Main results

* `Slack.ends_blockValid` — how the check of one block ends.
* `Slack.allValid_eq_true_iff`, `Slack.allValid_eq_error_iff` — how the check of all blocks ends.
* `Slack.decided_iff` — when the check answers what the grammar says.
* `Slack.grammar_decided` — **the check decides the grammar where fields are lists**.
-/

namespace JobHerald

namespace Json

/-! ### Values by their length -/

/-- A list of at most ten elements. -/
inductive IsShortList : Json → Prop
  /-- A list. -/
  | list {items : List Json} (h : items.length ≤ 10) : IsShortList (.arr items)

/-- A value of at most ten elements, characters or members. -/
inductive IsShort : Json → Prop
  /-- A list. -/
  | list {items : List Json} (h : items.length ≤ 10) : IsShort (.arr items)
  /-- A text. -/
  | text {s : String} (h : s.length ≤ 10) : IsShort (.str s)
  /-- An object. -/
  | object {members : Fields} (h : members.length ≤ 10) : IsShort (.obj members)

/-- A value without a length. -/
inductive IsLengthless : Json → Prop
  /-- Nothing. -/
  | null : IsLengthless .null
  /-- A truth value. -/
  | bool (b : Bool) : IsLengthless (.bool b)
  /-- An integer. -/
  | int (n : Int) : IsLengthless (.int n)
  /-- Another number. -/
  | real (x : Binary64) : IsLengthless (.real x)

variable {v : Json}

theorem size?_eq_none_iff : v.size? = none ↔ v.IsLengthless := by
  constructor
  · intro h
    cases v with
    | null => exact .null
    | bool b => exact .bool b
    | int n => exact .int n
    | real x => exact .real x
    | str s => cases h
    | arr items => cases h
    | obj members => cases h
  · rintro (_ | _ | _ | _) <;> rfl

theorem isShort_iff : v.IsShort ↔ ∃ n, v.size? = some n ∧ n ≤ Slack.fieldsLimit := by
  constructor
  · rintro (h | h | h) <;> exact ⟨_, rfl, h⟩
  · rintro ⟨n, hsize, hn⟩
    cases v with
    | null => cases hsize
    | bool b => cases hsize
    | int n => cases hsize
    | real x => cases hsize
    | str s => cases hsize; exact .text hn
    | arr items => cases hsize; exact .list hn
    | obj members => cases hsize; exact .object hn

theorem IsShort.not_isLengthless (h : v.IsShort) : ¬ v.IsLengthless := by
  cases h <;> nofun

theorem IsShortList.isShort (h : v.IsShortList) : v.IsShort := by
  cases h with
  | list h => exact .list h

/-- Among the lists, the short values are the short lists. -/
theorem IsShort.isShortList {items : List Json} (h : (arr items).IsShort) :
    (arr items).IsShortList := by
  cases h with
  | list h => exact .list h

end Json

namespace Slack

/-! ### The grammar -/

/-- An object of a type. -/
def IsOfType (type : String) (members : Fields) : Prop :=
  Fields.get? "type" members = some (.str type)

/-- The rules for a block, with fields that are good in some sense. -/
structure FollowsRules (good : Json → Prop) (members : Fields) : Prop where
  /-- There is a type. -/
  typed : "type" ∈ members.names
  /-- A section has a text or fields. -/
  filled : IsOfType "section" members → "text" ∈ members.names ∨ "fields" ∈ members.names
  /-- If a section has fields, they are good. -/
  fields : IsOfType "section" members → ∀ v, Fields.get? "fields" members = some v → good v
  /-- A divider has nothing but its type. -/
  bare : IsOfType "divider" members → members.names = ["type"]

/-- A block that is an object and follows the rules. -/
inductive IsValid (good : Json → Prop) : Json → Prop
  /-- The object. -/
  | obj {members : Fields} (h : FollowsRules good members) : IsValid good (.obj members)

/-- A list of blocks that all follow the rules. -/
inductive IsMessage (good : Json → Prop) : Json → Prop
  /-- The list. -/
  | arr {blocks : List Json} (h : ∀ b ∈ blocks, IsValid good b) : IsMessage good (.arr blocks)

/-- A section whose fields have no length, which the check fails with. -/
inductive Sticks : Json → Failure → Prop
  /-- The section. -/
  | obj {members : Fields} {v : Json} (htype : IsOfType "section" members)
      (hfields : Fields.get? "fields" members = some v) (hv : v.IsLengthless) :
      Sticks (.obj members) (.noLength v.typeName)

/-- A list in which such a section comes after blocks that follow the rules. -/
inductive SticksAt : Json → Failure → Prop
  /-- The list. -/
  | arr {before after : List Json} {b : Json} {e : Failure}
      (hbefore : ∀ b' ∈ before, IsValid Json.IsShort b') (hb : Sticks b e) :
      SticksAt (.arr (before ++ b :: after)) e

/-- A value in which the fields of each section are a list. -/
def ListsFields (v : Json) : Prop :=
  ∀ blocks, v = .arr blocks → ∀ members, .obj members ∈ blocks → IsOfType "section" members →
    ∀ fields, Fields.get? "fields" members = some fields → ∃ items, fields = .arr items

/-- The check answers, and what it answers is whether a value is a list of blocks that follow the
rules, with lists of at most ten elements as fields. -/
def Decided (v : Json) : Prop :=
  ∃ valid, blocksValid v = .ok valid ∧ (valid = true ↔ IsMessage Json.IsShortList v)

variable {good good' : Json → Prop} {members : Fields} {b v : Json} {blocks : List Json}
  {e : Failure}

/-! ### Rules by type -/

theorem IsOfType.typed {type : String} (h : IsOfType type members) : "type" ∈ members.names := by
  rw [← Fields.has_iff, Fields.has, h]
  rfl

/-- An object has one type. -/
theorem IsOfType.unique {type type' : String} (h : IsOfType type members)
    (h' : IsOfType type' members) : type = type' := by
  simpa using h.symm.trans h'

theorem followsRules_section_iff (htype : IsOfType "section" members) :
    FollowsRules good members ↔ ("text" ∈ members.names ∨ "fields" ∈ members.names) ∧
      ∀ v, Fields.get? "fields" members = some v → good v where
  mp h := ⟨h.filled htype, h.fields htype⟩
  mpr h := ⟨htype.typed, fun _ => h.1, fun _ => h.2,
    fun hdivider => absurd (htype.unique hdivider) (by decide)⟩

theorem followsRules_divider_iff (htype : IsOfType "divider" members) :
    FollowsRules good members ↔ members.names = ["type"] where
  mp h := h.bare htype
  mpr h := ⟨htype.typed, fun hsection => absurd (htype.unique hsection) (by decide),
    fun hsection => absurd (htype.unique hsection) (by decide), fun _ => h⟩

/-- There are no rules for other types. -/
theorem followsRules_of_other (htyped : "type" ∈ members.names)
    (hsection : ¬ IsOfType "section" members) (hdivider : ¬ IsOfType "divider" members) :
    FollowsRules good members :=
  ⟨htyped, fun h => absurd h hsection, fun h => absurd h hsection, fun h => absurd h hdivider⟩

theorem FollowsRules.of_fields (h : FollowsRules good members)
    (hfields : IsOfType "section" members →
      ∀ v, Fields.get? "fields" members = some v → good v → good' v) :
    FollowsRules good' members where
  typed := h.typed
  filled := h.filled
  fields htype v hv := hfields htype v hv (h.fields htype v hv)
  bare := h.bare

/-- A divider has nothing but its type if it has one member: the check counts the members, and the
rule names them. -/
theorem names_eq_type_iff (htyped : "type" ∈ members.names) :
    members.names = ["type"] ↔ members.length ≤ 1 := by
  rw [← List.length_map (·.1)]
  change members.names = ["type"] ↔ members.names.length ≤ 1
  constructor
  · intro h
    rw [h]
    exact Nat.le_refl 1
  -- one member, and the type is a member
  · intro hlength
    obtain ⟨name, hname⟩ := List.length_eq_one_iff.mp
      (Nat.le_antisymm hlength (List.length_pos_of_mem htyped))
    rw [hname, List.mem_singleton] at htyped
    rw [hname, htyped]

/-! ### One block -/

/-- How the check of one block may end. -/
inductive EndsOne (b : Json) : Except Failure Bool → Prop
  /-- The block follows the rules. -/
  | passes (h : IsValid Json.IsShort b) : EndsOne b (.ok true)
  /-- It does not, for another reason than fields without a length. -/
  | stops (h : ¬ IsValid Json.IsShort b) (hb : ∀ e, ¬ Sticks b e) : EndsOne b (.ok false)
  /-- Its fields have no length. -/
  | fails {e : Failure} (h : Sticks b e) : EndsOne b (.error e)

theorem isValid_obj_iff : IsValid good (.obj members) ↔ FollowsRules good members :=
  ⟨fun | .obj h => h, .obj⟩

/-- A block sticks only if it is a section, since only there a length is taken. -/
theorem not_sticks_of_ne (htype : ¬ IsOfType "section" members) : ¬ Sticks (.obj members) e :=
  fun | .obj hsection _ _ => htype hsection

/-- A block sticks with one failure. -/
theorem Sticks.unique {e' : Failure} (h : Sticks b e) (h' : Sticks b e') : e = e' := by
  obtain ⟨-, hfields, -⟩ := h
  obtain ⟨-, hfields', -⟩ := h'
  rw [Option.some.inj (hfields.symm.trans hfields')]

theorem IsValid.not_sticks (h : IsValid Json.IsShort b) : ¬ Sticks b e := by
  rintro ⟨htype, hfields, hv⟩
  exact ((isValid_obj_iff.mp h).fields htype _ hfields).not_isLengthless hv

theorem endsOne_of_iff {valid : Bool} (hvalid : valid = true ↔ IsValid Json.IsShort b)
    (hsticks : ∀ e, ¬ Sticks b e) : EndsOne b (.ok valid) := by
  cases valid with
  | true => exact .passes (hvalid.mp rfl)
  | false => exact .stops (fun h => Bool.false_ne_true (hvalid.mpr h)) hsticks

/-- A section without fields passes if it has a text. -/
theorem ends_section_text (htype : IsOfType "section" members)
    (hfields : Fields.get? "fields" members = none) :
    EndsOne (.obj members) (blockValid (.obj members)) := by
  have hcheck : blockValid (.obj members) = .ok (Fields.has "text" members) := by
    rw [IsOfType] at htype
    simp only [blockValid, htype, hfields, Fields.has]
    cases Fields.get? "text" members <;> rfl
  have hnames : "fields" ∉ members.names := Fields.get?_eq_none_iff.mp hfields
  rw [hcheck]
  refine endsOne_of_iff ?_ ?_
  · rw [isValid_obj_iff, followsRules_section_iff htype, Fields.has_iff]
    simp [hnames, hfields]
  · rintro e ⟨-, hsome, -⟩
    rw [hfields] at hsome
    cases hsome

/-- A section with fields passes if they are short, and sticks if they have no length. -/
theorem ends_section_fields (htype : IsOfType "section" members)
    (hfields : Fields.get? "fields" members = some v) :
    EndsOne (.obj members) (blockValid (.obj members)) := by
  have hnames : "fields" ∈ members.names := by
    rw [← Fields.has_iff, Fields.has, hfields]
    rfl
  -- the length is taken first; only then is it compared
  cases hsize : v.size? with
  | none =>
    have hcheck : blockValid (.obj members) = .error (.noLength v.typeName) := by
      rw [IsOfType] at htype
      simp [blockValid, htype, hfields, hsize, Fields.has]
    rw [hcheck]
    exact .fails (.obj htype hfields (Json.size?_eq_none_iff.mp hsize))
  | some n =>
    have hcheck : blockValid (.obj members) = .ok (n ≤ fieldsLimit) := by
      rw [IsOfType] at htype
      simp [blockValid, htype, hfields, hsize, Fields.has]
    rw [hcheck]
    refine endsOne_of_iff ?_ ?_
    · rw [isValid_obj_iff, followsRules_section_iff htype]
      simp [hnames, hfields, Json.isShort_iff, hsize]
    · rintro e ⟨-, hsome, hv⟩
      rw [hfields] at hsome
      cases hsome
      rw [Json.size?_eq_none_iff.mpr hv] at hsize
      cases hsize

/-- A divider passes if it has one member. -/
theorem ends_divider (htype : IsOfType "divider" members) :
    EndsOne (.obj members) (blockValid (.obj members)) := by
  have hcheck : blockValid (.obj members) = .ok (members.length ≤ 1) := by
    rw [IsOfType] at htype
    simp only [blockValid, htype]
  rw [hcheck]
  refine endsOne_of_iff ?_ fun e => not_sticks_of_ne fun h => absurd (h.unique htype) (by decide)
  rw [isValid_obj_iff, followsRules_divider_iff htype, names_eq_type_iff htype.typed,
    decide_eq_true_iff]

/-- An object of another type passes. -/
theorem ends_other (htyped : "type" ∈ members.names) (hsection : ¬ IsOfType "section" members)
    (hdivider : ¬ IsOfType "divider" members) :
    EndsOne (.obj members) (blockValid (.obj members)) := by
  have hcheck : blockValid (.obj members) = .ok true := by
    simp only [IsOfType] at hsection hdivider
    rw [← Fields.has_iff, Fields.has, Option.isSome_iff_exists] at htyped
    obtain ⟨kind, hkind⟩ := htyped
    rw [hkind, Option.some.injEq] at hsection hdivider
    -- the type is neither of the two that the check looks for
    simp only [blockValid, hkind]
  rw [hcheck]
  exact .passes (.obj (followsRules_of_other htyped hsection hdivider))

/-- How the check of a block ends: by the type of the block and, for a section, by its fields. -/
theorem ends_blockValid (b : Json) : EndsOne b (blockValid b) := by
  -- what is no object has neither rules nor fields
  have hother (hb : ∀ members, b ≠ .obj members) : EndsOne b (.ok false) :=
    .stops (fun | .obj _ => hb _ rfl) fun | _, .obj _ _ _ => hb _ rfl
  cases b with
  | obj members =>
    by_cases htyped : "type" ∈ Fields.names members
    · by_cases hsection : IsOfType "section" members
      · cases hfields : Fields.get? "fields" members with
        | none => exact ends_section_text hsection hfields
        | some v => exact ends_section_fields hsection hfields
      · by_cases hdivider : IsOfType "divider" members
        · exact ends_divider hdivider
        · exact ends_other htyped hsection hdivider
    · have hcheck : blockValid (.obj members) = .ok false := by
        simp only [blockValid, Fields.get?_eq_none_iff.mpr htyped]
      rw [hcheck]
      exact .stops (fun h => htyped (isValid_obj_iff.mp h).typed)
        fun e => not_sticks_of_ne fun h => htyped h.typed
  | null => exact hother nofun
  | bool b => exact hother nofun
  | int n => exact hother nofun
  | real x => exact hother nofun
  | str s => exact hother nofun
  | arr items => exact hother nofun

/-- The check of a block ends in one way. -/
theorem EndsOne.unique {r r' : Except Failure Bool} (h : EndsOne b r) (h' : EndsOne b r') :
    r = r' := by
  cases h with
  | passes h =>
    cases h' with
    | passes h' => rfl
    | stops h' hb' => exact absurd h h'
    | fails h' => exact absurd h' h.not_sticks
  | stops h hb =>
    cases h' with
    | passes h' => exact absurd h' h
    | stops h' hb' => rfl
    | fails h' => exact absurd h' (hb _)
  | fails h =>
    cases h' with
    | passes h' => exact absurd h h'.not_sticks
    | stops h' hb' => exact absurd h (hb' _)
    | fails h' => rw [h.unique h']

theorem blockValid_eq_iff {r : Except Failure Bool} : blockValid b = r ↔ EndsOne b r :=
  ⟨fun h => h ▸ ends_blockValid b, (ends_blockValid b).unique⟩

theorem blockValid_eq_true_iff : blockValid b = .ok true ↔ IsValid Json.IsShort b :=
  blockValid_eq_iff.trans ⟨fun | .passes h => h, .passes⟩

theorem blockValid_eq_error_iff : blockValid b = .error e ↔ Sticks b e :=
  blockValid_eq_iff.trans ⟨fun | .fails h => h, .fails⟩

/-! ### All blocks -/

theorem allValid_eq_true_iff :
    allValid blocks = .ok true ↔ ∀ b ∈ blocks, blockValid b = .ok true := by
  induction blocks with
  | nil => simp [allValid]
  | cons b blocks ih =>
    rw [allValid, List.forall_mem_cons, ← ih]
    cases blockValid b with
    | error e => simp
    | ok valid => cases valid <;> simp

/-- The check goes on after blocks that pass, and what it comes to is what it comes to for the
others. -/
theorem allValid_append {before : List Json} (h : ∀ b ∈ before, blockValid b = .ok true)
    (after : List Json) : allValid (before ++ after) = allValid after := by
  induction before with
  | nil => rfl
  | cons b before ih =>
    obtain ⟨hb, hbefore⟩ := List.forall_mem_cons.mp h
    rw [List.cons_append, allValid, hb]
    exact ih hbefore

/-- The check fails at the first block that does not pass, and does not look at those after it. -/
theorem allValid_eq_error_iff : allValid blocks = .error e ↔
    ∃ before b after, blocks = before ++ b :: after ∧
      (∀ b' ∈ before, blockValid b' = .ok true) ∧ blockValid b = .error e := by
  constructor
  · intro h
    -- the block in question is the first one, or comes after it if the first one passes
    induction blocks with
    | nil => cases h
    | cons b blocks ih =>
      rw [allValid] at h
      cases hb : blockValid b with
      | error e' =>
        rw [hb] at h
        cases h
        exact ⟨[], b, blocks, rfl, nofun, hb⟩
      | ok valid =>
        rw [hb] at h
        cases valid with
        | false => cases h
        | true =>
          obtain ⟨before, b', after, rfl, hbefore, hb'⟩ := ih h
          exact ⟨b :: before, b', after, rfl, List.forall_mem_cons.mpr ⟨hb, hbefore⟩, hb'⟩
  · rintro ⟨before, b, after, rfl, hbefore, hb⟩
    rw [allValid_append hbefore, allValid, hb]

/-! ### Messages -/

theorem blocksValid_eq_true_iff : blocksValid v = .ok true ↔ IsMessage Json.IsShort v := by
  constructor
  · intro h
    cases v with
    | arr blocks =>
      exact .arr fun b hb => blockValid_eq_true_iff.mp (allValid_eq_true_iff.mp h b hb)
    | _ => cases h
  · rintro ⟨hblocks⟩
    exact allValid_eq_true_iff.mpr fun b hb => blockValid_eq_true_iff.mpr (hblocks b hb)

theorem blocksValid_eq_error_iff : blocksValid v = .error e ↔ SticksAt v e := by
  constructor
  · intro h
    cases v with
    | arr blocks =>
      obtain ⟨before, b, after, rfl, hbefore, hb⟩ := allValid_eq_error_iff.mp h
      exact .arr (fun b' hb' => blockValid_eq_true_iff.mp (hbefore b' hb'))
        (blockValid_eq_error_iff.mp hb)
    | _ => cases h
  · rintro ⟨hbefore, hb⟩
    exact allValid_eq_error_iff.mpr ⟨_, _, _, rfl,
      fun b' hb' => blockValid_eq_true_iff.mpr (hbefore b' hb'), blockValid_eq_error_iff.mpr hb⟩

/-- The check of a section whose fields are a list does not fail. -/
theorem ListsFields.not_sticksAt (h : ListsFields v) : ¬ SticksAt v e := by
  rintro ⟨-, ⟨htype, hfields, hlength⟩⟩
  obtain ⟨items, rfl⟩ := h _ rfl _ (List.mem_append_right _ List.mem_cons_self) htype _ hfields
  cases hlength

/-- A list of blocks stays a message if the fields of its sections are good in another sense. -/
theorem IsMessage.of_fields (h : IsMessage good (.arr blocks))
    (hfields : ∀ members, .obj members ∈ blocks → IsOfType "section" members →
      ∀ v, Fields.get? "fields" members = some v → good v → good' v) :
    IsMessage good' (.arr blocks) := by
  obtain ⟨hblocks⟩ := h
  refine .arr fun b hb => ?_
  obtain ⟨hrules⟩ := hblocks b hb
  exact .obj (hrules.of_fields (hfields _ hb))

theorem IsMessage.isShort (h : IsMessage Json.IsShortList v) : IsMessage Json.IsShort v := by
  cases h with
  | arr hblocks => exact (arr hblocks).of_fields fun _ _ _ _ _ hshort => hshort.isShort

/-- A message that passes follows the rules if its fields are lists. -/
theorem isMessage_list_iff :
    IsMessage Json.IsShortList v ↔ IsMessage Json.IsShort v ∧ ListsFields v := by
  constructor
  · intro h
    refine ⟨h.isShort, ?_⟩
    rintro blocks rfl members hmem htype fields hfields
    obtain ⟨hblocks⟩ := h
    -- the rules for a section with fields ask for a list
    obtain ⟨hrules⟩ := hblocks _ hmem
    obtain ⟨hlength⟩ := hrules.fields htype fields hfields
    exact ⟨_, rfl⟩
  · rintro ⟨⟨hblocks⟩, hlists⟩
    refine (IsMessage.arr hblocks).of_fields fun members hmem htype fields hfields hshort => ?_
    obtain ⟨items, rfl⟩ := hlists _ rfl members hmem htype fields hfields
    exact hshort.isShortList

/-- The grammar is decided unless the check fails, or finds nothing wrong with other fields. -/
theorem decided_iff :
    Decided v ↔ (∀ e, ¬ SticksAt v e) ∧ (IsMessage Json.IsShort v → ListsFields v) := by
  constructor
  · rintro ⟨valid, hcheck, hvalid⟩
    refine ⟨fun e he => ?_, fun hshort => ?_⟩
    -- where the check sticks it does not return
    · rw [blocksValid_eq_error_iff.mpr he] at hcheck
      cases hcheck
    · rw [blocksValid_eq_true_iff.mpr hshort] at hcheck
      cases hcheck
      exact (isMessage_list_iff.mp (hvalid.mp rfl)).2
  · rintro ⟨hsticks, hlists⟩
    cases hcheck : blocksValid v with
    | error e => exact absurd (blocksValid_eq_error_iff.mp hcheck) (hsticks e)
    | ok valid =>
      -- what returns has gone by the rules in which any short value passes for fields
      have hvalid : valid = true ↔ IsMessage Json.IsShort v := by
        rw [← blocksValid_eq_true_iff, hcheck, Except.ok.injEq]
      refine ⟨valid, hcheck, hvalid.trans ⟨fun hshort => ?_, IsMessage.isShort⟩⟩
      exact isMessage_list_iff.mpr ⟨hshort, hlists hshort⟩

/-- **The check decides the grammar where the fields of sections are lists.**  In general it does so
exactly if it comes to no section whose fields have no length, and passes no message in which they
are another value than a list.  It passes the messages whose fields are short values of any kind,
and fails at the first block that does not pass, if that is a section whose fields have no
length. -/
theorem grammar_decided (v : Json) :
    (ListsFields v → Decided v) ∧
      (Decided v ↔ (∀ e, ¬ SticksAt v e) ∧ (IsMessage Json.IsShort v → ListsFields v)) ∧
      (blocksValid v = .ok true ↔ IsMessage Json.IsShort v) ∧
      ∀ e, blocksValid v = .error e ↔ SticksAt v e :=
  ⟨fun h => decided_iff.mpr ⟨fun _ => h.not_sticksAt, fun _ => h⟩, decided_iff,
    blocksValid_eq_true_iff, fun _ => blocksValid_eq_error_iff⟩

/-- Ten fields, a divider, and a block of another type with fields that are no list. -/
theorem grammar_decided_ten_fields :
    ListsFields (.arr [.obj [("fields", .arr (List.replicate 10 (.str "x"))),
      ("type", .str "section")], .obj [("type", .str "divider")],
      .obj [("fields", .null), ("type", .str "image")]]) ∧
    IsMessage Json.IsShortList (.arr [.obj [("fields", .arr (List.replicate 10 (.str "x"))),
      ("type", .str "section")], .obj [("type", .str "divider")],
      .obj [("fields", .null), ("type", .str "image")]]) := by
  have hlists : ListsFields (.arr [.obj [("fields", .arr (List.replicate 10 (.str "x"))),
      ("type", .str "section")], .obj [("type", .str "divider")],
      .obj [("fields", .null), ("type", .str "image")]]) := by
    rintro blocks h members hmem htype fields hfields
    cases h
    simp only [List.mem_cons, Json.obj.injEq, List.not_mem_nil, or_false] at hmem
    obtain rfl | rfl | rfl := hmem
    · cases hfields
      exact ⟨_, rfl⟩
    · cases hfields
    · simp [IsOfType, Fields.get?_cons] at htype
  obtain ⟨valid, hcheck, hvalid⟩ := (grammar_decided _).1 hlists
  cases hcheck
  exact ⟨hlists, hvalid.mp rfl⟩

/-- The grammar is not decided for a section with null as its fields, nor for one with a text. -/
theorem undecided_without_list :
    ¬ Decided (.arr [.obj [("fields", .null), ("text", .str "t"), ("type", .str "section")]]) ∧
    ¬ Decided (.arr [.obj [("fields", .str "0123456789"), ("type", .str "section")]]) := by
  constructor
  · rintro ⟨valid, hcheck, -⟩
    cases hcheck
  · rintro ⟨valid, hcheck, hvalid⟩
    cases hcheck
    obtain ⟨hblocks⟩ := hvalid.mp rfl
    obtain ⟨hrules⟩ := hblocks _ List.mem_cons_self
    nomatch hrules.fields rfl _ rfl

end Slack

end JobHerald
