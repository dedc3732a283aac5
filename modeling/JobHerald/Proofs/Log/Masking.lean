import Mathlib.Data.List.Forall2
import JobHerald.Log.Processor
import JobHerald.Proofs.Text.Lowering

/-!
# Hidden values

A value is hidden if a pattern occurs in the lower case of its name.  Only a pattern in lower case
can occur there, so that of some patterns in any letter case exactly those in lower case do
something, and these hide what they should.

## Main definitions

* `Log.NamesSecret` — names in which a pattern occurs, whatever the case of either.
* `Log.Masked`, `Log.Hides` — a member, and an entry, with its secret values hidden.
* `Log.DifferInSecrets` — two entries that differ in secret values only.

## Main results

* `Log.isSensitive_iff` — the names whose values are hidden are those that the patterns in lower
  case make secret.
* `Log.hides_what_lower_case_names` — **the masked entry hides exactly what the patterns in lower
  case make secret**, and with them what all patterns make secret, if each of the others has one of
  them in it.
-/

namespace JobHerald.Log

/-! ### Secret values -/

/-- A name in which one of some patterns occurs, whatever the case of either. -/
def NamesSecret (patterns : List String) (name : String) : Prop :=
  ∃ p ∈ patterns, Text.contains (Text.lower name) (Text.lower p) = true

/-- A member with its value replaced if the name is secret and the value is not null. -/
inductive Masked (secret : String → Prop) (value : Json) : String × Json → String × Json → Prop
  /-- The value is replaced. -/
  | hidden {name : String} {v : Json} (h : secret name) (hv : v ≠ .null) :
      Masked secret value (name, v) (name, value)
  /-- There is nothing to be hidden. -/
  | kept {name : String} {v : Json} (h : secret name → v = .null) :
      Masked secret value (name, v) (name, v)

/-- An entry with its secret values hidden: the names and their order stay, and all other values. -/
def Hides (secret : String → Prop) (value : Json) : Fields → Fields → Prop :=
  List.Forall₂ (Masked secret value)

/-- Two entries that differ only in secret values, none of which is null. -/
def DifferInSecrets (secret : String → Prop) : Fields → Fields → Prop :=
  List.Forall₂ fun m m' =>
    m'.1 = m.1 ∧ (m'.2 = m.2 ∨ secret m.1 ∧ m.2 ≠ .null ∧ m'.2 ≠ .null)

/-- The patterns that are in lower case. -/
def lowerCased (patterns : List String) : List String := patterns.filter fun p => Text.lower p = p

/-! ### Names -/

section Names

variable {patterns further : List String} {name p : String}

theorem mem_lowerCased : p ∈ lowerCased patterns ↔ p ∈ patterns ∧ Text.lower p = p := by
  simp [lowerCased]

theorem namesSecret_lowerCased_iff : NamesSecret (lowerCased patterns) name ↔
    ∃ p ∈ lowerCased patterns, Text.contains (Text.lower name) p = true := by
  constructor
  · rintro ⟨p, hp, h⟩
    rw [(mem_lowerCased.mp hp).2] at h
    exact ⟨p, hp, h⟩
  · rintro ⟨p, hp, h⟩
    refine ⟨p, hp, ?_⟩
    rwa [(mem_lowerCased.mp hp).2]

/-- Only a pattern in lower case occurs in the lower case of a name. -/
theorem isSensitive_iff : isSensitive patterns name = true ↔
    NamesSecret (lowerCased patterns) name := by
  rw [isSensitive, List.any_eq_true, namesSecret_lowerCased_iff]
  constructor
  · rintro ⟨p, hp, h⟩
    exact ⟨p, mem_lowerCased.mpr ⟨hp, Text.lower_eq_self_of_contains h⟩, h⟩
  · rintro ⟨p, hp, h⟩
    exact ⟨p, (mem_lowerCased.mp hp).1, h⟩

theorem NamesSecret.mono (hsub : patterns ⊆ further) (h : NamesSecret patterns name) :
    NamesSecret further name := by
  obtain ⟨p, hp, hname⟩ := h
  exact ⟨p, hsub hp, hname⟩

theorem lowerCased_subset (patterns : List String) : lowerCased patterns ⊆ patterns :=
  List.filter_subset_self _

/-- The patterns that are always there are in lower case. -/
theorem lower_sensitivePatterns : ∀ p ∈ sensitivePatterns, Text.lower p = p := by
  have hplain : ∀ p ∈ sensitivePatterns, p.toList.all Text.isPlain = true := by decide +kernel
  exact fun p hp => Text.lower_of_isPlain (hplain p hp)

/-- All patterns make the same names secret as those in lower case if each pattern has one of them
in it. -/
theorem namesSecret_iff_of_covered
    (h : ∀ p ∈ patterns, ∃ q ∈ lowerCased patterns, Text.contains (Text.lower p) q = true)
    (name : String) : NamesSecret patterns name ↔ NamesSecret (lowerCased patterns) name := by
  refine ⟨?_, NamesSecret.mono (lowerCased_subset patterns)⟩
  rintro ⟨p, hp, hname⟩
  obtain ⟨q, hq, hpq⟩ := h p hp
  exact namesSecret_lowerCased_iff.mpr ⟨q, hq, Text.contains_trans hname hpq⟩

end Names

/-! ### Masked entries -/

section Entries

variable {value : Json} {patterns : List String} {fs gs : Fields}

theorem isNull_iff {v : Json} : v.isNull = true ↔ v = .null := by
  cases v <;> simp [Json.isNull]

/-- What becomes of one member: its value is hidden if a pattern names it and it is not null. -/
theorem masked_member (value : Json) (patterns : List String) (name : String) (v : Json) :
    Masked (NamesSecret (lowerCased patterns)) value (name, v)
      (name, if isSensitive patterns name && !v.isNull then value else v) := by
  by_cases hsecret : NamesSecret (lowerCased patterns) name
  · rw [isSensitive_iff.mpr hsecret, Bool.true_and]
    -- a null value stays, whatever its name
    cases hnull : v.isNull with
    | true => exact .kept fun _ => isNull_iff.mp hnull
    | false =>
      refine .hidden hsecret fun hv => ?_
      rw [isNull_iff.mpr hv] at hnull
      cases hnull
  · have hplain : isSensitive patterns name = false := by
      rw [Bool.eq_false_iff]
      exact fun h => hsecret (isSensitive_iff.mp h)
    rw [hplain]
    exact .kept fun h => absurd h hsecret

/-- The masked entry hides what the patterns in lower case make secret. -/
theorem hides_mask (value : Json) (patterns : List String) (fs : Fields) :
    Hides (NamesSecret (lowerCased patterns)) value fs (mask value patterns fs) := by
  rw [Hides, mask, List.forall₂_map_right_iff, List.forall₂_same]
  exact fun m _ => masked_member value patterns m.1 m.2

/-- There is only one way to hide the secret values of an entry. -/
theorem Masked.unique {secret : String → Prop} {m m' m'' : String × Json}
    (h : Masked secret value m m') (h' : Masked secret value m m'') : m' = m'' := by
  cases h with
  | hidden hs hv =>
    cases h' with
    | hidden _ _ => rfl
    | kept hkept => exact absurd (hkept hs) hv
  | kept hkept =>
    cases h' with
    | hidden hs hv => exact absurd (hkept hs) hv
    | kept _ => rfl

theorem Hides.unique {secret : String → Prop} {hs : Fields} (h : Hides secret value fs gs)
    (h' : Hides secret value fs hs) : gs = hs := by
  induction h generalizing hs with
  | nil =>
    cases h'
    rfl
  | cons hm _ ih =>
    cases h' with
    | cons hm' h' => rw [hm.unique hm', ih h']

/-- What is hidden stays hidden, and nothing else is when an entry is masked again. -/
theorem Masked.again {secret : String → Prop} {m m' : String × Json}
    (h : Masked secret value m m') : Masked secret value m' m' := by
  cases h with
  | hidden hs _ =>
    by_cases hnull : value = .null
    · exact .kept fun _ => hnull
    · exact .hidden hs hnull
  | kept hkept => exact .kept hkept

theorem Hides.again {secret : String → Prop} (h : Hides secret value fs gs) :
    Hides secret value gs gs := by
  induction h with
  | nil => exact .nil
  | cons hm _ ih => exact .cons hm.again ih

/-- Secret values that differ are hidden alike. -/
theorem Hides.of_differInSecrets {secret : String → Prop} {hs : Fields}
    (hd : DifferInSecrets secret fs gs) (h : Hides secret value fs hs) :
    Hides secret value gs hs := by
  induction hd generalizing hs with
  | nil => exact h
  | @cons m m' _ _ hmember _ ih =>
    obtain ⟨name, v⟩ := m
    obtain ⟨name', v'⟩ := m'
    obtain ⟨hname, hvalue⟩ := hmember
    dsimp only at hname hvalue
    subst hname
    cases h with
    | cons hm hrest =>
      refine .cons ?_ (ih hrest)
      -- either the values are equal, or both are secret and hidden
      rcases hvalue with rfl | ⟨hs, hv, hv'⟩
      · exact hm
      · cases hm with
        | hidden _ _ => exact .hidden hs hv'
        | kept hkept => exact absurd (hkept hs) hv

theorem Hides.congr {secret secret' : String → Prop} (hsecret : ∀ name, secret name ↔ secret' name)
    (h : Hides secret value fs gs) : Hides secret' value fs gs := by
  have hsame : secret = secret' := funext fun name => propext (hsecret name)
  exact hsame ▸ h

/-- A value other than null that can be told from another one. -/
theorem exists_other (value : Json) : ∃ v : Json, v ≠ .null ∧ v ≠ value := by
  by_cases h : value = .bool true
  · exact ⟨.bool false, nofun, by rw [h]; exact nofun⟩
  · exact ⟨.bool true, nofun, Ne.symm h⟩

/-- If everything is hidden that a pattern makes secret, it has one in it that is in lower case. -/
theorem exists_lowerCased_of_hides {p : String} (hp : p ∈ patterns)
    (h : ∀ fs, Hides (NamesSecret patterns) value fs (mask value patterns fs)) :
    ∃ q ∈ lowerCased patterns, Text.contains (Text.lower p) q = true := by
  rw [← namesSecret_lowerCased_iff]
  by_contra hplain
  -- a value under the pattern itself would have to be hidden, and is kept
  obtain ⟨v, hv, hother⟩ := exists_other value
  have hkept : Hides (NamesSecret (lowerCased patterns)) value [(p, v)] [(p, v)] :=
    .cons (.kept fun hsecret => absurd hsecret hplain) .nil
  have hall := h [(p, v)]
  rw [(hides_mask value patterns [(p, v)]).unique hkept] at hall
  have hsecret : NamesSecret patterns p := ⟨p, hp, Text.contains_self _⟩
  have hhidden : Hides (NamesSecret patterns) value [(p, v)] [(p, value)] :=
    .cons (.hidden hsecret hv) .nil
  have hsame := hall.unique hhidden
  simp only [List.cons.injEq, Prod.mk.injEq, true_and, and_true] at hsame
  exact hother hsame

end Entries

/-! ### The processor -/

/-- **A masked entry hides exactly the values that the patterns in lower case make secret**: names,
their order and all other values stay, to mask it again changes nothing, and entries that differ in
such values come out the same.  The values that all patterns make secret, in any letter case, are
hidden exactly if each further pattern has one in lower case in it. -/
theorem hides_what_lower_case_names (value : Json) (further : List String) :
    let patterns := sensitivePatterns ++ further
    let hide := (Processor.mask value further).apply
    (∀ fs, Hides (NamesSecret (lowerCased patterns)) value fs (hide fs)) ∧
    (∀ fs, hide (hide fs) = hide fs) ∧
    (∀ fs gs, DifferInSecrets (NamesSecret (lowerCased patterns)) fs gs → hide fs = hide gs) ∧
    ((∀ fs, Hides (NamesSecret patterns) value fs (hide fs)) ↔
      ∀ p ∈ further, ∃ q ∈ lowerCased patterns, Text.contains (Text.lower p) q = true) := by
  intro patterns hide
  have hhides : ∀ fs, Hides (NamesSecret (lowerCased patterns)) value fs (hide fs) :=
    hides_mask value patterns
  refine ⟨hhides, fun fs => ?_, fun fs gs hd => ?_, fun h p hp => ?_, fun h fs => ?_⟩
  · exact (hhides (hide fs)).unique (hhides fs).again
  · exact ((hhides fs).of_differInSecrets hd).unique (hhides gs)
  · exact exists_lowerCased_of_hides (List.mem_append_right sensitivePatterns hp) h
  -- the base patterns are in lower case themselves; the further ones are covered by the hypothesis
  · refine (hhides fs).congr fun name => (namesSecret_iff_of_covered (fun p hp => ?_) name).symm
    rcases List.mem_append.mp hp with hbase | hfurther
    · have hlower : Text.lower p = p := lower_sensitivePatterns p hbase
      refine ⟨p, mem_lowerCased.mpr ⟨hp, hlower⟩, ?_⟩
      rw [hlower]
      exact Text.contains_self _
    · exact h p hfurther

/-- An entry that tells who receives something. -/
def receiverEntry (name receiver : String) : Fields :=
  [("event", .str "notified"), (name, .str receiver)]

/-- Two receivers cannot be told apart under a further pattern in lower case, however the name is
written, and a further pattern that has another one in it does no harm. -/
theorem hides_what_lower_case_names_receiver :
    let further := ["receiver", "Mail_Receiver"]
    let hide := (Processor.mask (.str hiddenText) further).apply
    DifferInSecrets (NamesSecret (lowerCased (sensitivePatterns ++ further)))
        (receiverEntry "Receiver_Email" "a@example.org")
        (receiverEntry "Receiver_Email" "b@example.org") ∧
      hide (receiverEntry "Receiver_Email" "a@example.org")
        = hide (receiverEntry "Receiver_Email" "b@example.org") ∧
      ∀ fs, Hides (NamesSecret (sensitivePatterns ++ further)) (.str hiddenText) fs (hide fs) := by
  intro further hide
  have hreceiver : "receiver" ∈ lowerCased (sensitivePatterns ++ further) :=
    mem_lowerCased.mpr ⟨by decide, Text.lower_of_isPlain (by decide)⟩
  have hcovers : ∀ p ∈ "Receiver_Email" :: further,
      Text.contains (Text.lower p) "receiver" = true := by decide +kernel
  have hsecret : NamesSecret (lowerCased (sensitivePatterns ++ further)) "Receiver_Email" :=
    namesSecret_lowerCased_iff.mpr ⟨"receiver", hreceiver, hcovers _ List.mem_cons_self⟩
  have hdiffer : DifferInSecrets (NamesSecret (lowerCased (sensitivePatterns ++ further)))
      (receiverEntry "Receiver_Email" "a@example.org")
      (receiverEntry "Receiver_Email" "b@example.org") :=
    .cons ⟨rfl, .inl rfl⟩ (.cons ⟨rfl, .inr ⟨hsecret, nofun, nofun⟩⟩ .nil)
  obtain ⟨-, -, hsame, hall⟩ := hides_what_lower_case_names (.str hiddenText) further
  exact ⟨hdiffer, hsame _ _ hdiffer,
    hall.mpr fun p hp => ⟨"receiver", hreceiver, hcovers p (List.mem_cons_of_mem _ hp)⟩⟩

/-- A further pattern with a capital letter hides nothing, not even under a name that is written
the same way: two receivers are told apart. -/
theorem capital_pattern_hides_nothing :
    let further := ["Receiver"]
    let hide := (Processor.mask (.str hiddenText) further).apply
    let entry := receiverEntry "Receiver"
    NamesSecret (sensitivePatterns ++ further) "Receiver" ∧
      hide (entry "a@example.org") = entry "a@example.org" ∧
      hide (entry "a@example.org") ≠ hide (entry "b@example.org") := by
  intro further hide entry
  -- the name is put into lower case, and the pattern is not in it
  have hplain : ∀ name ∈ ["event", "Receiver"],
      isSensitive (sensitivePatterns ++ further) name = false := by decide +kernel
  have hkept : ∀ receiver, hide (entry receiver) = entry receiver := by
    intro receiver
    simp [hide, entry, Processor.apply, mask, receiverEntry, hplain]
  refine ⟨⟨"Receiver", by decide, Text.contains_self _⟩, hkept _, ?_⟩
  rw [hkept, hkept]
  simp [entry, receiverEntry]

end JobHerald.Log
