import JobHerald.Proofs.Catalog.Outline

/-!
# Reading summaries

A summary can be read back.  Its lines can be told apart, since no name has a line feed; the
kind of a line shows in its first four characters, so that a name can hold anything, even what
looks like another line; and the lines between two updated streams are the field changes of
the first of them.

## Main definitions

* `Text.IsOneLine`, `CatalogDiff.IsOneLine` — texts without line feeds, and differences all of
  whose names are such texts.
* `CatalogDiff.Outline.ofLines` — the outline that lines tell.

## Main results

* `CatalogDiff.Line.render_injective` — the text of a line tells its kind and what it holds.
* `CatalogDiff.Outline.ofLines_lines` — an outline can be read from its lines.
* `CatalogDiff.content_eq_of_summary_eq` — **a summary loses nothing.**
-/

namespace JobHerald

/-! ### Characters up to a mark -/

namespace Text

/-- What is before the first occurrence of a character and what is after it can be told
apart. -/
theorem eq_of_append_mark {c : Char} {l m s t : List Char} (hl : c ∉ l) (hm : c ∉ m)
    (h : l ++ c :: s = m ++ c :: t) : l = m ∧ s = t := by
  induction l generalizing m with
  | nil =>
    cases m with
    -- the first text is over: so is the second, which does not have the character
    | nil => exact ⟨rfl, (List.cons.inj h).2⟩
    | cons b m =>
      have hb : c = b := (List.cons.inj h).1
      exact absurd (List.mem_cons.mpr (Or.inl hb)) hm
  | cons a l ih =>
    cases m with
    -- the second text is over before the first, which has the character then
    | nil =>
      have ha : a = c := (List.cons.inj h).1
      exact absurd (List.mem_cons.mpr (Or.inl ha.symm)) hl
    | cons b m =>
      obtain ⟨hab, hrest⟩ := List.cons.inj h
      have hl' : c ∉ l := fun hc => hl (List.mem_cons_of_mem a hc)
      have hm' : c ∉ m := fun hc => hm (List.mem_cons_of_mem b hc)
      obtain ⟨hlm, hst⟩ := ih hl' hm' hrest
      exact ⟨by rw [hab, hlm], hst⟩

theorem toList_toString (n : Nat) : (toString n).toList = Nat.toDigits 10 n := Nat.toList_repr

theorem not_mem_toDigits {c : Char} (hc : c.isDigit = false) (n : Nat) :
    c ∉ Nat.toDigits 10 n := by
  intro hmem
  have hdigit := Nat.isDigit_of_mem_toDigits (by decide) (by decide) hmem
  rw [hc] at hdigit
  cases hdigit

theorem toDigits_injective : Function.Injective (Nat.toDigits 10) := by
  intro m n h
  have hvalue := congrArg (Nat.ofDigitChars 10 · 0) h
  simpa [Nat.ofDigitChars_ten_toDigits] using hvalue

/-- A number ends where a character follows that is no digit. -/
theorem toDigits_append_inj {c : Char} (hc : c.isDigit = false) {m n : Nat} {s t : List Char}
    (h : Nat.toDigits 10 m ++ c :: s = Nat.toDigits 10 n ++ c :: t) : m = n ∧ s = t := by
  obtain ⟨hdigits, hrest⟩ := eq_of_append_mark (not_mem_toDigits hc m) (not_mem_toDigits hc n) h
  exact ⟨toDigits_injective hdigits, hrest⟩

/-! ### Lines of a text -/

/-- A text without a line feed. -/
def IsOneLine (s : String) : Prop := '\n' ∉ s.toList

instance (s : String) : Decidable (IsOneLine s) := inferInstanceAs (Decidable (_ ∉ _))

theorem isOneLine_append {s t : String} : IsOneLine (s ++ t) ↔ IsOneLine s ∧ IsOneLine t := by
  simp [IsOneLine]

theorem isOneLine_toString (n : Nat) : IsOneLine (toString n) := by
  rw [IsOneLine, toList_toString]
  exact not_mem_toDigits (by decide) n

theorem isOneLine_joined {sep : String} (hsep : IsOneLine sep) :
    ∀ {parts : List String}, (∀ s ∈ parts, IsOneLine s) → IsOneLine (joined sep parts) := by
  intro parts
  induction parts with
  | nil => intro _; simp [IsOneLine]
  | cons s rest ih =>
    intro h
    have hs : IsOneLine s := h s List.mem_cons_self
    -- the last part has no separator behind it
    cases rest with
    | nil => exact hs
    | cons t rest =>
      have hrest := ih fun u hu => h u (List.mem_cons_of_mem s hu)
      exact isOneLine_append.mpr ⟨isOneLine_append.mpr ⟨hs, hsep⟩, hrest⟩

/-- Lines that end with a line feed each can be told apart. -/
theorem eq_of_join_lines {ls ms : List String} (hl : ∀ l ∈ ls, IsOneLine l)
    (hm : ∀ m ∈ ms, IsOneLine m)
    (h : String.join (ls.map (· ++ "\n")) = String.join (ms.map (· ++ "\n"))) : ls = ms := by
  have hchars := congrArg String.toList h
  simp only [String.toList_join, List.flatMap_map, String.toList_append] at hchars
  clear h
  induction ls generalizing ms with
  | nil =>
    cases ms with
    | nil => rfl
    | cons m ms => simp at hchars
  | cons l ls ih =>
    cases ms with
    | nil => simp at hchars
    | cons m ms =>
      -- the first line ends at the first line feed
      have hfeed : "\n".toList = ['\n'] := by decide
      simp only [List.flatMap_cons, List.append_assoc, hfeed, List.singleton_append] at hchars
      obtain ⟨hfirst, hrest⟩ :=
        eq_of_append_mark (hl l List.mem_cons_self) (hm m List.mem_cons_self) hchars
      have htail := ih (fun l' hl' => hl l' (List.mem_cons_of_mem l hl'))
        (fun m' hm' => hm m' (List.mem_cons_of_mem m hm')) (by simpa only [hfeed] using hrest)
      rw [String.ext hfirst, htail]

end Text

/-- The character that is the sign of a field change. -/
def FieldChange.mark : FieldChange → Char
  | add => '＋'
  | remove => '－'
  | update => '～'

theorem FieldChange.toList_sign (c : FieldChange) : c.sign.toList = [c.mark] := by
  cases c <;> rfl

theorem FieldChange.mark_injective : Function.Injective FieldChange.mark := by
  intro a b h
  cases a <;> cases b <;> simp [mark] at h ⊢

namespace CatalogDiff

/-! ### Lines of a summary -/

/-- The characters of a line. -/
def Line.chars : Line → List Char
  | streams a r =>
      ' ' :: '•' :: ' ' :: 'S' :: ("treams (+".toList ++ (Nat.toDigits 10 a ++ '/' :: '-' ::
        (Nat.toDigits 10 r ++ [')'])))
  | added name => ' ' :: ' ' :: ' ' :: '＋' :: ' ' :: name.toList
  | removed name => ' ' :: ' ' :: ' ' :: '－' :: ' ' :: name.toList
  | fields a u r =>
      ' ' :: '•' :: ' ' :: 'F' :: ("ields (+".toList ++ (Nat.toDigits 10 a ++ '/' :: '~' ::
        (Nat.toDigits 10 u ++ '/' :: '-' :: (Nat.toDigits 10 r ++ [')']))))
  | updated name => ' ' :: ' ' :: ' ' :: '•' :: ' ' :: name.toList
  | field e => ' ' :: ' ' :: ' ' :: ' ' :: ' ' :: e.1.mark :: ' ' :: e.2.toList

theorem Line.toList_render (l : Line) : l.render.toList = l.chars := by
  cases l <;>
    simp [render, chars, bullet, addSign, removeSign, FieldChange.toList_sign, Nat.toList_repr]

/-- The text of a line tells its kind and what it holds. -/
theorem Line.render_injective : Function.Injective Line.render := by
  intro a b h
  have hchars : a.chars = b.chars := by rw [← toList_render, ← toList_render, h]
  cases a <;> cases b
  case streams.streams a r a' r' =>
    simp only [chars, List.cons.injEq, true_and, List.append_cancel_left_eq] at hchars
    obtain ⟨ha, hrest⟩ := Text.toDigits_append_inj (by decide) hchars
    obtain ⟨hr, -⟩ := Text.toDigits_append_inj (by decide) (List.cons.inj hrest).2
    rw [ha, hr]
  case fields.fields a u r a' u' r' =>
    simp only [chars, List.cons.injEq, true_and, List.append_cancel_left_eq] at hchars
    obtain ⟨ha, hrest⟩ := Text.toDigits_append_inj (by decide) hchars
    obtain ⟨hu, hrest⟩ := Text.toDigits_append_inj (by decide) (List.cons.inj hrest).2
    obtain ⟨hr, -⟩ := Text.toDigits_append_inj (by decide) (List.cons.inj hrest).2
    rw [ha, hu, hr]
  case added.added name name' =>
    simp only [chars, List.cons.injEq, true_and, String.toList_inj] at hchars
    rw [hchars]
  case removed.removed name name' =>
    simp only [chars, List.cons.injEq, true_and, String.toList_inj] at hchars
    rw [hchars]
  case updated.updated name name' =>
    simp only [chars, List.cons.injEq, true_and, String.toList_inj] at hchars
    rw [hchars]
  case field.field e e' =>
    simp only [chars, List.cons.injEq, true_and, String.toList_inj] at hchars
    rw [Prod.ext (FieldChange.mark_injective hchars.1) hchars.2]
  -- lines of different kinds differ in their first four characters
  all_goals simp [chars] at hchars

/-! ### Reading an outline -/

/-- What lines tell: an outline, and the field changes before its first updated stream. -/
structure Reading extends Outline where
  /-- Field changes that no line puts below a stream yet. -/
  loose : List FieldEntry

namespace Reading

/-- What no lines tell. -/
def nothing : Reading where
  added := []
  removed := []
  updated := []
  loose := []

/-- What lines tell with one more line in front of them. -/
def withLine (l : Line) (r : Reading) : Reading :=
  match l with
  | .streams _ _ => r
  | .added name => { r with added := name :: r.added }
  | .removed name => { r with removed := name :: r.removed }
  | .fields _ _ _ => r
  | .updated name => { r with updated := (name, r.loose) :: r.updated, loose := [] }
  | .field e => { r with loose := e :: r.loose }

theorem foldr_added (names : List String) (r : Reading) :
    (names.map Line.added).foldr withLine r = { r with added := names ++ r.added } := by
  induction names with
  | nil => rfl
  | cons name names ih =>
    rw [List.map_cons, List.foldr_cons, ih]
    rfl

theorem foldr_removed (names : List String) (r : Reading) :
    (names.map Line.removed).foldr withLine r = { r with removed := names ++ r.removed } := by
  induction names with
  | nil => rfl
  | cons name names ih =>
    rw [List.map_cons, List.foldr_cons, ih]
    rfl

theorem foldr_field (es : List FieldEntry) (r : Reading) :
    (es.map Line.field).foldr withLine r = { r with loose := es ++ r.loose } := by
  induction es with
  | nil => rfl
  | cons e es ih =>
    rw [List.map_cons, List.foldr_cons, ih]
    rfl

/-- Blocks of lines are read as updated streams, each with the field changes of its block. -/
theorem foldr_blockLines (bs : List (String × List FieldEntry)) (r : Reading)
    (hr : r.loose = []) :
    (bs.flatMap Outline.blockLines).foldr withLine r = { r with updated := bs ++ r.updated } := by
  induction bs with
  | nil => rfl
  | cons b bs ih =>
    rw [List.flatMap_cons, List.foldr_append, ih, Outline.blockLines, List.foldr_cons, foldr_field,
      withLine]
    simp only [hr, List.append_nil, List.cons_append]

theorem foldr_streamLines (o : Outline) (r : Reading) :
    o.streamLines.foldr withLine r
      = { r with added := o.added ++ r.added, removed := o.removed ++ r.removed } := by
  unfold Outline.streamLines
  by_cases hnone : o.added.isEmpty && o.removed.isEmpty
  · obtain ⟨hadded, hremoved⟩ := Bool.and_eq_true_iff.mp hnone
    rw [if_pos hnone, List.isEmpty_iff.mp hadded, List.isEmpty_iff.mp hremoved]
    rfl
  · rw [if_neg hnone, List.foldr_cons, List.foldr_append, foldr_removed, foldr_added, withLine]

theorem foldr_fieldLines (o : Outline) :
    o.fieldLines.foldr withLine nothing = { nothing with updated := o.updated } := by
  unfold Outline.fieldLines
  by_cases hnone : o.updated.isEmpty
  · rw [if_pos hnone, List.isEmpty_iff.mp hnone]
    rfl
  · rw [if_neg hnone, List.foldr_cons, foldr_blockLines _ _ rfl, withLine]
    simp only [nothing, List.append_nil]

end Reading

/-- The outline that lines tell. -/
def Outline.ofLines (ls : List Line) : Outline := (ls.foldr Reading.withLine .nothing).toOutline

/-- An outline can be read from its lines, by folding them from the last one to the first: the field
changes below a header are gathered before the header is read. -/
theorem Outline.ofLines_lines (o : Outline) : ofLines o.lines = o := by
  rw [ofLines, lines, List.foldr_append, Reading.foldr_fieldLines, Reading.foldr_streamLines]
  simp only [Reading.nothing, List.append_nil]

/-! ### Names without line feeds -/

end CatalogDiff

/-- A stream change all of whose names are one line each. -/
structure StreamTransform.IsOneLine (t : StreamTransform) : Prop where
  /-- The name of the stream. -/
  name : Text.IsOneLine t.stream.name
  /-- Its name space. -/
  space : ∀ s ∈ t.stream.space, Text.IsOneLine s
  /-- The names on the way to each of its changed fields. -/
  fields : ∀ f ∈ t.fields, ∀ s ∈ f.names, Text.IsOneLine s

theorem StreamTransform.IsOneLine.title {t : StreamTransform} (h : t.IsOneLine) :
    Text.IsOneLine t.title := by
  unfold StreamTransform.title StreamDescriptor.qualifiedName
  split
  case h_1 space hspace =>
    have hs : Text.IsOneLine space := h.space space hspace
    split
    · exact h.name
    · exact Text.isOneLine_append.mpr ⟨Text.isOneLine_append.mpr ⟨hs, by decide⟩, h.name⟩
  case h_2 => exact h.name

theorem StreamTransform.IsOneLine.path {t : StreamTransform} (h : t.IsOneLine)
    {f : FieldTransform} (hf : f ∈ t.fields) : Text.IsOneLine f.path :=
  Text.isOneLine_joined (by decide) (h.fields f hf)

namespace CatalogDiff

/-- A difference all of whose names are one line each. -/
def IsOneLine (d : CatalogDiff) : Prop := ∀ t ∈ d.transforms, t.IsOneLine

theorem IsOneLine.streams {d : CatalogDiff} (h : d.IsOneLine) {change : StreamChange}
    {t : StreamTransform} (ht : t ∈ d.streams change) : t.IsOneLine :=
  h t (List.mem_of_mem_filter ((d.streams_perm change).mem_iff.mp ht))

theorem isOneLine_streamLine {sign : String} (hsign : Text.IsOneLine sign) {t : StreamTransform}
    (ht : t.IsOneLine) : Text.IsOneLine (streamLine sign t) := by
  unfold streamLine
  simp only [Text.isOneLine_append]
  exact ⟨⟨⟨by decide, hsign⟩, by decide⟩, ht.title⟩

theorem isOneLine_fieldLine {t : StreamTransform} (ht : t.IsOneLine) {f : FieldTransform}
    (hf : f ∈ t.fields) : Text.IsOneLine (fieldLine f) := by
  have hsign : Text.IsOneLine f.change.sign := by cases f.change <;> decide
  unfold fieldLine
  simp only [Text.isOneLine_append]
  exact ⟨⟨⟨by decide, hsign⟩, by decide⟩, ht.path hf⟩

theorem isOneLine_block {t : StreamTransform} (ht : t.IsOneLine) {s : String} (hs : s ∈ block t) :
    Text.IsOneLine s := by
  unfold block at hs
  rcases List.mem_cons.mp hs with rfl | hs
  · exact isOneLine_streamLine (by decide) ht
  · obtain ⟨f, hf, rfl⟩ := List.mem_map.mp hs
    exact isOneLine_fieldLine ht ((sortFields_perm t.fields).mem_iff.mp hf)

/-- The lines of a summary have no line feed, if no name has one: headers, marks and counts are
written without it. -/
theorem IsOneLine.lines {d : CatalogDiff} (hd : d.IsOneLine) {s : String} (hs : s ∈ d.lines) :
    Text.IsOneLine s := by
  unfold CatalogDiff.lines at hs
  rcases List.mem_append.mp hs with hs | hs
  · unfold streamLines at hs
    split at hs
    · cases hs
    · simp only [List.mem_cons, List.mem_append, List.mem_map] at hs
      -- the header, then a line for each added and each removed stream
      rcases hs with rfl | ⟨t, ht, rfl⟩ | ⟨t, ht, rfl⟩
      · simp only [Text.isOneLine_append, Text.isOneLine_toString]
        decide
      · exact isOneLine_streamLine (by decide) (hd.streams ht)
      · exact isOneLine_streamLine (by decide) (hd.streams ht)
  · unfold fieldLines at hs
    split at hs
    · cases hs
    · simp only [List.mem_cons, List.mem_flatMap] at hs
      -- the header, then a block for each updated stream
      rcases hs with rfl | ⟨t, ht, hs⟩
      · simp only [Text.isOneLine_append, Text.isOneLine_toString]
        decide
      · exact isOneLine_block (hd.streams ht) hs

/-! ### Reading a summary -/

/-- The summary settles the outline: lines without a line feed are told apart, and read back. -/
theorem outline_eq_of_summary_eq {d e : CatalogDiff} (hd : d.IsOneLine) (he : e.IsOneLine)
    (h : d.summary = e.summary) : d.outline = e.outline := by
  have hlines : d.lines = e.lines :=
    Text.eq_of_join_lines (fun _ hs => hd.lines hs) (fun _ hs => he.lines hs) h
  rw [lines_eq_render, lines_eq_render] at hlines
  have hkinds : d.outline.lines = e.outline.lines :=
    List.map_injective_iff.mpr Line.render_injective hlines
  rw [← d.outline.ofLines_lines, hkinds, Outline.ofLines_lines]

/-- **A summary loses nothing**: it settles the names of the added streams, those of the removed
streams, and the updated streams with their field changes, each with how often it occurs. -/
theorem content_eq_of_summary_eq {d e : CatalogDiff} (hd : d.IsOneLine) (he : e.IsOneLine)
    (h : d.summary = e.summary) : d.content = e.content := by
  rw [← d.content_outline, outline_eq_of_summary_eq hd he h, content_outline]

/-- A difference whose names look like lines of a summary, or are empty. -/
def lookalikes : CatalogDiff where
  transforms :=
    [{ change := .update, stream := ⟨"", none⟩,
       fields :=
        [⟨.update, [""], false, none, none, none⟩,
          ⟨.add, ["    － x", "y"], false, none, none, none⟩] },
     { change := .update, stream := ⟨" • Streams (+1/-0)", some ""⟩, fields := [] },
     { change := .add, stream := ⟨"   • s", none⟩, fields := [] },
     { change := .remove, stream := ⟨"＋ s", some " • Fields (+0/~0/-0)"⟩, fields := [] }]

theorem isOneLine_lookalikes : lookalikes.IsOneLine := by
  intro t ht
  simp only [lookalikes, List.mem_cons, List.not_mem_nil, or_false] at ht
  rcases ht with rfl | rfl | rfl | rfl
  all_goals exact ⟨by decide, by decide, by decide⟩

theorem IsOneLine.backwards {d : CatalogDiff} (h : d.IsOneLine) : d.backwards.IsOneLine := by
  intro t ht
  obtain ⟨u, hu, rfl⟩ := List.mem_map.mp ht
  have hu' : u.IsOneLine := h u (List.mem_reverse.mp hu)
  exact ⟨hu'.name, hu'.space, fun f hf => hu'.fields f (List.mem_reverse.mp hf)⟩

theorem content_eq_of_summary_eq_lookalikes :
    lookalikes.IsOneLine ∧ lookalikes.backwards.IsOneLine
      ∧ lookalikes.summary = lookalikes.backwards.summary
      ∧ lookalikes.content = lookalikes.backwards.content := by
  have hshuffles : lookalikes.Shuffles lookalikes.backwards := shuffles_backwards lookalikes
  have hsummary := summary_eq_of_content_eq hshuffles.content_eq
  refine ⟨isOneLine_lookalikes, isOneLine_lookalikes.backwards, hsummary, ?_⟩
  exact content_eq_of_summary_eq isOneLine_lookalikes isOneLine_lookalikes.backwards hsummary

end CatalogDiff

end JobHerald
