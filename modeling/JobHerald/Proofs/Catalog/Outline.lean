import Mathlib.Data.Multiset.MapFold
import JobHerald.Catalog.Summary

/-!
# Outlines of catalog differences

A summary tells the names of the added and removed streams, and the name of each updated
stream with the kinds and paths of its field changes.  As multisets these things are the
content of a difference; sorted they are its outline.  Items with the same sort key tell the
same, so the outline is settled by the content, however many ties there are.

## Main definitions

* `CatalogDiff.Content`, `CatalogDiff.content` — what a summary tells, in no order.
* `CatalogDiff.Outline`, `CatalogDiff.outline` — the same, sorted.
* `CatalogDiff.Line`, `CatalogDiff.Outline.lines` — lines by kind, and those of an outline.
* `CatalogDiff.Shuffles` — a difference with everything in another order.

## Main results

* `CatalogDiff.outline_eq_of_content_eq` — **the content settles the outline.**
* `CatalogDiff.lines_eq_render` — the lines of a summary are those of the outline.
* `CatalogDiff.summary_eq_of_shuffles` — **the order of a difference does not matter.**
-/

namespace JobHerald

/-! ### Orders of keys -/

section Orders

variable {κ : Type} {cmp : κ → κ → Ordering}

/-- Items sorted by their keys are in the order of their keys. -/
theorem pairwise_mergeSort_key {α : Type} [Std.TransCmp cmp] (key : α → κ) (l : List α) :
    (l.mergeSort fun a b => (cmp (key a) (key b)).isLE).Pairwise
      fun a b => (cmp (key a) (key b)).isLE = true := by
  refine List.pairwise_mergeSort (fun a b c => Std.TransCmp.isLE_trans) (fun a b => ?_) l
  have hswap : cmp (key a) (key b) = (cmp (key b) (key a)).swap := Std.OrientedCmp.eq_swap
  rw [hswap]
  cases cmp (key b) (key a) <;> rfl

/-- Sorting forgets the order, if only equal keys are tied. -/
theorem mergeSort_eq_of_perm [Std.TransCmp cmp] [Std.LawfulEqCmp cmp] {l m : List κ}
    (h : l.Perm m) :
    (l.mergeSort fun a b => (cmp a b).isLE) = m.mergeSort fun a b => (cmp a b).isLE := by
  have hperm : (l.mergeSort fun a b => (cmp a b).isLE).Perm
      (m.mergeSort fun a b => (cmp a b).isLE) :=
    (l.mergeSort_perm _).trans (h.trans (m.mergeSort_perm _).symm)
  refine hperm.eq_of_pairwise (fun a b _ _ hab hba => ?_) (pairwise_mergeSort_key id l)
    (pairwise_mergeSort_key id m)
  exact Std.LawfulEqCmp.eq_of_compare (Std.OrientedCmp.isLE_antisymm hab hba)

end Orders

instance : Std.TransCmp compareFieldKeys :=
  inferInstanceAs (Std.TransCmp (compareLex (compareOn Prod.fst) (compareOn Prod.snd)))

instance : Std.LawfulEqCmp compareFieldKeys where
  eq_of_compare {a b} h := by
    obtain ⟨h₁, h₂⟩ := Ordering.then_eq_eq.mp h
    exact Prod.ext (Std.LawfulEqCmp.eq_of_compare h₁) (Std.LawfulEqCmp.eq_of_compare h₂)

/-- Lists of keys are in lexicographic order: the shorter one comes first if it begins the other. -/
theorem compareKeyLists_eq : compareKeyLists = List.compareLex compareFieldKeys := by
  funext as bs
  induction as generalizing bs with
  | nil => cases bs <;> rfl
  | cons a as ih =>
    cases bs with
    | nil => rfl
    | cons b bs => rw [compareKeyLists, List.compareLex_cons_cons, ih]

instance : Std.TransCmp compareKeyLists := by
  rw [compareKeyLists_eq]
  infer_instance

instance : Std.LawfulEqCmp compareKeyLists := by
  rw [compareKeyLists_eq]
  infer_instance

/-- The order of the sort keys of streams. -/
def compareStreamKeys (a b : String × List FieldKey) : Ordering :=
  (compare a.1 b.1).then (compareKeyLists a.2 b.2)

theorem compareStreams_eq (a b : StreamTransform) :
    compareStreams a b = compareStreamKeys a.sortKey b.sortKey := rfl

instance : Std.TransCmp compareStreamKeys := by
  have hswap : ∀ k l, compareKeyLists k l = (compareKeyLists l k).swap :=
    fun k l => Std.OrientedCmp.eq_swap
  have htrans : ∀ {k l m}, (compareKeyLists k l).isLE → (compareKeyLists l m).isLE →
      (compareKeyLists k m).isLE := fun hkl hlm => Std.TransCmp.isLE_trans hkl hlm
  have hlists : Std.TransCmp fun a b : String × List FieldKey => compareKeyLists a.2 b.2 :=
    { eq_swap := hswap _ _, isLE_trans := htrans }
  exact inferInstanceAs (Std.TransCmp (compareLex (compareOn Prod.fst) _))

instance : Std.LawfulEqCmp compareStreamKeys where
  eq_of_compare {a b} h := by
    obtain ⟨h₁, h₂⟩ := Ordering.then_eq_eq.mp h
    exact Prod.ext (Std.LawfulEqCmp.eq_of_compare h₁) (Std.LawfulEqCmp.eq_of_compare h₂)

/-! ### What a summary tells -/

/-- What a summary tells of a field change: its kind and its path. -/
abbrev FieldEntry := FieldChange × String

/-- The sort key of what is told of a field change. -/
def FieldEntry.key (e : FieldEntry) : FieldKey := (e.1.rank, e.2)

theorem FieldChange.rank_injective : Function.Injective FieldChange.rank := by
  intro a b h
  cases a <;> cases b <;> simp [rank] at h ⊢

/-- Field changes with the same sort key tell the same. -/
theorem FieldEntry.key_injective : Function.Injective FieldEntry.key := by
  rintro ⟨a, p⟩ ⟨b, q⟩ h
  obtain ⟨hrank, hpath⟩ := Prod.mk.inj h
  exact Prod.ext (FieldChange.rank_injective hrank) hpath

/-- What a summary tells of a field change. -/
def FieldTransform.entry (f : FieldTransform) : FieldEntry := (f.change, f.path)

/-- The name of a stream that a summary tells. -/
def StreamTransform.title (t : StreamTransform) : String := t.stream.qualifiedName

/-- What a summary tells of the field changes of a stream, in order. -/
def StreamTransform.entries (t : StreamTransform) : List FieldEntry :=
  (sortFields t.fields).map FieldTransform.entry

theorem sortFieldKeys_eq_of_perm {l m : List FieldKey} (h : l.Perm m) :
    sortFieldKeys l = sortFieldKeys m :=
  mergeSort_eq_of_perm h

theorem sortFields_perm (fields : List FieldTransform) : (sortFields fields).Perm fields :=
  fields.mergeSort_perm _

/-- The sort key of a stream is made of what is told of it. -/
theorem StreamTransform.sortKey_eq (t : StreamTransform) :
    t.sortKey = (t.title, t.entries.map FieldEntry.key) := by
  have hsort : (sortFields t.fields).map FieldTransform.sortKey
      = sortFieldKeys (t.fields.map FieldTransform.sortKey) :=
    List.map_mergeSort fun _ _ _ _ => rfl
  rw [sortKey, ← hsort, entries, List.map_map]
  rfl

namespace CatalogDiff

/-- What a summary tells, in no order: the names of the added and of the removed streams, and
each updated stream with its field changes. -/
structure Content where
  /-- The names of the added streams. -/
  added : Multiset String
  /-- The names of the removed streams. -/
  removed : Multiset String
  /-- The updated streams. -/
  updated : Multiset (String × Multiset FieldEntry)

/-- The streams that changed in one way. -/
def changed (d : CatalogDiff) (change : StreamChange) : List StreamTransform :=
  d.transforms.filter (·.change = change)

/-- What a summary tells of an updated stream, its field changes in no order. -/
def streamContent (t : StreamTransform) : String × Multiset FieldEntry :=
  (t.title, Multiset.ofList (t.fields.map FieldTransform.entry))

/-- What the summary of a difference has to tell. -/
def content (d : CatalogDiff) : Content where
  added := Multiset.ofList ((d.changed .add).map (·.title))
  removed := Multiset.ofList ((d.changed .remove).map (·.title))
  updated := Multiset.ofList ((d.changed .update).map streamContent)

/-- What a summary tells, in order. -/
structure Outline where
  /-- The names of the added streams. -/
  added : List String
  /-- The names of the removed streams. -/
  removed : List String
  /-- The updated streams. -/
  updated : List (String × List FieldEntry)

/-- The content of an outline. -/
def Outline.content (o : Outline) : Content where
  added := Multiset.ofList o.added
  removed := Multiset.ofList o.removed
  updated := Multiset.ofList (o.updated.map fun b => (b.1, Multiset.ofList b.2))

/-- The outline of a difference. -/
def outline (d : CatalogDiff) : Outline where
  added := (d.streams .add).map (·.title)
  removed := (d.streams .remove).map (·.title)
  updated := (d.streams .update).map fun t => (t.title, t.entries)

theorem streams_perm (d : CatalogDiff) (change : StreamChange) :
    (d.streams change).Perm (d.changed change) :=
  List.mergeSort_perm _ _

/-- An outline has the content of the difference: sorting the streams, and the fields in them, loses
nothing. -/
theorem content_outline (d : CatalogDiff) : d.outline.content = d.content := by
  -- the added and the removed streams are only named
  have hnames : ∀ change, Multiset.ofList ((d.streams change).map (·.title))
      = Multiset.ofList ((d.changed change).map (·.title)) := fun change =>
    Multiset.coe_eq_coe.mpr ((d.streams_perm change).map _)
  -- of an updated stream the fields are sorted too
  have hentries : ∀ t : StreamTransform,
      ((t.title, Multiset.ofList t.entries) : String × Multiset FieldEntry) = streamContent t := by
    intro t
    have hperm : t.entries.Perm (t.fields.map FieldTransform.entry) :=
      (sortFields_perm t.fields).map _
    rw [Multiset.coe_eq_coe.mpr hperm, streamContent]
  have hupdated : (d.streams .update).map
      (fun t => ((t.title, Multiset.ofList t.entries) : String × Multiset FieldEntry))
      = (d.streams .update).map streamContent :=
    List.map_congr_left fun t _ => hentries t
  rw [Outline.content, content, outline]
  simp only [hnames, List.map_map, Function.comp_def, hupdated]
  rw [Multiset.coe_eq_coe.mpr ((d.streams_perm .update).map streamContent)]

/-! ### The content settles the outline -/

/-- The streams that changed in one way come in the order of their sort keys. -/
theorem streams_sorted (d : CatalogDiff) (change : StreamChange) :
    (d.streams change).Pairwise fun t u => (compareStreams t u).isLE = true := by
  simp only [compareStreams_eq]
  exact pairwise_mergeSort_key StreamTransform.sortKey _

/-- The names of streams come in order, since their sort keys begin with them. -/
theorem titles_sorted (d : CatalogDiff) (change : StreamChange) :
    ((d.streams change).map (·.title)).Pairwise fun a b => (compare a b).isLE = true := by
  rw [List.pairwise_map]
  exact (d.streams_sorted change).imp fun h => (Ordering.isLE_then_iff_and.mp h).1

theorem titles_eq_of_perm {d e : CatalogDiff} {change : StreamChange}
    (h : ((d.changed change).map (·.title)).Perm ((e.changed change).map (·.title))) :
    (d.streams change).map (·.title) = (e.streams change).map (·.title) := by
  have hd := (d.streams_perm change).map (·.title)
  have he := (e.streams_perm change).map (·.title)
  refine (hd.trans (h.trans he.symm)).eq_of_pairwise (fun a b _ _ hab hba => ?_)
    (d.titles_sorted change) (e.titles_sorted change)
  exact Std.LawfulEqCmp.eq_of_compare (Std.OrientedCmp.isLE_antisymm hab hba)

/-- The sort key of a stream, from what is told of it in no order. -/
def keyOf (b : String × Multiset FieldEntry) : String × List FieldKey :=
  (b.1, Quot.liftOn b.2 (fun l => sortFieldKeys (l.map FieldEntry.key)) fun _ _ h =>
    sortFieldKeys_eq_of_perm (h.map FieldEntry.key))

theorem keyOf_streamContent (t : StreamTransform) : keyOf (streamContent t) = t.sortKey := by
  have hkeys : (t.fields.map FieldTransform.entry).map FieldEntry.key
      = t.fields.map FieldTransform.sortKey := by
    rw [List.map_map]
    rfl
  rw [StreamTransform.sortKey, ← hkeys]
  rfl

/-- Streams that tell the same have the same sort keys, and are sorted alike. -/
theorem sortKeys_eq_of_perm {d e : CatalogDiff} {change : StreamChange}
    (h : ((d.changed change).map streamContent).Perm ((e.changed change).map streamContent)) :
    (d.streams change).map (·.sortKey) = (e.streams change).map (·.sortKey) := by
  -- sorting the streams sorts their keys
  have hkeys : ∀ d : CatalogDiff, (d.streams change).map (·.sortKey)
      = ((d.changed change).map (·.sortKey)).mergeSort fun a b => (compareStreamKeys a b).isLE :=
    fun d => List.map_mergeSort fun t _ u _ => by rw [compareStreams_eq]
  -- the keys depend on what the streams tell, and on nothing else
  have hcontent : ∀ d : CatalogDiff, (d.changed change).map (·.sortKey)
      = ((d.changed change).map streamContent).map keyOf := by
    intro d
    rw [List.map_map]
    exact List.map_congr_left fun t _ => (keyOf_streamContent t).symm
  rw [hkeys d, hkeys e, hcontent d, hcontent e]
  exact mergeSort_eq_of_perm (h.map keyOf)

/-- Streams with the same sort keys, one by one, tell the same in the same order. -/
theorem entries_eq_of_sortKeys {ts us : List StreamTransform}
    (h : ts.map (·.sortKey) = us.map (·.sortKey)) :
    (ts.map fun t => (t.title, t.entries)) = us.map fun t => (t.title, t.entries) := by
  have hsplit : ∀ ts : List StreamTransform, ts.map (·.sortKey)
      = (ts.map fun t => (t.title, t.entries)).map (Prod.map id (List.map FieldEntry.key)) := by
    intro ts
    rw [List.map_map]
    exact List.map_congr_left fun t _ => t.sortKey_eq
  -- a key leaves out nothing of what a stream tells
  have hinjective : Function.Injective
      (Prod.map (id : String → String) (List.map FieldEntry.key)) :=
    Function.injective_id.prodMap (List.map_injective_iff.mpr FieldEntry.key_injective)
  rw [hsplit ts, hsplit us] at h
  exact List.map_injective_iff.mpr hinjective h

/-- **The content settles the outline**: ties between sort keys are ties between items that
tell the same. -/
theorem outline_eq_of_content_eq {d e : CatalogDiff} (h : d.content = e.content) :
    d.outline = e.outline := by
  have hadded := Multiset.coe_eq_coe.mp (congrArg Content.added h)
  have hremoved := Multiset.coe_eq_coe.mp (congrArg Content.removed h)
  have hupdated := Multiset.coe_eq_coe.mp (congrArg Content.updated h)
  rw [outline, outline, titles_eq_of_perm hadded, titles_eq_of_perm hremoved,
    entries_eq_of_sortKeys (sortKeys_eq_of_perm hupdated)]

/-! ### Lines -/

/-- A line of a summary, by kind. -/
inductive Line where
  /-- The header of the added and removed streams, with their numbers. -/
  | streams (added removed : Nat)
  /-- An added stream. -/
  | added (name : String)
  /-- A removed stream. -/
  | removed (name : String)
  /-- The header of the updated streams, with the numbers of their field changes. -/
  | fields (added updated removed : Nat)
  /-- An updated stream. -/
  | updated (name : String)
  /-- A field change of the updated stream above it. -/
  | field (e : FieldEntry)

/-- The text of a line. -/
def Line.render : Line → String
  | streams a r => " " ++ bullet ++ " Streams (+" ++ toString a ++ "/-" ++ toString r ++ ")"
  | added name => "   " ++ addSign ++ " " ++ name
  | removed name => "   " ++ removeSign ++ " " ++ name
  | fields a u r =>
      " " ++ bullet ++ " Fields (+" ++ toString a ++ "/~" ++ toString u ++ "/-" ++ toString r
        ++ ")"
  | updated name => "   " ++ bullet ++ " " ++ name
  | field e => "     " ++ e.1.sign ++ " " ++ e.2

namespace Outline

/-- How many field changes of a kind there are. -/
def count (o : Outline) (change : FieldChange) : Nat :=
  (o.updated.flatMap (·.2)).countP (·.1 = change)

/-- The lines of an updated stream. -/
def blockLines (b : String × List FieldEntry) : List Line := .updated b.1 :: b.2.map .field

/-- The lines about added and removed streams. -/
def streamLines (o : Outline) : List Line :=
  if o.added.isEmpty && o.removed.isEmpty then []
  else
    .streams o.added.length o.removed.length :: (o.added.map .added ++ o.removed.map .removed)

/-- The lines about updated streams. -/
def fieldLines (o : Outline) : List Line :=
  if o.updated.isEmpty then []
  else
    .fields (o.count .add) (o.count .update) (o.count .remove) :: o.updated.flatMap blockLines

/-- The lines of an outline. -/
def lines (o : Outline) : List Line := o.streamLines ++ o.fieldLines

end Outline

theorem block_eq_render (t : StreamTransform) :
    block t = (Outline.blockLines (t.title, t.entries)).map Line.render := by
  rw [block, Outline.blockLines, List.map_cons, StreamTransform.entries, List.map_map, List.map_map]
  rfl

theorem countOf_eq_count (d : CatalogDiff) (change : FieldChange) :
    countOf change (d.streams .update) = d.outline.count change := by
  have hstream : ∀ t : StreamTransform, t.fields.countP (·.change = change)
      = t.entries.countP (·.1 = change) := by
    intro t
    rw [StreamTransform.entries, List.countP_map, (sortFields_perm t.fields).countP_eq]
    rfl
  rw [countOf, Outline.count, outline, List.countP_flatMap, List.countP_flatMap, List.map_map]
  exact congrArg List.sum (List.map_congr_left fun t _ => hstream t)

/-- The lines of a summary are those of the outline: what is written depends on the sorted
difference only. -/
theorem lines_eq_render (d : CatalogDiff) : d.lines = d.outline.lines.map Line.render := by
  have hstreams : streamLines (d.streams .add) (d.streams .remove)
      = d.outline.streamLines.map Line.render := by
    rw [streamLines, Outline.streamLines]
    simp only [outline, List.isEmpty_map, List.length_map]
    split
    · rfl
    · rw [List.map_cons, List.map_append, List.map_map, List.map_map, List.map_map, List.map_map]
      rfl
  have hfields : CatalogDiff.fieldLines (d.streams .update)
      = d.outline.fieldLines.map Line.render := by
    -- one block for each updated stream
    have hblocks : (d.streams .update).flatMap block
        = (d.outline.updated.flatMap Outline.blockLines).map Line.render := by
      rw [List.map_flatMap, outline, List.flatMap_map]
      exact List.flatMap_congr fun t _ => block_eq_render t
    rw [CatalogDiff.fieldLines, Outline.fieldLines, hblocks, countOf_eq_count, countOf_eq_count,
      countOf_eq_count]
    simp only [outline, List.isEmpty_map]
    split <;> rfl
  rw [lines, Outline.lines, List.map_append, hstreams, hfields]

/-- Differences with the same content have the same summary, since they have the same outline. -/
theorem summary_eq_of_content_eq {d e : CatalogDiff} (h : d.content = e.content) :
    d.summary = e.summary := by
  rw [summary, summary, lines_eq_render, lines_eq_render, outline_eq_of_content_eq h]

/-! ### Differences in another order -/

/-- A stream change with its field changes in another order. -/
structure StreamShuffles (t u : StreamTransform) : Prop where
  /-- The change is the same. -/
  change : u.change = t.change
  /-- The stream is the same. -/
  stream : u.stream = t.stream
  /-- The field changes are the same up to their order. -/
  fields : t.fields.Perm u.fields

/-- A difference with its stream changes in another order and, independently in each of them,
the field changes in another order. -/
def Shuffles (d e : CatalogDiff) : Prop :=
  ∃ ts, d.transforms.Perm ts ∧ List.Forall₂ StreamShuffles ts e.transforms

theorem StreamShuffles.streamContent_eq {t u : StreamTransform} (h : StreamShuffles t u) :
    streamContent t = streamContent u := by
  have hfields := Multiset.coe_eq_coe.mpr (h.fields.map FieldTransform.entry)
  rw [streamContent, streamContent, hfields, StreamTransform.title, StreamTransform.title, h.stream]

/-- The streams that changed in one way are shuffled among themselves. -/
theorem forall₂_changed {ts us : List StreamTransform} (h : List.Forall₂ StreamShuffles ts us)
    (change : StreamChange) :
    List.Forall₂ StreamShuffles (ts.filter (·.change = change))
      (us.filter (·.change = change)) := by
  induction h with
  | nil => exact .nil
  | @cons t u ts us htu _ ih =>
    -- shuffled streams changed in the same way: both are kept, or both are left out
    by_cases hchange : t.change = change
    · have hu : u.change = change := htu.change.trans hchange
      simp only [List.filter_cons, hchange, hu, decide_true, if_true]
      exact .cons htu ih
    · have hu : u.change ≠ change := fun hu => hchange (htu.change.symm.trans hu)
      simpa [List.filter_cons, hchange, hu] using ih

/-- A shuffled difference has the same content, wherever its streams and their fields have gone. -/
theorem Shuffles.content_eq {d e : CatalogDiff} (h : d.Shuffles e) : d.content = e.content := by
  obtain ⟨ts, hperm, hfields⟩ := h
  have hstreams : ∀ change, ((d.changed change).map streamContent).Perm
      ((e.changed change).map streamContent) := by
    intro change
    -- shuffling the fields of a stream leaves what it tells
    have hmap : ((ts.filter (·.change = change)).map streamContent)
        = (e.changed change).map streamContent := by
      rw [changed, ← List.forall₂_eq_eq_eq, List.forall₂_map_left_iff, List.forall₂_map_right_iff]
      exact (forall₂_changed hfields change).imp fun _ _ h => h.streamContent_eq
    -- moving the streams about leaves the collection
    rw [← hmap]
    exact (hperm.filter _).map _
  have htitles : ∀ change, ((d.changed change).map (·.title)).Perm
      ((e.changed change).map (·.title)) := by
    intro change
    have h := (hstreams change).map Prod.fst
    rw [List.map_map, List.map_map] at h
    exact h
  rw [content, content, Multiset.coe_eq_coe.mpr (htitles .add),
    Multiset.coe_eq_coe.mpr (htitles .remove), Multiset.coe_eq_coe.mpr (hstreams .update)]

/-- **The order of a difference does not matter**: a shuffled difference has the same summary,
whatever names and paths coincide. -/
theorem summary_eq_of_shuffles {d e : CatalogDiff} (h : d.Shuffles e) : d.summary = e.summary :=
  summary_eq_of_content_eq h.content_eq

/-- A difference full of ties: two updated streams share their full name and both share the
paths of their fields, and an added stream carries field changes. -/
def tied : CatalogDiff where
  transforms :=
    [{ change := .update, stream := ⟨"c", some "a.b"⟩,
       fields :=
        [⟨.remove, ["z"], false, none, none, none⟩, ⟨.add, ["x", "y"], true, none, none, none⟩] },
     { change := .update, stream := ⟨"b.c", some "a"⟩,
       fields :=
        [⟨.add, ["x.y"], false, none, none, none⟩, ⟨.add, ["x", "y"], false, none, none, none⟩] },
     { change := .add, stream := ⟨"s", none⟩,
       fields :=
        [⟨.update, ["u"], false, none, none, none⟩, ⟨.add, ["v"], false, none, none, none⟩] },
     { change := .add, stream := ⟨"s", some ""⟩, fields := [] }]

/-- A difference backwards, with the field changes of every stream backwards. -/
def backwards (d : CatalogDiff) : CatalogDiff where
  transforms := d.transforms.reverse.map fun t => { t with fields := t.fields.reverse }

theorem shuffles_backwards (d : CatalogDiff) : d.Shuffles d.backwards := by
  refine ⟨d.transforms.reverse, d.transforms.reverse_perm.symm, ?_⟩
  rw [backwards, List.forall₂_map_right_iff]
  exact List.forall₂_same.mpr fun t _ => ⟨rfl, rfl, t.fields.reverse_perm.symm⟩

theorem summary_eq_of_shuffles_tied :
    tied.Shuffles tied.backwards ∧ tied.summary = tied.backwards.summary :=
  ⟨shuffles_backwards tied, summary_eq_of_shuffles (shuffles_backwards tied)⟩

end CatalogDiff

end JobHerald
