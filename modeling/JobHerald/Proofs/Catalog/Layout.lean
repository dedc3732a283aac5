import JobHerald.Proofs.Catalog.Outline

/-!
# The layout of summaries of catalog differences

A layout of a difference puts its streams and their field changes in order and says which
lines there are for them: a header with the numbers of added and removed streams, a line for
each of these, a header with the numbers of the field lines below it, and a block for each
updated stream.  It carries the proofs that nothing is lost, repeated or moved, and that all
is in order.  The summary of a difference is the text of such a layout.

## Main definitions

* `Arranged` — given items in order.
* `CatalogDiff.Block`, `CatalogDiff.Layout` — an updated stream, and a whole difference, in
  order.
* `CatalogDiff.Layout.lines` — the lines of a layout.

## Main results

* `CatalogDiff.lines_layout` — the lines of the layout are those of the outline.
* `CatalogDiff.exists_layout` — **a summary is the text of a layout**, and it is empty exactly
  for the empty difference.
-/

namespace JobHerald

/-! ### Items in order -/

/-- Comparing texts finds the order by code points, in which a text precedes its continuations. -/
theorem isLE_compare_iff (a b : String) : (compare a b).isLE = true ↔ a ≤ b :=
  isLE_compareOfLessAndEq String.le_antisymm String.not_le String.le_total

/-- Given items in order: each as often as it is given, and none behind one that it precedes. -/
structure Arranged {α : Type} (precedes : α → α → Prop) (items : List α) where
  /-- The items, in order. -/
  list : List α
  /-- They are the given ones. -/
  perm : list.Perm items
  /-- None of them is out of order. -/
  sorted : list.Pairwise precedes

/-- The name of a stream comes no later than that of another. -/
def StreamTransform.Precedes (t u : StreamTransform) : Prop := t.title ≤ u.title

/-- A field change comes no later than another: additions come first, then removals, then
updates, and changes of one kind go by their paths. -/
def FieldTransform.Precedes (f g : FieldTransform) : Prop :=
  f.change.rank < g.change.rank ∨ f.change = g.change ∧ f.path ≤ g.path

theorem StreamTransform.precedes_of_isLE {t u : StreamTransform}
    (h : (compareStreams t u).isLE = true) : t.Precedes u :=
  (isLE_compare_iff _ _).mp (Ordering.isLE_then_iff_and.mp h).1

theorem FieldTransform.precedes_of_isLE {f g : FieldTransform}
    (h : (compareFieldKeys f.sortKey g.sortKey).isLE = true) : f.Precedes g := by
  obtain ⟨hrank, hpath⟩ := Ordering.isLE_then_iff_and.mp h
  rcases Nat.lt_or_eq_of_le (Nat.isLE_compare.mp hrank) with hlt | heq
  · exact .inl hlt
  · refine .inr ⟨FieldChange.rank_injective heq, (isLE_compare_iff _ _).mp ?_⟩
    exact hpath.resolve_left (by simp [heq])

/-- The field changes of a stream in the order of a summary. -/
def arrangedFields (fields : List FieldTransform) :
    Arranged FieldTransform.Precedes fields where
  list := sortFields fields
  perm := sortFields_perm fields
  sorted := (pairwise_mergeSort_key FieldTransform.sortKey fields).imp
    FieldTransform.precedes_of_isLE

namespace CatalogDiff

/-- The streams that changed in one way in the order of a summary. -/
def arrangedStreams (d : CatalogDiff) (change : StreamChange) :
    Arranged StreamTransform.Precedes (d.changed change) where
  list := d.streams change
  perm := d.streams_perm change
  sorted := (d.streams_sorted change).imp StreamTransform.precedes_of_isLE

/-! ### Layouts -/

/-- An updated stream with its field changes in order. -/
structure Block where
  /-- The stream. -/
  stream : StreamTransform
  /-- Its field changes. -/
  fields : Arranged FieldTransform.Precedes stream.fields

/-- A difference in order: its added and its removed streams, and a block for each of its
updated streams. -/
structure Layout (d : CatalogDiff) where
  /-- The added streams. -/
  added : Arranged StreamTransform.Precedes (d.changed .add)
  /-- The removed streams. -/
  removed : Arranged StreamTransform.Precedes (d.changed .remove)
  /-- The updated streams. -/
  blocks : List Block
  /-- There is one block for each updated stream. -/
  perm : (blocks.map Block.stream).Perm (d.changed .update)
  /-- No block is out of order. -/
  sorted : (blocks.map Block.stream).Pairwise StreamTransform.Precedes

/-- A line tells a field change of the given kind. -/
def Line.isField (change : FieldChange) : Line → Bool
  | field e => e.1 = change
  | _ => false

/-- The lines of a block: the stream and each of its field changes. -/
def Block.lines (b : Block) : List Line :=
  .updated b.stream.title :: b.fields.list.map fun f => .field f.entry

namespace Layout

variable {d : CatalogDiff}

/-- The lines about added and removed streams, under a header with the numbers of both. -/
def streamLines (l : Layout d) : List Line :=
  let added := (d.changed .add).length
  let removed := (d.changed .remove).length
  if 0 < added + removed then
    .streams added removed ::
      ((l.added.list.map fun t => .added t.title) ++
        l.removed.list.map fun t => .removed t.title)
  else []

/-- The lines about updated streams, under a header that counts the field lines below it. -/
def fieldLines (l : Layout d) : List Line :=
  let below := l.blocks.flatMap Block.lines
  if 0 < (d.changed .update).length then
    .fields (below.countP (Line.isField .add)) (below.countP (Line.isField .update))
      (below.countP (Line.isField .remove)) :: below
  else []

/-- The lines of a layout. -/
def lines (l : Layout d) : List Line := l.streamLines ++ l.fieldLines

end Layout

/-! ### The layout of a summary -/

/-- The block of an updated stream. -/
def blockOf (t : StreamTransform) : Block := ⟨t, arrangedFields t.fields⟩

/-- The layout of a difference. -/
def layout (d : CatalogDiff) : Layout d where
  added := d.arrangedStreams .add
  removed := d.arrangedStreams .remove
  blocks := (d.streams .update).map blockOf
  perm := by
    rw [List.map_map]
    exact (List.map_id _).symm ▸ (d.arrangedStreams .update).perm
  sorted := by
    rw [List.map_map]
    exact (List.map_id _).symm ▸ (d.arrangedStreams .update).sorted

theorem lines_blockOf (t : StreamTransform) :
    (blockOf t).lines = Outline.blockLines (t.title, t.entries) := by
  rw [Block.lines, Outline.blockLines, StreamTransform.entries, List.map_map]
  rfl

/-- Counting the field lines of an outline counts its field changes. -/
theorem countP_isField (change : FieldChange) (blocks : List (String × List FieldEntry)) :
    (blocks.flatMap Outline.blockLines).countP (Line.isField change)
      = (blocks.flatMap (·.2)).countP (·.1 = change) := by
  rw [List.countP_flatMap, List.countP_flatMap]
  refine congrArg List.sum (List.map_congr_left fun b _ => ?_)
  rw [Function.comp_apply, Function.comp_apply, Outline.blockLines, List.countP_cons,
    List.countP_map]
  rfl

theorem length_changed (d : CatalogDiff) (change : StreamChange) :
    (d.changed change).length = (d.streams change).length :=
  (d.streams_perm change).length_eq.symm

theorem streamLines_layout (d : CatalogDiff) :
    d.layout.streamLines = d.outline.streamLines := by
  have hsome : 0 < (d.changed .add).length + (d.changed .remove).length
      ↔ ¬((d.streams .add).isEmpty && (d.streams .remove).isEmpty) = true := by
    simp only [length_changed, List.isEmpty_iff_length_eq_zero, Bool.and_eq_true]
    omega
  simp only [Layout.streamLines, hsome, ite_not]
  simp only [length_changed, Outline.streamLines, outline, List.length_map, List.isEmpty_map,
    List.map_map]
  rfl

theorem fieldLines_layout (d : CatalogDiff) : d.layout.fieldLines = d.outline.fieldLines := by
  -- the header stands if there is an updated stream, sorted or not
  have hsome : 0 < (d.changed .update).length ↔ ¬(d.streams .update).isEmpty = true := by
    simp only [length_changed, List.isEmpty_iff_length_eq_zero]
    omega
  -- the blocks below it come in the sorted order on both sides
  have hbelow : d.layout.blocks.flatMap Block.lines
      = d.outline.updated.flatMap Outline.blockLines := by
    rw [layout, outline, List.flatMap_map, List.flatMap_map]
    exact List.flatMap_congr fun t _ => lines_blockOf t
  have hempty : d.outline.updated.isEmpty = (d.streams .update).isEmpty := List.isEmpty_map
  simp only [Layout.fieldLines, Outline.fieldLines, hsome, ite_not, hbelow, hempty,
    countP_isField, Outline.count]

/-- The lines of the layout are those of the outline. -/
theorem lines_layout (d : CatalogDiff) : d.layout.lines = d.outline.lines := by
  rw [Layout.lines, Outline.lines, streamLines_layout, fieldLines_layout]

/-! ### The text of a layout -/

/-- Only the empty difference has no lines: whichever way a stream changed, there is a header
above it. -/
theorem lines_eq_nil_iff {d : CatalogDiff} (l : Layout d) : l.lines = [] ↔ d.transforms = [] := by
  constructor
  · intro h
    obtain ⟨hstreams, hfields⟩ := List.append_eq_nil_iff.mp h
    -- a change of any sort would have put up its header
    have hnone : ∀ change, d.changed change = [] := by
      have hboth : (d.changed .add).length + (d.changed .remove).length = 0 := by
        by_contra hpos
        rw [Layout.streamLines, if_pos (Nat.pos_of_ne_zero hpos)] at hstreams
        cases hstreams
      have hupdated : (d.changed .update).length = 0 := by
        by_contra hpos
        rw [Layout.fieldLines, if_pos (Nat.pos_of_ne_zero hpos)] at hfields
        cases hfields
      intro change
      cases change <;> exact List.eq_nil_of_length_eq_zero (by omega)
    refine List.eq_nil_iff_forall_not_mem.mpr fun t ht => ?_
    -- every stream is among those that changed as it did
    have hmem : t ∈ d.changed t.change := List.mem_filter.mpr ⟨ht, decide_eq_true rfl⟩
    rw [hnone t.change] at hmem
    cases hmem
  · intro h
    have hnone : ∀ change, d.changed change = [] := fun change => by rw [changed, h]; rfl
    simp only [Layout.lines, Layout.streamLines, Layout.fieldLines, hnone]
    rfl

/-- Only no lines make an empty text, since every line ends with a line feed. -/
theorem join_lines_eq_empty_iff (lines : List Line) :
    String.join (lines.map fun line => line.render ++ "\n") = "" ↔ lines = [] := by
  cases lines with
  | nil => exact iff_of_true rfl rfl
  | cons line rest => simp [String.append_eq_empty_iff]

theorem summary_eq_join (d : CatalogDiff) :
    d.summary = String.join (d.layout.lines.map fun line => line.render ++ "\n") := by
  rw [summary, lines_eq_render, lines_layout, List.map_map]
  rfl

/-- **A summary is the text of a layout**: its streams and its field changes are all there, in
order, under headers with their numbers, and every line ends with a line feed.  It is empty
exactly for the empty difference. -/
theorem exists_layout (d : CatalogDiff) :
    (∃ l : Layout d, d.summary = String.join (l.lines.map fun line => line.render ++ "\n"))
      ∧ (d.summary = "" ↔ d.transforms = []) := by
  refine ⟨⟨d.layout, d.summary_eq_join⟩, ?_⟩
  rw [summary_eq_join, join_lines_eq_empty_iff, lines_eq_nil_iff]

end CatalogDiff

end JobHerald
