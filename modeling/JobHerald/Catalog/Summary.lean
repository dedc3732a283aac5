import JobHerald.Catalog.Basic
import JobHerald.Text.Digits

/-!
# Summaries of catalog differences

A summary has one line for each added and removed stream, and a block of lines for
each updated stream.  Lines are ordered by sort keys, names by code point, so that
the order of the difference does not matter.

## Main definitions

* `FieldTransform.sortKey`, `StreamTransform.sortKey` — the keys.
* `CatalogDiff.streams` — the streams that changed in one way, sorted.
* `CatalogDiff.lines`, `CatalogDiff.summary` — the lines, and the text.
-/

namespace JobHerald

/-! ### Signs -/

/-- The sign of something added. -/
def addSign : String := "＋"

/-- The sign of something removed. -/
def removeSign : String := "－"

/-- The sign of something updated. -/
def updateSign : String := "～"

/-- The sign in front of headers and updated streams. -/
def bullet : String := "•"

/-- The sign of a field change. -/
def FieldChange.sign : FieldChange → String
  | add => addSign
  | remove => removeSign
  | update => updateSign

/-! ### Sort keys -/

/-- Additions come first, then removals, then updates. -/
def FieldChange.rank : FieldChange → Nat
  | add => 0
  | remove => 1
  | update => 2

/-- The sort key of a field change. -/
abbrev FieldKey := Nat × String

/-- A field change is sorted by kind, then by path. -/
def FieldTransform.sortKey (f : FieldTransform) : FieldKey := (f.change.rank, f.path)

/-- The order of two field keys. -/
def compareFieldKeys (a b : FieldKey) : Ordering :=
  (compare a.1 b.1).then (compare a.2 b.2)

/-- The order of two lists of field keys: item by item, a shorter list first. -/
def compareKeyLists : List FieldKey → List FieldKey → Ordering
  | [], [] => .eq
  | [], _ :: _ => .lt
  | _ :: _, [] => .gt
  | a :: as, b :: bs => (compareFieldKeys a b).then (compareKeyLists as bs)

/-- Field keys in order. -/
def sortFieldKeys (keys : List FieldKey) : List FieldKey :=
  keys.mergeSort fun a b => (compareFieldKeys a b).isLE

/-- Field changes in the order of their keys. -/
def sortFields (fields : List FieldTransform) : List FieldTransform :=
  fields.mergeSort fun a b => (compareFieldKeys a.sortKey b.sortKey).isLE

/-- A stream is sorted by qualified name, then by the sorted keys of its fields. -/
def StreamTransform.sortKey (t : StreamTransform) : String × List FieldKey :=
  (t.stream.qualifiedName, sortFieldKeys (t.fields.map FieldTransform.sortKey))

/-- The order of two streams. -/
def compareStreams (a b : StreamTransform) : Ordering :=
  (compare a.sortKey.1 b.sortKey.1).then (compareKeyLists a.sortKey.2 b.sortKey.2)

namespace CatalogDiff

/-- The streams that changed in one way, in order. -/
def streams (d : CatalogDiff) (change : StreamChange) : List StreamTransform :=
  (d.transforms.filter (·.change = change)).mergeSort fun a b => (compareStreams a b).isLE

/-! ### Lines -/

/-- A line with the name of an added or removed stream. -/
def streamLine (sign : String) (t : StreamTransform) : String :=
  "   " ++ sign ++ " " ++ t.stream.qualifiedName

/-- The line of a field change. -/
def fieldLine (f : FieldTransform) : String := "     " ++ f.change.sign ++ " " ++ f.path

/-- The block of an updated stream. -/
def block (t : StreamTransform) : List String :=
  streamLine bullet t :: (sortFields t.fields).map fieldLine

/-- How many field changes of a kind there are. -/
def countOf (change : FieldChange) (streams : List StreamTransform) : Nat :=
  (streams.flatMap (·.fields)).countP (·.change = change)

/-- The lines about added and removed streams. -/
def streamLines (added removed : List StreamTransform) : List String :=
  if added.isEmpty && removed.isEmpty then []
  else
    (" " ++ bullet ++ " Streams (+" ++ toString added.length ++ "/-" ++ toString removed.length
      ++ ")") :: (added.map (streamLine addSign) ++ removed.map (streamLine removeSign))

/-- The lines about updated streams. -/
def fieldLines (updated : List StreamTransform) : List String :=
  if updated.isEmpty then []
  else
    (" " ++ bullet ++ " Fields (+" ++ toString (countOf .add updated) ++ "/~"
      ++ toString (countOf .update updated) ++ "/-" ++ toString (countOf .remove updated)
      ++ ")") :: updated.flatMap block

/-- The lines of a summary. -/
def lines (d : CatalogDiff) : List String :=
  streamLines (d.streams .add) (d.streams .remove) ++ fieldLines (d.streams .update)

/-- The summary: every line ends with a line feed. -/
def summary (d : CatalogDiff) : String := String.join (d.lines.map (· ++ "\n"))

end CatalogDiff

end JobHerald
