import JobHerald.Validation.Record

/-!
# Catalog differences

A catalog describes the streams of a source.  The difference of two catalogs lists
the streams that were added, removed or updated, and for an updated stream the
changes of its fields.

## Main definitions

* `StreamDescriptor`, `FieldTransform`, `StreamTransform`, `CatalogDiff` — the records.
* `StreamDescriptor.qualifiedName`, `FieldTransform.path` — names for people.
-/

namespace JobHerald

/-! ### Kinds of change -/

/-- How a stream changed. -/
inductive StreamChange where
  /-- It was added. -/
  | add
  /-- It was removed. -/
  | remove
  /-- Its fields changed. -/
  | update
  deriving DecidableEq, Repr, Inhabited

instance : Vocabulary StreamChange where
  name := "StreamTransformType"
  all := [.add, .remove, .update]
  word
    | .add => "add_stream"
    | .remove => "remove_stream"
    | .update => "update_stream"

/-- How a field changed. -/
inductive FieldChange where
  /-- It was added. -/
  | add
  /-- It was removed. -/
  | remove
  /-- Its type changed. -/
  | update
  deriving DecidableEq, Repr, Inhabited

instance : Vocabulary FieldChange where
  name := "FieldTransformType"
  all := [.add, .remove, .update]
  word
    | .add => "add_field"
    | .remove => "remove_field"
    | .update => "update_field_schema"

/-! ### Records -/

/-- A stream, by name and name space. -/
structure StreamDescriptor where
  /-- The name. -/
  name : String
  /-- The name space. -/
  space : Option String
  deriving DecidableEq, Repr

/-- The name behind its name space; an empty name space counts as none. -/
def StreamDescriptor.qualifiedName (d : StreamDescriptor) : String :=
  match d.space with
  | some space => if space = "" then d.name else space ++ "." ++ d.name
  | none => d.name

instance : Record StreamDescriptor where
  name := "StreamDescriptor"
  frozen := true
  derived := ["fully_qualified_name"]
  read := Read.object fun fs =>
    StreamDescriptor.mk
      <$> Read.required "name" Read.text fs
      <*> Read.optional "namespace" (Read.nullable Read.text) none fs
  members d := [("name", .str d.name), ("namespace", .ofOption d.space)]

/-- The change of one field of an updated stream. -/
structure FieldTransform where
  /-- How it changed. -/
  change : FieldChange
  /-- The names on the way from the stream to the field. -/
  names : List String
  /-- Whether consumers can break. -/
  breaking : Bool
  /-- The schema of an added or removed field. -/
  schema : Option Fields
  /-- The schema before an update. -/
  oldSchema : Option Fields
  /-- The schema after an update. -/
  newSchema : Option Fields

/-- The names on the way to the field, with dots between them. -/
def FieldTransform.path (f : FieldTransform) : String := Text.joined "." f.names

/-- The schema of a field, under either of its two names. -/
def readSchema (fs : Fields) : Checked (Option Fields) :=
  if Fields.has "schema" fs then Read.optional "schema" (Read.nullable Read.table) none fs
  else Read.optional "schema_" (Read.nullable Read.table) none fs

instance : Record FieldTransform where
  name := "FieldTransform"
  frozen := true
  derived := ["field_path"]
  read := Read.object fun fs =>
    FieldTransform.mk
      <$> Read.required "transform_type" Read.word fs
      <*> Read.required "field_name" (Read.nonempty Read.text) fs
      <*> Read.optional "breaking" Read.flag false fs
      <*> readSchema fs
      <*> Read.optional "old_schema" (Read.nullable Read.table) none fs
      <*> Read.optional "new_schema" (Read.nullable Read.table) none fs
  members f :=
    [("transform_type", .str (Vocabulary.word f.change)),
      ("field_name", .arr (f.names.map .str)), ("breaking", .bool f.breaking),
      ("schema", .orNull .obj f.schema), ("old_schema", .orNull .obj f.oldSchema),
      ("new_schema", .orNull .obj f.newSchema)]

/-- The change of one stream. -/
structure StreamTransform where
  /-- How it changed. -/
  change : StreamChange
  /-- The stream. -/
  stream : StreamDescriptor
  /-- The changes of its fields, which only count for an updated stream. -/
  fields : List FieldTransform

instance : Record StreamTransform where
  name := "StreamTransform"
  frozen := true
  derived := []
  read := Read.object fun fs =>
    StreamTransform.mk
      <$> Read.required "transform_type" Read.word fs
      <*> Read.required "stream_descriptor" Record.read fs
      <*> Read.optional "update_stream" (Read.list Record.read) [] fs
  members t :=
    [("transform_type", .str (Vocabulary.word t.change)),
      ("stream_descriptor", Record.toJson t.stream),
      ("update_stream", .arr (t.fields.map Record.toJson))]

/-- The difference of two catalogs. -/
structure CatalogDiff where
  /-- The changes of streams. -/
  transforms : List StreamTransform

instance : Record CatalogDiff where
  name := "CatalogDiff"
  frozen := true
  derived := []
  read := Read.object fun fs =>
    CatalogDiff.mk <$> Read.optional "transforms" (Read.list Record.read) [] fs
  members d := [("transforms", .arr (d.transforms.map Record.toJson))]

end JobHerald
