import JobHerald.Validation.Scalar

/-!
# Vocabularies and records

A vocabulary is a finite type whose values are written as words.  A record is a
type whose values are read from objects: its members are read one by one, members
of other names are ignored, and every issue is kept.

## Main definitions

* `Vocabulary`, `Vocabulary.ofWord?` — words of a finite type.
* `Record` — how a record is read, and the members it is written with.
* `Read.required`, `Read.optional` — the readers of members.
* `Read.word`, `Read.list`, `Read.tagged` — readers of words, lists and tables.
* `Record.assign` — what becomes of a record's members when one is set.
-/

namespace JobHerald

/-! ### Vocabularies -/

/-- A finite type whose values are written as words. -/
class Vocabulary (α : Type) where
  /-- The name of the vocabulary. -/
  name : String
  /-- All values. -/
  all : List α
  /-- The word of a value. -/
  word : α → String

/-- The value with a given word. -/
def Vocabulary.ofWord? {α : Type} [Vocabulary α] (w : String) : Option α :=
  (Vocabulary.all (α := α)).find? fun a => Vocabulary.word a == w

/-- The word of a value, as a value. -/
def Vocabulary.toJson {α : Type} [Vocabulary α] (a : α) : Json := .str (Vocabulary.word a)

/-! ### Records -/

/-- A type of records. -/
class Record (α : Type) where
  /-- The name of the record. -/
  name : String
  /-- Whether the members are fixed once the record is made. -/
  frozen : Bool
  /-- The names that are computed from the members. -/
  derived : List String
  /-- The members that are integers, where a truth value counts as a number. -/
  integers : List String := []
  /-- The reader of a value. -/
  read : Reader α
  /-- The members a value is written with. -/
  members : α → Fields

namespace Record

variable {α : Type}

/-- A record as a value. -/
def toJson [Record α] (a : α) : Json := .obj (members a)

/-- A record read from a value, or all its issues. -/
def ofJson [Record α] (v : Json) : Except Rejection α :=
  match read (α := α) v with
  | .valid a => .ok a
  | .invalid issues => .error ⟨name α, issues⟩

/-- Why a member cannot be set. -/
inductive AssignFault where
  /-- The record is frozen. -/
  | frozen (member : String) (value : Json)
  /-- The name is computed from the members. -/
  | derived (member : String)
  /-- The record has no such member. -/
  | unknown (member : String)
  /-- The name is kept by the runtime. -/
  | kept (member : String)
  /-- The value is no kind of records. -/
  | kind (value : Json)
  /-- The value is no table of members. -/
  | members (value : Json)
  /-- The value stands where the writer of the record is looked for, and is none. -/
  | writer (value : Json)

/-- Whether the record cannot be written after the fault. -/
def AssignFault.isLasting : AssignFault → Bool
  | writer _ => true
  | _ => false

/-- The names beginning with an underscore that are computed for every record. -/
def computedNames : List String := ["__fields__", "__fields_set__"]

/-- The other names that are computed for every record. -/
def commonNames : List String := ["model_extra", "model_fields_set"]

/-- A value as the member of a name: a truth value counts as a number in a member that
is an integer. -/
def shown [Record α] (member : String) (value : Json) : Json :=
  match value with
  | .bool b => if (integers α).contains member then .int (if b then 1 else 0) else .bool b
  | v => v

/-- The members after a name that begins with an underscore is set.  Most such names
belong to no record and are ignored. -/
def assignHidden [Record α] (a : α) (member : String) (value : Json) :
    Except AssignFault Fields :=
  if member = "__pydantic_serializer__" then .error (.writer value)
  else if computedNames.contains member then .error (.derived member)
  else if member = "__weakref__" then .error (.kept member)
  else if member = "__class__" then .error (.kind value)
  else if member = "__dict__" then
    match value with
    | .obj fs =>
        .ok ((fs.filter fun (k, _) => Fields.has k (members a)).map fun (k, v) =>
          (k, shown (α := α) k v))
    | v => .error (.members v)
  else .ok (members a)

/-- The members after one of them is set.  The value is taken as it is. -/
def assign [Record α] (a : α) (member : String) (value : Json) : Except AssignFault Fields :=
  if Text.startsWith member "_" then assignHidden a member value
  else if frozen α then .error (.frozen member value)
  else if (derived α ++ commonNames).contains member then .error (.derived member)
  else if Fields.has member (members a) then
    .ok (Fields.insert member (shown (α := α) member value) (members a))
  else .error (.unknown member)

end Record

/-! ### Readers of members -/

namespace Read

variable {α : Type}

/-- The object that a record is read from. -/
def object (r : Fields → Checked α) : Reader α
  | .obj members => r members
  | v => .fault .recordType v

/-- A member that must be there. -/
def required (name : String) (r : Reader α) (fs : Fields) : Checked α :=
  match Fields.get? name fs with
  | some v => (r v).inside name
  | none => .invalid [⟨[name], .missing, .obj fs⟩]

/-- A member with a default. -/
def optional (name : String) (r : Reader α) (default : α) (fs : Fields) : Checked α :=
  match Fields.get? name fs with
  | some v => (r v).inside name
  | none => .valid default

/-! ### Readers of compound values -/

/-- A word of a vocabulary. -/
def word [Vocabulary α] : Reader α
  | .str s =>
      match Vocabulary.ofWord? s with
      | some a => .valid a
      | none => .fault .word (.str s)
  | v => .fault .word v

/-- Items with their positions. -/
def items (r : Reader α) : Nat → List Json → List (Checked α)
  | _, [] => []
  | i, v :: rest => (r v).inside (toString i) :: items r (i + 1) rest

/-- A list. -/
def list (r : Reader α) : Reader (List α)
  | .arr vs => .traverse (items r 0 vs)
  | v => .fault .listType v

/-- A list that is not empty. -/
def nonempty (r : Reader α) (v : Json) : Checked (List α) :=
  (list r v).andThen fun as => if as.isEmpty then .fault .tooShort v else .valid as

/-- An object whose members are free. -/
def table : Reader Fields
  | .obj members => .valid members
  | v => .fault .objectType v

/-- The members of a table whose names are words of a vocabulary. -/
def taggedMembers {β : Type} [Vocabulary α] (r : Reader β) : Fields → Checked (List (α × β))
  | [] => .valid []
  | (k, v) :: rest =>
      let tag : Checked α := ((word (.str k)).inside "[key]").inside k
      Checked.ap (Checked.ap (Checked.map (fun a b => List.cons (a, b)) tag) ((r v).inside k))
        (taggedMembers r rest)

/-- A table whose names are words of a vocabulary. -/
def tagged {β : Type} [Vocabulary α] (r : Reader β) : Reader (List (α × β))
  | .obj members => taggedMembers r members
  | v => .fault .objectType v

end Read

end JobHerald
