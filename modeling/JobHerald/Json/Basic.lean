import JobHerald.Binary64.Basic

/-!
# JSON values

A JSON value with integers of any size beside doubles, and with objects as lists
of members, so that the order of the members is part of the value.

## Main definitions

* `Json`, `Fields` — values, and the members of an object.
* `Fields.get?`, `Fields.insert` — look-up, and replacement that keeps the place of
  a member that is there already.
* `Json.typeName`, `Json.size?` — the kind of a value, and its length if it has one.
-/

namespace JobHerald

/-- A JSON value. -/
inductive Json where
  /-- The value null. -/
  | null
  /-- A truth value. -/
  | bool (value : Bool)
  /-- An integer. -/
  | int (value : Int)
  /-- A number that is written with a fraction or an exponent. -/
  | real (value : Binary64)
  /-- A text. -/
  | str (value : String)
  /-- A list of values. -/
  | arr (items : List Json)
  /-- An object, with its members in order. -/
  | obj (members : List (String × Json))
  deriving Repr, Inhabited

/-- The members of an object, in order. -/
abbrev Fields := List (String × Json)

/-! ### Members -/

namespace Fields

/-- The value of the first member with the given name. -/
def get? (name : String) : Fields → Option Json
  | [] => none
  | (k, v) :: rest => if k = name then some v else get? name rest

/-- Whether there is a member with the given name. -/
def has (name : String) (fs : Fields) : Bool := (get? name fs).isSome

/-- Set a member: one that is there keeps its place, a new one comes last. -/
def insert (name : String) (value : Json) : Fields → Fields
  | [] => [(name, value)]
  | (k, v) :: rest => if k = name then (k, value) :: rest else (k, v) :: insert name value rest

/-- Set several members, one after the other. -/
def insertAll (fs new : Fields) : Fields :=
  new.foldl (fun acc (k, v) => insert k v acc) fs

/-- The members without the one of the given name. -/
def erase (name : String) (fs : Fields) : Fields := fs.filter fun m => m.1 != name

/-- The names of the members, in order. -/
def names (fs : Fields) : List String := fs.map (·.1)

@[simp] theorem get?_nil (name : String) : get? name [] = none := rfl

theorem get?_cons (name k : String) (v : Json) (rest : Fields) :
    get? name ((k, v) :: rest) = if k = name then some v else get? name rest := rfl

/-- There is a member with a name if the name is among the names. -/
theorem has_iff {name : String} {fs : Fields} : has name fs = true ↔ name ∈ fs.names := by
  induction fs with
  | nil => simp [has, names]
  | cons m rest ih =>
    obtain ⟨k, v⟩ := m
    rw [has, get?_cons]
    by_cases hk : k = name
    · simp [names, hk]
    · rw [if_neg hk]
      have hnames : name ∈ names ((k, v) :: rest) ↔ name ∈ names rest := by
        simp [names, Ne.symm hk]
      exact ih.trans hnames.symm

theorem get?_eq_none_iff {name : String} {fs : Fields} : get? name fs = none ↔ name ∉ fs.names := by
  rw [← has_iff, has]
  cases get? name fs <;> simp

theorem get?_append (name : String) (fs gs : Fields) :
    get? name (fs ++ gs) = (get? name fs).or (get? name gs) := by
  induction fs with
  | nil => rfl
  | cons m rest ih =>
    obtain ⟨k, v⟩ := m
    rw [List.cons_append, get?_cons, get?_cons]
    by_cases hk : k = name
    · rw [if_pos hk, if_pos hk, Option.some_or]
    · rw [if_neg hk, if_neg hk, ih]

@[simp] theorem get?_insert_self (name : String) (value : Json) (fs : Fields) :
    get? name (insert name value fs) = some value := by
  induction fs with
  | nil => simp [insert, get?]
  | cons m rest ih =>
    obtain ⟨k, v⟩ := m
    by_cases h : k = name <;> simp [insert, get?, h, ih]

theorem get?_insert_of_ne {name other : String} (h : other ≠ name) (value : Json) (fs : Fields) :
    get? name (insert other value fs) = get? name fs := by
  induction fs with
  | nil => simp [insert, get?, h]
  | cons m rest ih =>
    obtain ⟨k, v⟩ := m
    by_cases hk : k = other
    · subst hk; simp [insert, get?, h]
    · by_cases hn : k = name
      · subst hn; simp [insert, get?, hk]
      · simp [insert, get?, hk, hn, ih]

end Fields

/-! ### Views of a value -/

namespace Json

/-- The value as a text. -/
def str? : Json → Option String
  | str s => some s
  | _ => none

/-- The value as an integer. -/
def int? : Json → Option Int
  | int n => some n
  | _ => none

/-- The integer that a value is, or that a truth value counts as. -/
def counted? : Json → Option Int
  | int n => some n
  | bool b => some (if b then 1 else 0)
  | _ => none

/-- The value as a list. -/
def arr? : Json → Option (List Json)
  | arr items => some items
  | _ => none

/-- The value as an object. -/
def obj? : Json → Option Fields
  | obj members => some members
  | _ => none

/-- The member of an object; other values have none. -/
def get? (name : String) (v : Json) : Option Json := v.obj?.bind (Fields.get? name)

/-- Whether a value counts as true: all but null, false, zero and what is empty. -/
def isTruthy : Json → Bool
  | null => false
  | bool b => b
  | int n => n != 0
  | real x => !x.isZero
  | str s => s != ""
  | arr items => !items.isEmpty
  | obj members => !members.isEmpty

/-- Whether a value is null. -/
def isNull : Json → Bool
  | null => true
  | _ => false

/-- The name of a value's kind. -/
def typeName : Json → String
  | null => "NoneType"
  | bool _ => "bool"
  | int _ => "int"
  | real _ => "float"
  | str _ => "str"
  | arr _ => "list"
  | obj _ => "dict"

/-- The length of a text, list or object. -/
def size? : Json → Option Nat
  | str s => some s.length
  | arr items => some items.length
  | obj members => some members.length
  | _ => none

/-- The value of something that may be missing, or null. -/
def orNull {α : Type} (f : α → Json) : Option α → Json
  | some a => f a
  | none => null

/-- A text or null. -/
def ofOption : Option String → Json := orNull str

@[simp] theorem orNull_some {α : Type} (f : α → Json) (a : α) : orNull f (some a) = f a := rfl

@[simp] theorem orNull_none {α : Type} (f : α → Json) : orNull f none = null := rfl

end Json

end JobHerald
