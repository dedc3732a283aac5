import JobHerald.Validation.Issue

/-!
# Checked values

A checked value is either valid or comes with the issues that make it invalid.
Putting checked parts together keeps the issues of all of them, in order.

## Main definitions

* `Checked` — a value or its issues, an applicative functor.
* `Checked.inside` — the issues seen from outside a member or an item.
* `Checked.traverse` — a list of checked items as a checked list.
-/

namespace JobHerald

/-- A value, or the issues that make it invalid. -/
inductive Checked (α : Type) where
  /-- A valid value. -/
  | valid (value : α)
  /-- The issues of an invalid value. -/
  | invalid (issues : List Issue)
  deriving Repr

namespace Checked

variable {α β : Type}

/-- The issues of a checked value. -/
def issues : Checked α → List Issue
  | valid _ => []
  | invalid is => is

/-- The value, if it is valid. -/
def value? : Checked α → Option α
  | valid a => some a
  | invalid _ => none

/-- A function applied to a valid value. -/
def map (f : α → β) : Checked α → Checked β
  | valid a => valid (f a)
  | invalid is => invalid is

/-- A checked function applied to a checked argument, with the issues of both. -/
def ap : Checked (α → β) → Checked α → Checked β
  | valid f, valid a => valid (f a)
  | valid _, invalid js => invalid js
  | invalid is, a => invalid (is ++ a.issues)

instance : Functor Checked := ⟨map, fun a x => map (fun _ => a) x⟩

instance : Applicative Checked where
  pure := valid
  seq f x := ap f (x ())

/-- A single fault of a value. -/
def fault (f : Fault) (input : Json) : Checked α := invalid [⟨[], f, input⟩]

/-- The issues seen from outside a member or an item. -/
def inside (step : String) : Checked α → Checked α
  | valid a => valid a
  | invalid is => invalid (is.map (·.inside step))

/-- A further check of a valid value. -/
def andThen (x : Checked α) (f : α → Checked β) : Checked β :=
  match x with
  | valid a => f a
  | invalid is => invalid is

/-- Checked items as a checked list. -/
def traverse : List (Checked α) → Checked (List α)
  | [] => valid []
  | x :: rest => ap (map List.cons x) (traverse rest)

@[simp] theorem seq_valid (f : α → β) (a : α) :
    (valid f : Checked (α → β)) <*> (valid a : Checked α) = valid (f a) := rfl

@[simp] theorem map_valid (f : α → β) (a : α) : f <$> (valid a : Checked α) = valid (f a) := rfl

end Checked

/-- A reader of values: what it makes of a JSON value. -/
abbrev Reader (α : Type) := Json → Checked α

end JobHerald
