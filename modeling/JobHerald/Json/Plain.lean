import JobHerald.Binary64.Shortest
import JobHerald.Json.Basic
import JobHerald.Text.Quoted

/-!
# Values as plain text

The text a value gets when it is put into a sentence: a text stands for itself,
and texts inside lists and objects are quoted.

## Main definitions

* `Json.plain` — the plain text of a value.
* `Json.nested` — the text of a value inside another one.
-/

namespace JobHerald.Json

/-- Numbers are positional from `0.0001` up to `10 ^ 16`, and exponents have two digits. -/
def plainLayout : Binary64.Layout := ⟨-4, 16, 2, "inf", "nan"⟩

mutual

/-- The text of a value inside another one. -/
def nested : Json → String
  | null => "None"
  | bool true => "True"
  | bool false => "False"
  | int n => Text.decimal n
  | real x => Binary64.render plainLayout x
  | str s => Text.quoted s
  | arr items => "[" ++ nestedItems items ++ "]"
  | obj members => "\x7b" ++ nestedMembers members ++ "\x7d"

/-- The texts of items, with commas. -/
def nestedItems : List Json → String
  | [] => ""
  | [v] => nested v
  | v :: rest => nested v ++ ", " ++ nestedItems rest

/-- The texts of members, with commas. -/
def nestedMembers : List (String × Json) → String
  | [] => ""
  | [(k, v)] => Text.quoted k ++ ": " ++ nested v
  | (k, v) :: rest => Text.quoted k ++ ": " ++ nested v ++ ", " ++ nestedMembers rest

end

/-- The plain text of a value. -/
def plain : Json → String
  | str s => s
  | v => nested v

end JobHerald.Json
