import JobHerald.Text.Digits

/-!
# Volumes in messages

A number of bytes is shown in the largest binary unit of which there is at least one,
rounded down; there is no unit beyond the terabyte.

## Main definitions

* `Volume.render` — the volume with its unit.
* `link` — a link with a name.
-/

namespace JobHerald

namespace Volume

/-- The units below the largest one. -/
def units : List String := ["B", "kB", "MB", "GB"]

/-- The volume in the first of some units in which it is below 1024. -/
def renderIn : List String → Int → String
  | [], n => Text.decimal n ++ " TB"
  | unit :: rest, n =>
      if n < 1024 then Text.decimal n ++ " " ++ unit else renderIn rest (n / 1024)

/-- The volume with its unit. -/
def render (n : Int) : String := renderIn units n

end Volume

/-- A link with a name, in the markup of chat messages. -/
def link (name url : String) : String := "<" ++ url ++ "|" ++ name ++ ">"

end JobHerald
