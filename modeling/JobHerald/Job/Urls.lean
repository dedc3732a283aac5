import JobHerald.Identity.Uuid
import JobHerald.Text.Slice

/-!
# Addresses in the web application

## Main definitions

* `WebUrls` — the base of the addresses, without slashes at its end.
* `WebUrls.workspace`, `WebUrls.connection`, `WebUrls.source`, `WebUrls.destination` — the
  addresses.
-/

namespace JobHerald

/-- The base of the addresses. -/
structure WebUrls where
  /-- The base, without slashes at its end. -/
  base : String
  deriving DecidableEq, Repr

namespace WebUrls

/-- The addresses under a base. -/
def ofBase (url : String) : WebUrls := ⟨Text.trimEnd (· = '/') url⟩

/-- The address of a workspace. -/
def workspace (u : WebUrls) (w : Uuid) : String := u.base ++ "/workspaces/" ++ w.render

/-- The address of a connection of a workspace. -/
def connection (u : WebUrls) (w c : Uuid) : String :=
  u.workspace w ++ "/connections/" ++ c.render

/-- The address of a source of a workspace. -/
def source (u : WebUrls) (w s : Uuid) : String := u.workspace w ++ "/source/" ++ s.render

/-- The address of a destination of a workspace. -/
def destination (u : WebUrls) (w d : Uuid) : String :=
  u.workspace w ++ "/destination/" ++ d.render

end WebUrls

end JobHerald
