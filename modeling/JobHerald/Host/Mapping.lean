import JobHerald.Host.Fault
import JobHerald.Host.MappingTable
import JobHerald.Unicode.Normal

/-!
# Mapping of host names

Two names of a host that differ in capitals, or in the forms of their letters, are the
same name.  Mapping brings them into one form.

## Main definitions

* `Host.image` — what a character is mapped to.
* `Host.mapped` — a mapped name.
-/

namespace JobHerald.Host

/-- The most characters of a text that is looked at. -/
def inputLimit : Nat := 1024

/-- The image of a character in a run of the mapping, if it is one of the run. -/
def MappingRun.image? (n : Nat) (r : MappingRun) : Option Nat :=
  if r.source.first ≤ n ∧ (n - r.source.first) % r.step = 0
      ∧ (n - r.source.first) / r.step < r.source.count then
    some (r.source.value + (n - r.source.first) / r.step * r.stride)
  else none

/-- What a character is mapped to; a character that is not allowed has no image. -/
def image (n : Nat) : Option (List Nat) :=
  if n < 0x80 then some [if 65 ≤ n ∧ n ≤ 90 then n + 32 else n]
  else if Text.inRanges n ignoredRanges then some []
  else if Text.inRanges n refusedRanges then none
  else
    match mappingRuns.findSome? (MappingRun.image? n) with
    | some m => some [m]
    | none => some ((mappingEntries.lookup n).getD [n])

/-- The images of the rest of a name, given how many characters came before. -/
def imagesFrom (name : List Nat) : Nat → List Nat → Except Fault (List Nat)
  | _, [] => .ok []
  | position, n :: rest =>
      match image n with
      | some ns => (imagesFrom name (position + 1) rest).map (ns ++ ·)
      | none => .error (.refusedInName n (position + 1) name)

/-- A mapped name, in composed form. -/
def mapped (name : List Nat) : Except Fault (List Nat) :=
  if inputLimit < name.length then .error .longName
  else (imagesFrom name 0 name).map Unicode.composed

end JobHerald.Host
