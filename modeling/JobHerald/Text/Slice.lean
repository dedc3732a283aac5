/-!
# Cutting, trimming and searching text

Text is measured in characters (code points).  The operations here act on the
list of characters of a string, so that each of them is a list function with
the list library's lemmas.

## Main definitions

* `Text.take`, `Text.upTo` — the first characters, counted from either end.
* `Text.trim`, `Text.trimEnd` — removal of characters of a class at the ends.
* `Text.occurs`, `Text.contains` — whether one text occurs inside another.
* `Text.joined` — texts one after the other with a separator.
-/

namespace JobHerald.Text

/-! ### The first characters -/

/-- The first `n` characters. -/
def take (n : Nat) (s : String) : String := String.ofList (s.toList.take n)

/-- The number of characters kept by a bound: a negative bound counts from the
end, and no bound keeps fewer than none. -/
def bound (length : Nat) : Int → Nat
  | .ofNat n => n
  | .negSucc n => length - (n + 1)

/-- The text up to a position; a negative position counts from the end. -/
def upTo (k : Int) (s : String) : String := take (bound s.length k) s

@[simp] theorem toList_take (n : Nat) (s : String) : (take n s).toList = s.toList.take n := by
  simp [take]

@[simp] theorem bound_natCast (length n : Nat) : bound length (n : Int) = n := rfl

/-! ### The ends -/

/-- The characters left when those of a class are removed from the end. -/
def dropEnd (p : Char → Bool) (cs : List Char) : List Char :=
  (cs.reverse.dropWhile p).reverse

/-- The text without the characters of a class at its end. -/
def trimEnd (p : Char → Bool) (s : String) : String := String.ofList (dropEnd p s.toList)

/-- The text without the characters of a class at either end. -/
def trim (p : Char → Bool) (s : String) : String :=
  String.ofList (dropEnd p (s.toList.dropWhile p))

/-- The characters of a text without a byte-order mark at their front. -/
def dropMark : List Char → List Char
  | c :: rest => if c.toNat = 0xFEFF then rest else c :: rest
  | [] => []

/-! ### Parts -/

/-- Whether the first list occurs as a contiguous part of the second. -/
def occurs (needle : List Char) : List Char → Bool
  | [] => needle.isEmpty
  | c :: cs => needle.isPrefixOf (c :: cs) || occurs needle cs

/-- Whether `s` contains `needle` as a contiguous part. -/
def contains (s needle : String) : Bool := occurs needle.toList s.toList

theorem occurs_iff {needle cs : List Char} : occurs needle cs = true ↔ needle <:+: cs := by
  induction cs with
  | nil => rw [occurs, List.isEmpty_iff, List.infix_nil]
  | cons c cs ih =>
    rw [occurs, Bool.or_eq_true, List.isPrefixOf_iff_prefix, ih, List.infix_cons_iff]

/-- Whether `s` starts with `front`. -/
def startsWith (s front : String) : Bool := front.toList.isPrefixOf s.toList

/-- The parts of a list between the occurrences of `sep`; there is always at
least one part. -/
def splitOn (sep : Char) : List Char → List (List Char)
  | [] => [[]]
  | c :: cs =>
      match splitOn sep cs with
      | [] => [[c]]
      | part :: parts => if c = sep then [] :: part :: parts else (c :: part) :: parts

section Splitting

variable {sep : Char} {word rest : List Char}

/-- There is always a first part. -/
theorem exists_splitOn_cons (sep : Char) (cs : List Char) :
    ∃ part parts, splitOn sep cs = part :: parts := by
  cases cs with
  | nil => exact ⟨[], [], rfl⟩
  | cons c cs =>
    rw [splitOn]
    split
    · exact ⟨_, _, rfl⟩
    · split
      · exact ⟨_, _, rfl⟩
      · exact ⟨_, _, rfl⟩

theorem splitOn_cons_of_ne {c : Char} (h : c ≠ sep) {cs part : List Char}
    {parts : List (List Char)} (hcs : splitOn sep cs = part :: parts) :
    splitOn sep (c :: cs) = (c :: part) :: parts := by
  rw [splitOn, hcs]
  exact if_neg h

/-- A list without the separator is one part. -/
theorem splitOn_of_not_mem (h : sep ∉ word) : splitOn sep word = [word] := by
  induction word with
  | nil => rfl
  | cons c cs ih =>
    rw [List.mem_cons, not_or] at h
    exact splitOn_cons_of_ne (Ne.symm h.1) (ih h.2)

/-- The first part ends at the first separator. -/
theorem splitOn_append (h : sep ∉ word) :
    splitOn sep (word ++ sep :: rest) = word :: splitOn sep rest := by
  induction word with
  | nil =>
    obtain ⟨part, parts, hrest⟩ := exists_splitOn_cons sep rest
    rw [List.nil_append, splitOn, hrest]
    exact if_pos rfl
  | cons c cs ih =>
    rw [List.mem_cons, not_or] at h
    exact splitOn_cons_of_ne (Ne.symm h.1) (ih h.2)

end Splitting

/-- The characters before and after the first occurrence of `sep`, if there is one. -/
def cutAt (sep : Char) : List Char → Option (List Char × List Char)
  | [] => none
  | c :: cs =>
      if c = sep then some ([], cs)
      else (cutAt sep cs).map fun (front, rest) => (c :: front, rest)

/-- The list without the occurrences of `part`, searched from the left; the
fuel bounds the number of steps and the length of the list is always enough. -/
def eraseAllFrom (part : List Char) : Nat → List Char → List Char
  | 0, cs => cs
  | _, [] => []
  | n + 1, c :: cs =>
      if part.isPrefixOf (c :: cs) && !part.isEmpty then
        eraseAllFrom part n ((c :: cs).drop part.length)
      else c :: eraseAllFrom part n cs

/-- The text without the occurrences of `part`, searched from the left. -/
def eraseAll (part s : String) : String :=
  String.ofList (eraseAllFrom part.toList s.length s.toList)

/-- Texts one after the other, with `sep` between neighbours. -/
def joined (sep : String) : List String → String
  | [] => ""
  | [s] => s
  | s :: rest => s ++ sep ++ joined sep rest

@[simp] theorem joined_nil (sep : String) : joined sep [] = "" := rfl

@[simp] theorem joined_singleton (sep s : String) : joined sep [s] = s := rfl

end JobHerald.Text
