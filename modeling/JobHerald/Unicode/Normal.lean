import JobHerald.Unicode.Composition

/-!
# Composed form

Texts that look the same can be written in several ways.  The composed form of a text is
found in three steps: characters are replaced by the sequences that they stand for, the
marks after each character are put in the order of their classes, and pairs that
compose are replaced by the characters that stand for them.  Syllables of the Korean
script are composed by arithmetic.

## Main definitions

* `Unicode.decomposed`, `Unicode.ordered` — the first two steps.
* `Unicode.compose?`, `Unicode.composedFrom` — the third step.
* `Unicode.composed` — the composed form.
-/

namespace JobHerald.Unicode

/-! ### Syllables -/

/-- The first syllable. -/
def syllableBase : Nat := 0xAC00

/-- The three parts of a syllable: consonant, vowel, and a final consonant if any. -/
def syllableParts? (n : Nat) : Option (List Nat) :=
  if syllableBase ≤ n ∧ n < syllableBase + 11172 then
    let k := n - syllableBase
    let open' := [0x1100 + k / 588, 0x1161 + k % 588 / 28]
    some (if k % 28 = 0 then open' else open' ++ [0x11A7 + k % 28])
  else none

/-- The syllable of a consonant and a vowel, or of a syllable without final consonant
and a final consonant. -/
def syllable? (a b : Nat) : Option Nat :=
  if 0x1100 ≤ a ∧ a < 0x1113 ∧ 0x1161 ≤ b ∧ b < 0x1176 then
    some (syllableBase + ((a - 0x1100) * 21 + (b - 0x1161)) * 28)
  else if syllableBase ≤ a ∧ a < syllableBase + 11172 ∧ (a - syllableBase) % 28 = 0
      ∧ 0x11A7 < b ∧ b < 0x11C3 then
    some (a + (b - 0x11A7))
  else none

/-! ### Decomposition and order -/

/-- The most steps in which a character is decomposed. -/
def decompositionDepth : Nat := 6

/-- What a character stands for, decomposed in turn; the fuel bounds the depth. -/
def decomposedFrom : Nat → Nat → List Nat
  | 0, n => [n]
  | fuel + 1, n =>
      if n < 0xC0 then [n]
      else
        match syllableParts? n with
        | some parts => parts
        | none =>
            match decompositions.lookup n with
            | some parts => parts.flatMap (decomposedFrom fuel)
            | none => [n]

/-- A text with its characters decomposed. -/
def decomposed (ns : List Nat) : List Nat := ns.flatMap (decomposedFrom decompositionDepth)

/-- The class of a mark; it is zero for all other characters. -/
def markClass (n : Nat) : Nat :=
  if n < 0x300 then 0
  else
    match classRuns.find? fun r => r.first ≤ n && n < r.first + r.count with
    | some r => r.value
    | none => 0

/-- A character with its class. -/
abbrev Classed := Nat × Nat

/-- A mark is put behind those of a lower class that follow it. -/
def insertMark (m : Classed) : List Classed → List Classed
  | [] => [m]
  | c :: cs => if c.1 ≠ 0 ∧ c.1 < m.1 then c :: insertMark m cs else m :: c :: cs

/-- A text with the marks after each character in order. -/
def ordered (ns : List Nat) : List Classed :=
  ns.foldr (fun n cs => insertMark (markClass n, n) cs) []

/-! ### Composition -/

/-- The character that stands for a pair. -/
def compose? (a b : Nat) : Option Nat :=
  match syllable? a b with
  | some s => some s
  | none => (compositions.find? fun c => c.first = a && c.second = b).map (·.whole)

/-- The composed form after a character that is no mark and the marks that stay with it,
the last one first.  A character composes with it unless one of its own class or a
higher one is between them. -/
def composedFrom (base : Nat) (held : List Classed) : List Classed → List Nat
  | [] => base :: held.reverse.map (·.2)
  | c :: rest =>
      let free := match held with
        | [] => true
        | last :: _ => decide (last.1 < c.1)
      match if free then compose? base c.2 else none with
      | some whole => composedFrom whole held rest
      | none =>
          if c.1 = 0 then base :: held.reverse.map (·.2) ++ composedFrom c.2 [] rest
          else composedFrom base (c :: held) rest

/-- The composed form of a text in order; marks at its front belong to nothing. -/
def composedOrdered : List Classed → List Nat
  | [] => []
  | c :: rest => if c.1 = 0 then composedFrom c.2 [] rest else c.2 :: composedOrdered rest

/-- The composed form; characters below the first mark never change. -/
def composed (ns : List Nat) : List Nat :=
  if ns.all (· < 0x300) then ns else composedOrdered (ordered (decomposed ns))

/-! ### Texts -/

/-- The code points of some characters. -/
def points (cs : List Char) : List Nat := cs.map Char.toNat

/-- The characters of some code points. -/
def ofPoints (ns : List Nat) : List Char := ns.map Char.ofNat

/-- Whether a character may join one before it in the composed form. -/
def mayJoin (n : Nat) : Bool :=
  0x300 ≤ n &&
    (markClass n != 0 || (0x1161 ≤ n && n < 0x11C3) ||
      (match decomposed [n] with
        | first :: _ => markClass first != 0 || compositions.any fun c => c.second = first
        | [] => false))

/-- The first character of the composed form of a text that is not empty. -/
def headComposed (n : Nat) (rest : List Nat) : Nat :=
  (composed (n :: rest.takeWhile mayJoin)).headD n

end JobHerald.Unicode
