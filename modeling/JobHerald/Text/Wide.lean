/-!
# Wide encodings

The bytes of a text can be read as another text, in an encoding with units of two or
four bytes.  Text that begins with ASCII characters shows its encoding by the zeros among
its first bytes.

## Main definitions

* `Text.Wide` — the wide encodings.
* `Text.Wide.ofBytes?` — the encoding that some bytes show.
* `Text.Wide.decode?` — the text that some bytes write in an encoding.
-/

namespace JobHerald.Text

/-- An encoding with units of two or four bytes. -/
structure Wide where
  /-- Whether units have four bytes. -/
  isLong : Bool
  /-- Whether the first byte of a unit counts least. -/
  leastFirst : Bool
  deriving DecidableEq, Repr

namespace Wide

/-- The encoding that the first bytes of a text show, if it is a wide one. -/
def ofBytes? : List UInt8 → Option Wide
  | [a, b] => if a = 0 then some ⟨false, false⟩ else if b = 0 then some ⟨false, true⟩ else none
  | a :: b :: c :: d :: _ =>
      if a = 0 then some ⟨b = 0, false⟩
      else if b = 0 then some ⟨c = 0 && d = 0, true⟩
      else none
  | _ => none

/-- The number of a unit. -/
def unit (w : Wide) (bytes : List UInt8) : Nat :=
  (if w.leastFirst then bytes.reverse else bytes).foldl (fun n b => n * 256 + b.toNat) 0

/-- The units of some bytes, which have to be complete. -/
def units? (w : Wide) : List UInt8 → Option (List Nat)
  | [] => some []
  | [_] => none
  | a :: b :: rest =>
      if w.isLong then
        match rest with
        | c :: d :: rest => (units? w rest).map (w.unit [a, b, c, d] :: ·)
        | _ => none
      else (units? w rest).map (w.unit [a, b] :: ·)

/-- The character of one unit; a surrogate without its partner is replaced. -/
def single (n : Nat) : Char := Char.ofNat (if 0xD800 ≤ n ∧ n < 0xE000 then 0xFFFD else n)

/-- Whether two units are a pair of surrogates. -/
def isPair (n m : Nat) : Bool := 0xD800 ≤ n && n < 0xDC00 && 0xDC00 ≤ m && m < 0xE000

/-- The characters of units of two bytes. -/
def joinPairs : List Nat → List Char
  | [] => []
  | [n] => [single n]
  | n :: m :: rest =>
      if isPair n m then
        Char.ofNat (0x10000 + (n - 0xD800) * 0x400 + (m - 0xDC00)) :: joinPairs rest
      else single n :: joinPairs (m :: rest)

/-- The text that some bytes write. -/
def decode? (w : Wide) (bytes : List UInt8) : Option String :=
  (w.units? bytes).bind fun ns =>
    if !w.isLong then some (String.ofList (joinPairs ns))
    else if ns.all (· ≤ 0x10FFFF) then some (String.ofList (ns.map single))
    else none

end Wide

end JobHerald.Text
