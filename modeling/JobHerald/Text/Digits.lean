/-!
# Digits

Reading and writing numbers in a base, digit by digit.

## Main definitions

* `Text.decimal`, `Text.padded` — a number in decimal, and with leading zeros.
* `Text.digitLimit`, `Text.isWithinLimit` — the limit of digits.
* `Text.hexDigit`, `Text.hexPadded` — lower-case hexadecimal digits.
* `Text.hexValue?`, `Text.decimalValue?` — the value of a digit.
* `Text.readNat?` — the value of a text that consists of ASCII digits only.
-/

namespace JobHerald.Text

/-! ### Writing -/

/-- A number in decimal. -/
def decimal (n : Int) : String := toString n

/-- The most digits of an integer that is read from a text, or written as one.

A number of a record comes from a text, and so it is within the limit; so are the numbers
that the program makes itself, such as lengths, statuses, offsets and what is left after a
division.  Only the totals of all attempts at a job can pass it, since they are sums.  The
records among them are written in a chat message and in the body of a request, and there
the limit is checked (`Slack.count`, `Action.body`).  A volume that is as long is divided by
`1024 ^ 4` before it is written, and would take more than `10 ^ 12` attempts to pass the
limit.  This is why `decimal` itself does not check it.  A longer number that is not from a
text, but handed to one of the formatting functions as it is, is outside of this model. -/
def digitLimit : Nat := 4300

/-- Whether a number has no more digits than are written. -/
def isWithinLimit (n : Int) : Bool := n.natAbs < Nat.pow 10 digitLimit

/-- A number in decimal with at least `width` digits. -/
def padded (width n : Nat) : String :=
  let digits := toString n
  String.ofList (List.replicate (width - digits.length) '0') ++ digits

/-- The lower-case hexadecimal digit of a number below 16. -/
def hexDigit (n : Nat) : Char :=
  if n < 10 then Char.ofNat (48 + n) else Char.ofNat (87 + n)

/-- The last `width` hexadecimal digits of a number. -/
def hexPadded : Nat → Nat → List Char
  | 0, _ => []
  | width + 1, n => hexPadded width (n / 16) ++ [hexDigit (n % 16)]

@[simp] theorem length_hexPadded (width n : Nat) : (hexPadded width n).length = width := by
  induction width generalizing n with
  | zero => rfl
  | succ width ih => simp [hexPadded, ih]

/-! ### Reading -/

/-- The value of an ASCII decimal digit. -/
def digitValue? (c : Char) : Option Nat :=
  if 48 ≤ c.toNat ∧ c.toNat ≤ 57 then some (c.toNat - 48) else none

/-- The value of an ASCII hexadecimal digit of either case. -/
def hexValue? (c : Char) : Option Nat :=
  let n := c.toNat
  if 48 ≤ n ∧ n ≤ 57 then some (n - 48)
  else if 97 ≤ n ∧ n ≤ 102 then some (n - 87)
  else if 65 ≤ n ∧ n ≤ 70 then some (n - 55)
  else none

/-- The number written by digits of a base, most significant digit first. -/
def ofDigits (base : Nat) (digits : List Nat) : Nat :=
  digits.foldl (fun n d => n * base + d) 0

/-- The number written by a nonempty list of ASCII digits. -/
def readNat? (cs : List Char) : Option Nat :=
  if cs.isEmpty then none else (cs.mapM digitValue?).map (ofDigits 10)

/-- The characters of the digit zero, in every script that has decimal digits. -/
def zeroDigits : List Nat :=
  [0x30, 0x660, 0x6f0, 0x7c0, 0x966, 0x9e6, 0xa66, 0xae6, 0xb66, 0xbe6, 0xc66, 0xce6, 0xd66,
   0xde6, 0xe50, 0xed0, 0xf20, 0x1040, 0x1090, 0x17e0, 0x1810, 0x1946, 0x19d0, 0x1a80, 0x1a90,
   0x1b50, 0x1bb0, 0x1c40, 0x1c50, 0xa620, 0xa8d0, 0xa900, 0xa9d0, 0xa9f0, 0xaa50, 0xabf0,
   0xff10, 0x104a0, 0x10d30, 0x11066, 0x110f0, 0x11136, 0x111d0, 0x112f0, 0x11450, 0x114d0,
   0x11650, 0x116c0, 0x11730, 0x118e0, 0x11950, 0x11c50, 0x11d50, 0x11da0, 0x16a60, 0x16ac0,
   0x16b50, 0x1d7ce, 0x1d7d8, 0x1d7e2, 0x1d7ec, 0x1d7f6, 0x1e140, 0x1e2f0, 0x1e950, 0x1fbf0]

/-- The value of a decimal digit of any script. -/
def decimalValue? (c : Char) : Option Nat :=
  (zeroDigits.find? fun z => z ≤ c.toNat && c.toNat < z + 10).map (c.toNat - ·)

end JobHerald.Text
