/-!
# Base 64 for addresses

Three bytes are written as four characters of an alphabet that is safe in
addresses; there is no padding at the end.

## Main definitions

* `Base64Url.encode` — the text of a list of bytes.
-/

namespace JobHerald.Base64Url

/-- The 64 characters. -/
def alphabet : List Char :=
  "ABCDEFGHIJKLMNOPQRSTUVWXYZabcdefghijklmnopqrstuvwxyz0123456789-_".toList

/-- The character of a number below 64. -/
def letter (n : Nat) : Char := alphabet.getD (n % 64) 'A'

/-- The characters of a list of bytes. -/
def chars : List UInt8 → List Char
  | a :: b :: c :: rest =>
      let n := (a.toNat * 256 + b.toNat) * 256 + c.toNat
      letter (n / 262144) :: letter (n / 4096) :: letter (n / 64) :: letter n :: chars rest
  | [a, b] =>
      let n := (a.toNat * 256 + b.toNat) * 256
      [letter (n / 262144), letter (n / 4096), letter (n / 64)]
  | [a] => [letter (a.toNat / 4), letter (a.toNat * 16)]
  | [] => []

/-- The text of a list of bytes. -/
def encode (bytes : List UInt8) : String := String.ofList (chars bytes)

end JobHerald.Base64Url
