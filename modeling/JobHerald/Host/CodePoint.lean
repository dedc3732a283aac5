import JobHerald.Text.Printable
import JobHerald.Unicode.Table

/-!
# Characters of host names

A label of a host name consists of characters that are allowed everywhere, of joiners,
and of a few characters that are allowed beside certain others.  Joiners depend on how
the letters beside them are joined; all characters have a direction of writing.

## Main definitions

* `Host.Standing`, `Host.standing` — where a character is allowed.
* `Host.Joining`, `Host.joining` — how a letter is joined to its neighbours.
* `Host.Direction`, `Host.direction?` — the direction of a character.
* `Host.isGreek`, `Host.isHebrew`, `Host.isKanaOrHan` — scripts.
-/

namespace JobHerald.Host

/-! ### Standing -/

/-- The characters that are allowed everywhere. -/
def validTable : List String :=
  ["2d 1 2 a 27 1a 64 18 1 8 1 1 1 1 1 1 1 1 1 1 1 1 1 1 1 1 1 1 1 1 1 1 1 1 1 1 1 1 1 1 1 1",
   "1 1 1 1 1 1 1 1 1 1 1 1 1 1 1 1 1 1 3 1 1 2 1 1 1 1 1 1 3 1 1 1 1 1 1 1 2 1 1 1 1 1 1 1 1",
   "1 1 1 1 1 1 1 1 1 1 1 1 1 1 1 1 1 1 1 1 1 1 1 1 1 1 1 1 1 1 1 1 1 1 1 1 1 2 1 1 1 1 1 1 1",
   "2 1 1 1 2 1 3 2 4 1 2 1 3 3 2 1 2 1 1 1 1 1 2 1 1 2 1 1 2 1 3 1 1 1 2 3 1 7 a 1 1 1 1 1 1",
   "1 1 1 1 1 1 1 1 2 1 1 1 1 1 1 1 1 1 1 1 1 1 1 1 1 1 2 4 1 3 1 1 1 1 1 1 1 1 1 1 1 1 1 1 1",
   "1 1 1 1 1 1 1 1 1 1 1 1 1 1 1 1 1 1 1 1 1 1 1 1 1 1 1 1 1 1 1 1 1 1 1 1 1 1 1 1 1 1 1 7 2",
   "1 2 2 1 1 4 1 1 1 1 1 1 1 1 61 9 9 4 c 1a 1 1 1 11 40 2 1 3 9 1 20 1 1 1 1 3 1 3 3 12 1",
   "1b 23 8 1 1 1 1 1 1 1 1 1 1 1 1 1 1 1 1 1 1 1 1 1 1 1 1 1 3 1 4 1 2 2 33 30 1 1 1 1 1 1 1",
   "1 1 1 1 1 1 1 1 1 1 1 1 1 1 1 1 1 1 1 1 1 1 1 1 1 1 1 1 5 3 1 1 1 1 1 1 1 1 1 1 1 1 1 1 1",
   "1 1 1 1 1 1 1 1 1 1 1 1 1 1 1 1 1 1 1 1 1 1 1 1 1 1 1 1 1 1 1 1 1 1 1 1 1 1 2 1 1 1 1 1 1",
   "1 1 1 1 1 1 2 1 1 1 1 1 1 1 1 1 1 1 1 1 1 1 1 1 1 1 1 1 1 1 1 1 1 1 1 1 1 1 1 1 1 1 1 1 1",
   "1 1 1 1 1 1 1 1 1 1 1 1 1 1 1 1 1 1 1 1 1 1 1 1 1 1 1 1 1 1 1 1 1 1 1 1 1 1 1 1 1 1 1 1 1",
   "1 1 1 1 1 1 1 1 1 1 1 1 1 29 1 6 27 1 1 8 2d 1 1 1 2 1 2 1 1 8 1b 4 4 1d b 5 20 1 1f e 7",
   "4 5b 1 8 2 a 1 6 a 6 10 3b 2 65 e 36 7 1 2 2e 12 1c 4 b 5 18 1 7 7 4b 1 75 8 4 2 a 1 13 1",
   "8 2 2 2 16 1 7 1 1 3 4 2 9 2 2 2 4 8 1 8 4 2 c a 1 1 1 2 3 1 6 4 2 2 16 1 7 1 1 2 1 2 2 2",
   "1 1 5 4 2 2 3 3 1 a 1 9 10 b 3 1 9 1 3 1 16 1 7 1 2 1 5 2 a 1 3 1 3 2 1 f 4 2 a 9 7 1 3 1",
   "8 2 2 2 16 1 7 1 2 1 5 2 9 2 2 2 3 7 3 7 5 2 a 1 1 10 2 1 6 3 3 1 4 3 2 1 1 1 2 3 2 3 3 3",
   "c 4 5 3 3 1 4 2 1 6 1 e a 10 d 1 3 1 17 1 10 2 9 1 3 1 4 7 2 1 3 1 2 2 4 2 a 10 4 1 8 1 3",
   "1 17 1 a 1 5 2 9 1 3 1 4 7 2 5 3 1 4 2 a 1 3 c d 1 3 1 33 1 3 1 5 5 4 7 5 2 a a 6 1 3 1",
   "12 3 18 1 9 1 1 2 7 3 1 4 6 1 1 1 8 6 a 2 2 d 32 1 7 5 f 1 a 27 2 1 1 1 5 1 18 1 1 1 c 1",
   "a 2 5 1 1 1 7 1 a 4 2 20 1 a 1 c 2 6 a b 1 1 1 1 1 4 5 1 4 1 4 1 4 1 4 1 4 1 c 1 3 4 2 1",
   "1 5 7 1 3 1 d 1 4 1 4 1 4 1 4 1 4 1 c 1 3 9 1 39 4a 6 4e 32 2b 2 3 100 49 1 4 2 7 1 1 1 4",
   "2 29 1 4 2 21 1 4 2 7 1 1 1 4 2 f 1 39 1 4 2 43 2 3 20 10 10 56 b 26c 2 11 1 1a 5 4b 6 8",
   "7 16 9 16 b 14 c d 1 3 1 2 c 34 2 1e 3 1 4 2 2 a 26 a 6 59 7 2b 5 46 a 1f 1 c 4 c a 28 2",
   "5 b 2c 4 1a 6 a 26 1c 4 3f 1 1d 2 b 6 a d 1 8 e 1 38 9 4d 3 a 11 9 c 74 c 38 8 a 3 31 c 1",
   "45 3 1 27 5 2c 3 1 b 1 12 1 1c d 1 22 25 40 1 1 1 1 1 1 1 1 1 1 1 1 1 1 1 1 1 1 1 1 1 1 1",
   "1 1 1 1 1 1 1 1 1 1 1 1 1 1 1 1 1 1 1 1 1 1 1 1 1 1 1 1 1 1 1 1 1 1 1 1 1 1 1 1 1 1 1 1 1",
   "1 1 1 1 1 1 1 1 1 1 1 1 1 1 1 1 1 1 1 1 1 1 1 1 1 1 1 1 1 1 1 1 1 1 1 1 1 1 1 1 1 1 1 1 1",
   "1 1 1 1 1 1 1 1 1 1 1 1 1 1 1 1 1 1 1 1 1 1 1 1 1 1 1 1 1 1 1 1 1 1 1 1 5 2 2 1 1 1 1 1 1",
   "1 1 1 1 1 1 1 1 1 1 1 1 1 1 1 1 1 1 1 1 1 1 1 1 1 1 1 1 1 1 1 1 1 1 1 1 1 1 1 1 1 1 1 1 1",
   "1 1 1 1 1 1 1 1 1 1 1 1 1 1 1 1 1 1 1 1 1 1 1 1 1 1 1 1 1 1 1 1 1 1 1 1 1 1 1 1 1 1 1 1 1",
   "1 9 8 6 a 8 8 8 8 6 a 8 8 8 8 1 1 1 1 1 1 1 1 1 1 1 1 1 33 2 4 1 f 1 9 3 3 2 8 3 1 4 e 1",
   "157 1 35 1 aab 30 1 1 3 2 1 1 1 1 1 1 4 1 1 2 1 6 5 1 1 1 1 1 1 1 1 1 1 1 1 1 1 1 1 1 1 1",
   "1 1 1 1 1 1 1 1 1 1 1 1 1 1 1 1 1 1 1 1 1 1 1 1 1 1 1 1 1 1 1 1 1 1 1 1 1 1 1 1 1 1 1 1 1",
   "1 1 1 1 1 1 1 1 1 1 1 1 1 1 1 1 1 1 1 1 1 1 1 1 1 1 1 1 1 1 1 1 1 1 2 7 1 1 4 1 1 c 26 1",
   "1 5 1 2 38 17 18 9 7 1 7 1 7 1 7 1 7 1 7 1 7 1 7 1 20 2f 1 1d5 3 22 4 e 1 4 56 2 2 2 2 2",
   "5a 1 3 6 2b 70 20 30 10 200 19c0 40 568d 43 2e 2 10d 3 1c 15 1 1 1 1 1 1 1 1 1 1 1 1 1 1",
   "1 1 1 1 1 1 1 1 1 1 1 1 1 1 1 1 1 1 1 1 1 1 1 1 1 1 1 1 1 1 3 4 a 1 1 1 1 1 1 1 1 1 1 1 1",
   "1 1 1 1 1 1 1 1 1 1 1 1 1 1 1 1 1 1 2 48 a 2 25 9 3 1 1 1 1 1 1 1 1 1 1 1 1 3 1 1 1 1 1 1",
   "1 1 1 1 1 1 1 1 1 1 1 1 1 1 1 1 1 1 1 1 1 1 1 1 1 1 1 1 1 1 1 1 1 1 1 1 1 1 1 1 1 1 1 1 1",
   "1 1 1 1 1 1 1 1 1 1 1 1 8 1 1 1 1 2 1 1 1 1 1 1 1 1 2 3 1 1 2 1 1 1 3 1 1 1 1 1 1 1 1 1 1",
   "1 1 1 1 1 1 1 1 1 1 5 1 5 1 1 1 1 1 1 1 1 1 1 1 1 1 1 1 4 1 1 1 2 1 1 1 1 1 1 1 1 1 1 1 1",
   "1 1 1 1a 2 2 2e 4 1 13 34 c 46 a a 6 18 3 1 1 31 2 24 2c 41 e b 6 1f 1 37 9 e 2 a 6 17 3",
   "49 18 3 2 10 2 5 a 6 2 6 2 6 9 7 1 7 1 2b 5 9 57 2b 1 2 2 a 6 2ba4 226a 2 1 1 1 2 a 1 1 1",
   "1 2 2 3 f4 1 301 10 43 1 18c c 1 1a 1 13 1 2 1 f 2 e 22 7b 102 1 82 1d 3 31 f 1 1f 20 d",
   "14 1 8 6 2b 5 1e 2 24 4 8 58 76 2 a 2e 24 4 28 8 34 33 b 1 f 1 7 1 2 3 34 c 137 9 16 a 8",
   "18 1 7f 6 2 1 1 2c 1 2 3 1 2 17 a 17 9 1f 41 13 1 2 a 16 a 1a 6 1a 26 38 6 2 40 4 1 2 5 8",
   "1 3 1 1d 2 3 4 1 20 1d 3 1d 23 8 1 1e 19 36 a 16 a 13 d 12 6e 49 77 33 d 28 8 a 6 10 19 5",
   "1 17 fa 2a 1 2 3 2 10 6 32 23 a 1 8 21 1f 16 2a 15 1b 17 9 47 1f 10 9 3c 7 1 d 19 7 a 6",
   "35 1 a 4 4 8 24 2 1 9 45 4 4 1 d 1 1 23 12 1 25 6 4 3e 7 1 1 1 4 1 f 1 a 7 3b 5 a 6 4 1 8",
   "2 2 2 16 1 7 1 2 1 5 1 a 2 2 2 3 2 1 6 1 5 7 2 7 3 5 b a 1 1 2 1 1 26 1 a 1 1 2 1 1 4 1 8",
   "d 2 1d 4b 5 a 4 4 1e 46 1 1 8 a a6 36 2 9 17 6 22 41 3 1 b a 26 39 7 a 6 14 1c 1b 2 f 4 a",
   "6 7 b9 3b 85 2a 15 8 2 1 2 8 1 2 1 1e 1 2 2 9 c a 46 8 2 2e 2 8 1 2 1b 3f 8 1 8 4a 3 1 12",
   "49 67 8 58 21 f a 6 9 1 2d 1 9 f a 18 1e 2 16 1 e 49 7 1 2 1 2c 3 1 1 2 1 9 8 a 6 6 1 2 1",
   "25 1 2 1 6 7 a 6 2c 4 a f6 17 9 11 1 29 3 5 d b 55 1 4f 39a e6 c4 a4c 61 f 430 10 16 a",
   "f9b 5 247 1ab9 3a 6c6 239 7 1f 1 a 6 4f 1 a 6 1e 2 5 b 37 9 4 c a 9 15 5 13 1b0 2d 3 a e6",
   "20 3b 19 2c 4b 4 39 7 11 40 2 1 2 b 4 c 1cd6 29 20 61 73 d 392 1e5e 4 1 7 1 2 1 123 f 1",
   "1d 3 2 1 e 4 8 18c 904 6b 5 d 3 9 7 a 3 2 1261 2e 2 17 ab9 37 4 32 8 1 e 1 16 5 1 f 450",
   "1f 6 6 d5 7 1 11 2 7 1 2 1 5 64 1 70 2d 3 e 2 a 4 1 141 1f 11 3a 1d6 2a d6 2b c5 1f 1 16",
   "8 2 e0 7 1 4 1 2 1 f 1 c5 b 7 4b 2a 4 a 16a6 a6e0 20 111e 2 168e 2 1d31 f 26e 11a2 134b 5",
   "212a 9b86 2c40"]

/-- The characters that are allowed everywhere. -/
def validRanges : List (Nat × Nat) := Unicode.ranges validTable

/-- Where a character is allowed. -/
inductive Standing where
  /-- Everywhere. -/
  | valid
  /-- It joins letters, and is allowed between such. -/
  | joiner
  /-- Beside certain other characters. -/
  | contextual
  /-- Nowhere. -/
  | refused
  deriving DecidableEq, Repr

/-- Where a character is allowed. -/
def standing (n : Nat) : Standing :=
  if Text.inRanges n validRanges then .valid
  else if n = 0x200C ∨ n = 0x200D then .joiner
  else if n = 0xB7 ∨ n = 0x375 ∨ n = 0x5F3 ∨ n = 0x5F4 ∨ n = 0x30FB then .contextual
  else if (0x660 ≤ n ∧ n ≤ 0x669) ∨ (0x6F0 ≤ n ∧ n ≤ 0x6F9) then .contextual
  else .refused

/-! ### Joining -/

/-- The letters that are joined on both sides. -/
def bothTable : List String :=
  ["620 1 5 1 1 1 1 5 4 d 1 7 1 2 23 2 8 10 12 26 1 2 9 1 1 1 1 2 28 3 2 1 12 3 5 4 1 9 1 1 1",
   "1 1 2 1f b 3 f 2 4 1 1 2 3 2 6 4a 21 56 5 2 1 1 a 1 1 a 1 1 4 2 1 1d 1 2 5 1 1 10 a 5 2 2",
   "6 1 f f3e 1 18 59 e 22 1 1 8f95 32 624e 5 e 4 1 5 1 3 a 4 91 1 1 1 3 3 1 2 1 1 2 1 1c 2",
   "152 21 1 1 19f 2 1 2 68 3 1 11 c 3 1c 4 2 c 2e 1 1 2 4 1 2 2 1 2 1 1 2 1 5 1 d935 44"]

/-- The letters that are joined to the letter that follows. -/
def leftTable : List String :=
  ["a872 1 625a 1 9 1 228 1 2ca 1"]

/-- The letters that are joined to the letter before. -/
def rightTable : List String :=
  ["622 4 1 1 1 1 5 4 15 1 28 3 1 3 10 12 26 1 2 9 1 1 1 1 2 2 1 1 18 2 20 1 4 5 4 1 9 1 1 1",
   "1 1 2 1 1d 1 b 3 f 2 4 1 1 2 3 2 c6 1 5 2 1 1 a 1 1 3 e 1 1 2 5 13 b 1 1b 3 1 1 2 2 6 1",
   "1020b 1 1 1 1 2 3 5 a 1 3 1 2 1 a 1 91 1 1 3 3 1 2 1 1 2 1 1 17 4 175 1 19f 1 70 1 20 1",
   "1f 2 3e 3 2 2 2 1 4 2 5 1"]

/-- The characters that joining passes over. -/
def transparentTable : List String :=
  ["ad 1 252 70 113 7 107 2d 1 1 1 2 1 2 1 1 48 b 1 1 2e 15 10 1 65 7 2 6 2 2 1 4 21 1 1 1 1e",
   "1b 5b b 3a 9 9 1 18 4 1 9 1 3 1 5 2b 3 3b 9 2a 18 1 20 37 1 1 1 4 8 4 1 3 7 a 2 1d 1 3a 1",
   "4 4 8 1 14 2 1a 1 2 2 39 1 4 2 4 2 2 3 3 1 1e 2 3 1 b 2 39 1 4 5 1 2 4 1 14 2 16 6 1 1 3a",
   "1 2 1 1 4 8 1 7 2 b 2 1e 1 3d 1 c 1 32 1 3 1 37 1 1 3 5 3 1 4 7 2 b 2 1d 1 3a 1 2 1 6 1 5",
   "2 14 2 1c 2 39 2 4 4 8 1 14 2 1d 1 48 1 7 3 1 1 5a 1 2 7 c 8 62 1 2 9 b 7 49 2 1b 1 1 1 1",
   "1 37 e 1 5 1 2 5 b 1 24 9 1 66 4 1 6 1 2 2 2 19 2 4 3 10 4 d 1 2 2 6 1 f 1 2bf 3 3b2 3 1d",
   "2 1e 2 1e 2 40 2 1 7 8 1 2 b 9 1 2d 3 1 1 75 2 22 1 76 3 4 2 9 1 6 3 db 2 2 1 3a 1 1 7 1",
   "1 1 1 2 8 6 a 2 1 30 2e 2 c 14 4 30 1 1 5 1 1 5 1 28 9 c 2 20 4 2 2 1 3 38 1 1 2 3 1 1 3",
   "3a 8 2 2 98 3 1 d 1 7 4 1 6 1 3 2 c6 40 20b 1 2 2 1a 5 31 5 5 6 60 21 bfe 3 8d 1 60 20",
   "22a 4 6b 2 75d4 4 1 a 20 2 50 2 110 1 3 1 4 1 19 2 5 1 97 2 1a 12 d 1 26 8 19 b 2e 3 30 1",
   "2 4 2 2 27 1 43 6 2 2 2 2 c 1 8 1 2f 1 33 1 1 3 2 2 5 2 1 1 2a 2 8 1 ee 1 2 1 4 1 4f30 1",
   "2e1 10 10 10 cf 1 f9 3 201 1 e2 1 95 5 686 3 1 2 5 4 28 3 4 1 a5 2 23d 4 41 5 13d 2 4d 6",
   "46 b 31 4 7b 1 36 f 29 1 2 2 a 3 31 4 2 2 7 1 3d 3 24 5 1 8 3e 1 c 2 34 9 a 4 2 1 5f 3 2",
   "1 1 2 6 1 2 1 9d 1 3 8 15 2 39 2 3 1 25 7 3 5 46 6 d 1 1 1 1 1 e 2 55 8 2 3 1 1 17 1 54 6",
   "1 1 4 2 1 2 ee 4 6 2 1 2 1b 2 55 8 2 1 1 2 6a 1 1 1 2 6 1 1 65 1 1 1 2 4 1 5 103 9 1 2",
   "100 2 1 1 4 1 90 4 2 2 4 1 20 a 28 6 2 4 8 1 9 6 2 3 2e d 1 2 c6 1 1 3 1 1 c9 7 1 6 1 1",
   "52 16 2 7 1 2 1 2 7a 6 3 1 1 2 1 7 1 1 48 2 3 1 1 1 15b 2 b 2 34 5 5 1 1 1 17 1 14d5 11 6",
   "f 2cc8 c 3 3 9c0 5 3b 7 418 1 3f 4 51 1 4cb8 2 1 4 125c 2e 2 17 220 3 9 10 2 7 1e 4 94 3",
   "7bb 37 4 32 8 1 e 1 16 5 1 f 550 7 1 11 2 7 1 2 1 5 64 1 a0 7 177 1 3d 4 1fc 4 fe 2 f3 1",
   "2 1 7 2 5 1 1da 7 6d 8 c16b5 1 1e 60 80 f0"]

/-- How a letter is joined to its neighbours. -/
inductive Joining where
  /-- On both sides. -/
  | both
  /-- To the letter that follows. -/
  | left
  /-- To the letter before. -/
  | right
  /-- As if it was not there. -/
  | transparent
  /-- Not at all, or in another way. -/
  | none
  deriving DecidableEq, Repr

/-- The letters that are joined on both sides. -/
def bothRanges : List (Nat × Nat) := Unicode.ranges bothTable

/-- The letters that are joined to the letter that follows. -/
def leftRanges : List (Nat × Nat) := Unicode.ranges leftTable

/-- The letters that are joined to the letter before. -/
def rightRanges : List (Nat × Nat) := Unicode.ranges rightTable

/-- The characters that joining passes over. -/
def transparentRanges : List (Nat × Nat) := Unicode.ranges transparentTable

/-- How a letter is joined to its neighbours. -/
def joining (n : Nat) : Joining :=
  if Text.inRanges n bothRanges then .both
  else if Text.inRanges n leftRanges then .left
  else if Text.inRanges n rightRanges then .right
  else if Text.inRanges n transparentRanges then .transparent
  else .none

/-! ### Directions -/

/-- The characters from right to left. -/
def rightToLeftTable : List String :=
  ["5d0 25 1cb 2b 9 2 a 16 4 1 9 1 3 1 17 19 ffa7 201 f 26 2a 85 1b 1f3 18d 2a 6 78 48 12 2e",
   "47 d809 c5 5d 22 7 f"]

/-- The letters of Arabic scripts. -/
def arabicTable : List String :=
  ["620 2b 23 2 1 65 f 2 7 2 a 17 1 1e 1d 59 b 1 ae 2f 11 2a f5a9 1 e8c 24 20c 16"]

/-- The marks. -/
def bidiMarkTable : List String :=
  ["300 70 113 5 109 37 48 b 30 15 10 1 65 f 2 7 23 1 1e 1b 5b b 3a 9 9 1 18 4 1 9 1 3 1 5 2b",
   "3 3c 8 2a 39 37 1 1 1 4 8 4 1 3 7 a 2 1d 1 3a 1 4 4 8 1 14 2 1a 5 39 1 4 11 1e 2 3 e 39 1",
   "4 8 4 1 14 2 16 8 3a 1 2 1 1 4 8 a b 2 1e 1 3d 1 c 1 32 1 3 1 37 1 1 3 5 11 b 2 1d 1 3a 1",
   "f 2 14 2 1c 2 39 2 4 4 8 1 14 2 1d 1 48 1 7 5 5a 1 2 7 c 8 62 1 2 9 b 6 4a 2 1b 5 37 e 1",
   "8 5 3a 66 4 1 6 1 2 2 2 19 2 4 3 10 4 d 1 2 2 6 1 f 1 2bf 3 3b2 3 1d 2 1e 2 1e 2 43 7 8 1",
   "2 b 9 1 a7 2 22 1 76 3 4 2 9 1 6 3 db 2 2 1 3a 1 1 9 1 1 2 8 6 d 30 54 30 1 1 5 1 1 5 1",
   "28 17 20 4 2 2 1 3 38 1 1 2 3 1 1 3 3a 8 2 2 98 11 1 7 4 1 6 1 3 2 c6 40 eef 3 8d 1 60 20",
   "22a 4 6b 2 75d4 f 20 2 50 2 110 1 3 1 4 1 19 2 5 1 97 2 1a 12 d 1 26 8 19 b 2e 3 30 1 2 4",
   "2 2 27 1 43 6 2 2 2 2 c 1 8 1 2f 1 33 1 1 3 2 2 5 2 1 1 2a 2 8 1 ee 1 2 1 4 1 4f30 312",
   "3cd 1 e2 1 95 5 686 f 28 8 a5 2 23d 4 183 2 99 b 31 4 7b 1 36 f 29 1 2 2 a 3 31 4 2 a 3d",
   "3 24 5 1 8 3e 1 c 2 34 9 a 4 2 1 5f 3 2 1 1 9 a0 1 3 8 15 2 39 2 3 1 25 f c3 8 2 3 1 1 17",
   "1 54 6 1 1 4 2 1 2 ee 4 6 2 1 2 1b 2 55 8 2 1 1 2 6a 1 1 1 2 6 1 1 65 3 2 4 1 5 103 9 1 2",
   "100 2 1 1 4 1 90 8 4 1 20 6 2 2 28 6 2 d 9 6 2 3 2e d 1 2 196 e 54 16 2 7 1 2 1 2 7a 15 1",
   "1 48 2 3 1 1 1 15b 2 4bfb 5 3b 7 418 1 3f 4 51 1 4cb8 1e13 550 2b 105 7 177 1 3d 4 5e0 7",
   "6d 7"]

/-- The characters of no direction. -/
def neutralTable : List String :=
  ["b7 1 201 2 b a 1c 1 88 1 2ab9 1 2cb 1 7583 1 97 9 68 1"]

/-- The directions of characters. -/
inductive Direction where
  /-- From left to right. -/
  | leftToRight
  /-- From right to left. -/
  | rightToLeft
  /-- A letter of an Arabic script, from right to left. -/
  | arabic
  /-- A digit. -/
  | digit
  /-- An Arabic digit. -/
  | arabicDigit
  /-- A mark, which has the direction of what it goes with. -/
  | mark
  /-- A character of no direction. -/
  | neutral
  deriving DecidableEq, Repr

/-- The characters from right to left. -/
def rightToLeftRanges : List (Nat × Nat) := Unicode.ranges rightToLeftTable

/-- The letters of Arabic scripts. -/
def arabicRanges : List (Nat × Nat) := Unicode.ranges arabicTable

/-- The marks. -/
def bidiMarkRanges : List (Nat × Nat) := Unicode.ranges bidiMarkTable

/-- The characters of no direction. -/
def neutralRanges : List (Nat × Nat) := Unicode.ranges neutralTable

/-- The Arabic digits. -/
def arabicDigitRanges : List (Nat × Nat) := [(0x660, 0x669), (0x10D30, 0x10D39)]

/-- The digits of no script, and the eastern Arabic ones. -/
def digitRanges : List (Nat × Nat) := [(0x30, 0x39), (0x6F0, 0x6F9)]

/-- The direction of a character that is allowed in a label; it is not known for
characters without a form. -/
def direction? (n : Nat) : Option Direction :=
  if n = 0x200C ∨ n = 0x200D ∨ n = 0x2D then some .neutral
  else if !Text.isPrintable (Char.ofNat n) then none
  else if Text.inRanges n digitRanges then some .digit
  else if Text.inRanges n rightToLeftRanges then some .rightToLeft
  else if Text.inRanges n arabicRanges then some .arabic
  else if Text.inRanges n arabicDigitRanges then some .arabicDigit
  else if Text.inRanges n bidiMarkRanges then some .mark
  else if Text.inRanges n neutralRanges then some .neutral
  else some .leftToRight

/-! ### Scripts -/

/-- The Greek characters. -/
def greekRanges : List (Nat × Nat) :=
  [(0x370, 0x373), (0x375, 0x377), (0x37A, 0x37D), (0x37F, 0x37F), (0x384, 0x384),
   (0x386, 0x386), (0x388, 0x38A), (0x38C, 0x38C), (0x38E, 0x3A1), (0x3A3, 0x3E1),
   (0x3F0, 0x3FF), (0x1D26, 0x1D2A), (0x1D5D, 0x1D61), (0x1D66, 0x1D6A), (0x1DBF, 0x1DBF),
   (0x1F00, 0x1F15), (0x1F18, 0x1F1D), (0x1F20, 0x1F45), (0x1F48, 0x1F4D), (0x1F50, 0x1F57),
   (0x1F59, 0x1F59), (0x1F5B, 0x1F5B), (0x1F5D, 0x1F5D), (0x1F5F, 0x1F7D), (0x1F80, 0x1FB4),
   (0x1FB6, 0x1FC4), (0x1FC6, 0x1FD3), (0x1FD6, 0x1FDB), (0x1FDD, 0x1FEF), (0x1FF2, 0x1FF4),
   (0x1FF6, 0x1FFE), (0x2126, 0x2126), (0xAB65, 0xAB65), (0x10140, 0x1018E),
   (0x101A0, 0x101A0), (0x1D200, 0x1D245)]

/-- The Hebrew characters. -/
def hebrewRanges : List (Nat × Nat) :=
  [(0x591, 0x5C7), (0x5D0, 0x5EA), (0x5EF, 0x5F4), (0xFB1D, 0xFB36), (0xFB38, 0xFB3C),
   (0xFB3E, 0xFB3E), (0xFB40, 0xFB41), (0xFB43, 0xFB44), (0xFB46, 0xFB4F)]

/-- The syllable signs of Japanese. -/
def kanaRanges : List (Nat × Nat) :=
  [(0x3041, 0x3096), (0x309D, 0x309F), (0x30A1, 0x30FA), (0x30FD, 0x30FF), (0x31F0, 0x31FF),
   (0x32D0, 0x32FE), (0x3300, 0x3357), (0xFF66, 0xFF6F), (0xFF71, 0xFF9D), (0x1AFF0, 0x1AFF3),
   (0x1AFF5, 0x1AFFB), (0x1AFFD, 0x1AFFE), (0x1B000, 0x1B000), (0x1B001, 0x1B11F),
   (0x1B120, 0x1B122), (0x1B132, 0x1B132), (0x1B150, 0x1B152), (0x1B155, 0x1B155),
   (0x1B164, 0x1B167), (0x1F200, 0x1F200)]

/-- The Chinese characters. -/
def hanRanges : List (Nat × Nat) :=
  [(0x2E80, 0x2E99), (0x2E9B, 0x2EF3), (0x2F00, 0x2FD5), (0x3005, 0x3005), (0x3007, 0x3007),
   (0x3021, 0x3029), (0x3038, 0x303B), (0x3400, 0x4DBF), (0x4E00, 0x9FFF), (0xF900, 0xFA6D),
   (0xFA70, 0xFAD9), (0x16FE2, 0x16FE3), (0x16FF0, 0x16FF6), (0x20000, 0x2A6DF),
   (0x2A700, 0x2B81D), (0x2B820, 0x2CEAD), (0x2CEB0, 0x2EBE0), (0x2EBF0, 0x2EE5D),
   (0x2F800, 0x2FA1D), (0x30000, 0x3134A), (0x31350, 0x33479)]

/-- Whether a character is Greek. -/
def isGreek (n : Nat) : Bool := Text.inRanges n greekRanges

/-- Whether a character is Hebrew. -/
def isHebrew (n : Nat) : Bool := Text.inRanges n hebrewRanges

/-- Whether a character is a syllable sign of Japanese, or a Chinese character. -/
def isKanaOrHan (n : Nat) : Bool := Text.inRanges n kanaRanges || Text.inRanges n hanRanges

end JobHerald.Host
