import JobHerald.Json.Parser
import JobHerald.Json.Printer

/-!
# Strings that are printed

A printed string has ASCII characters only, and reading it gives back every character of it:
quotes and backslashes after a backslash, control characters by their letters or as escapes,
and characters beyond the first plane as pairs of surrogates.

## Main definitions

* `Text.IsAscii` — characters that are all ASCII.

## Main results

* `Json.readUnit_hexPadded` — the digits of a UTF-16 unit are read as the unit.
* `Json.escape_eq` — a character is written as an escape, or stands for itself.
* `Json.readChars_escape` — an escape is read as its character.
* `Json.readString_escape` — **a printed string is read as itself.**
-/

namespace JobHerald

/-! ### ASCII -/

/-- Characters that are all ASCII. -/
def Text.IsAscii (cs : List Char) : Prop := ∀ c ∈ cs, c.toNat < 128

namespace Text

@[simp] theorem isAscii_nil : IsAscii [] := by simp [IsAscii]

@[simp] theorem isAscii_cons {c : Char} {cs : List Char} :
    IsAscii (c :: cs) ↔ c.toNat < 128 ∧ IsAscii cs := by simp [IsAscii]

@[simp] theorem isAscii_append {cs ds : List Char} :
    IsAscii (cs ++ ds) ↔ IsAscii cs ∧ IsAscii ds := by
  simp [IsAscii, or_imp, forall_and]

theorem toNat_hexDigit_lt : ∀ d < 16, (hexDigit d).toNat < 128 := by decide

theorem hexValue?_hexDigit : ∀ d < 16, hexValue? (hexDigit d) = some d := by decide

theorem isAscii_hexPadded (width n : Nat) : IsAscii (hexPadded width n) := by
  induction width generalizing n with
  | zero => exact isAscii_nil
  | succ width ih =>
    rw [hexPadded, isAscii_append]
    exact ⟨ih _, by simpa using toNat_hexDigit_lt (n % 16) (by omega)⟩

end Text

namespace Json

open JobHerald.Text

/-! ### UTF-16 units -/

/-- The digits of a UTF-16 unit are read as the unit. -/
theorem readUnit_hexPadded {n : Nat} (h : n < 0x10000) (rest : List Char) :
    readUnit (hexPadded 4 n ++ rest) = .ok (n, rest) := by
  have hvalue : ∀ m, hexValue? (hexDigit (m % 16)) = some (m % 16) :=
    fun m => hexValue?_hexDigit _ (by omega)
  have hsum : ((n / 16 / 16 / 16 % 16 * 16 + n / 16 / 16 % 16) * 16 + n / 16 % 16) * 16 + n % 16
      = n := by omega
  simp only [hexPadded, List.nil_append, List.cons_append, readUnit, hvalue, hsum]

/-- A unit that is no surrogate stands for itself. -/
theorem readSurrogate_of_lt {n : Nat} (h : n < 0xD800 ∨ 0xDFFF < n) (rest : List Char) :
    readSurrogate n rest = (Char.ofNat n, rest) := by
  have halone : ¬(0xD800 ≤ n ∧ n < 0xE000) := by omega
  have hhigh : ¬(0xD800 ≤ n ∧ n < 0xDC00) := by omega
  simp only [readSurrogate.eq_def, halone, hhigh, if_false]

/-- A high surrogate takes the low one behind it with it. -/
theorem readSurrogate_pair {n : Nat} (h : n < 0x100000) (rest : List Char) :
    readSurrogate (0xD800 + n / 0x400) (unitEscape (0xDC00 + n % 0x400) ++ rest)
      = (Char.ofNat (0x10000 + n), rest) := by
  have hlow := readUnit_hexPadded (n := 0xDC00 + n % 0x400) (by omega) rest
  have hsum : 0x10000 + (0xD800 + n / 0x400 - 0xD800) * 0x400
      + (0xDC00 + n % 0x400 - 0xDC00) = 0x10000 + n := by omega
  have hhigh : 0xD800 ≤ 0xD800 + n / 0x400 ∧ 0xD800 + n / 0x400 < 0xDC00 := by omega
  have hpair : 0xDC00 ≤ 0xDC00 + n % 0x400 ∧ 0xDC00 + n % 0x400 < 0xE000 := by omega
  rw [readSurrogate.eq_def]
  simp only [hhigh, and_self, if_true, unitEscape, List.cons_append, hlow, hpair, hsum]

/-! ### Characters -/

theorem isAscii_unitEscape (n : Nat) : IsAscii (unitEscape n) := by
  simp [unitEscape, isAscii_hexPadded]

/-- A character as UTF-16 escapes, whatever its plane: one unit, or two beyond the first plane. -/
theorem codeEscape_eq (c : Char) : ∃ tail, codeEscape c.toNat = '\\' :: tail ∧ IsAscii tail ∧
    ∀ rest, readEscape (tail ++ rest) = .ok (c, rest) := by
  have hvalid : c.toNat < 0xD800 ∨ 0xDFFF < c.toNat ∧ c.toNat < 0x110000 := c.valid
  rw [codeEscape]
  split
  -- one unit, which is no surrogate
  · next hsmall =>
    refine ⟨_, rfl, (isAscii_cons.mp (isAscii_unitEscape c.toNat)).2, fun rest => ?_⟩
    show (readUnit (hexPadded 4 c.toNat ++ rest)).map _ = _
    rw [readUnit_hexPadded hsmall]
    show Except.ok (readSurrogate c.toNat rest) = _
    rw [readSurrogate_of_lt (by omega), Char.ofNat_toNat]
  -- two units, which are put together again
  · next hlarge =>
    have hascii : IsAscii (unitEscape (0xD800 + (c.toNat - 0x10000) / 0x400)
        ++ unitEscape (0xDC00 + (c.toNat - 0x10000) % 0x400)) :=
      isAscii_append.mpr ⟨isAscii_unitEscape _, isAscii_unitEscape _⟩
    refine ⟨_, rfl, (isAscii_cons.mp hascii).2, fun rest => ?_⟩
    rw [List.append_eq, List.append_assoc]
    show (readUnit (hexPadded 4 (0xD800 + (c.toNat - 0x10000) / 0x400) ++ _)).map _ = _
    rw [readUnit_hexPadded (by omega)]
    show Except.ok (readSurrogate (0xD800 + (c.toNat - 0x10000) / 0x400) _) = _
    have hsum : 0x10000 + (c.toNat - 0x10000) = c.toNat := by omega
    rw [readSurrogate_pair (by omega), hsum, Char.ofNat_toNat]

/-- A character is written as an escape that is read as it, or else it stands for itself. -/
theorem escape_eq (c : Char) :
    (∃ tail, escape c = '\\' :: tail ∧ IsAscii tail ∧
      ∀ rest, readEscape (tail ++ rest) = .ok (c, rest)) ∨
    (escape c = [c] ∧ c ≠ '"' ∧ c ≠ '\\' ∧ 0x20 ≤ c.toNat ∧ c.toNat ≤ 0x7E) := by
  -- seven characters have escapes of their own
  by_cases hshort : c ∈ ['"', '\\', '\n', '\r', '\t', Char.ofNat 8, Char.ofNat 12]
  · left
    simp only [List.mem_cons, List.not_mem_nil, or_false] at hshort
    rcases hshort with rfl | rfl | rfl | rfl | rfl | rfl | rfl
    all_goals exact ⟨_, rfl, by simp, fun rest => rfl⟩
  · simp only [List.mem_cons, List.not_mem_nil, or_false, not_or] at hshort
    obtain ⟨hquote, hslash, h₁, h₂, h₃, h₄, h₅⟩ := hshort
    simp only [escape, hquote, hslash, h₁, h₂, h₃, h₄, h₅, if_false]
    -- the others stand for themselves if they are printable ASCII
    by_cases hplain : 0x20 ≤ c.toNat ∧ c.toNat ≤ 0x7E
    · exact .inr ⟨if_pos hplain, hquote, hslash, hplain⟩
    · rw [if_neg hplain]
      exact .inl (codeEscape_eq c)

theorem isAscii_escape (c : Char) : IsAscii (escape c) := by
  rcases escape_eq c with ⟨tail, heq, htail, -⟩ | ⟨heq, -, -, -, hle⟩
  · rw [heq]
    exact isAscii_cons.mpr ⟨by decide, htail⟩
  · rw [heq]
    exact isAscii_cons.mpr ⟨by omega, isAscii_nil⟩

theorem length_escape_pos (c : Char) : 0 < (escape c).length := by
  rcases escape_eq c with ⟨tail, heq, -⟩ | ⟨heq, -⟩ <;> simp [heq]

/-- **An escape is read as its character**, and reading goes on behind it. -/
theorem readChars_escape (n : Nat) (c : Char) (rest : List Char) :
    readChars (n + 1) (escape c ++ rest)
      = (readChars n rest).map fun (ds, rest) => (c :: ds, rest) := by
  rcases escape_eq c with ⟨tail, heq, -, hread⟩ | ⟨heq, hquote, hslash, hle, -⟩
  · rw [heq, List.cons_append, readChars, if_neg (by decide), if_pos rfl, hread]
  · rw [heq, List.singleton_append, readChars, if_neg hquote, if_neg hslash, if_neg (by omega)]

/-! ### Strings -/

theorem isAscii_printString (s : String) : IsAscii (printString s) := by
  simp only [printString, isAscii_cons, isAscii_append, isAscii_nil, and_true]
  refine ⟨by decide, fun c hc => ?_, by decide⟩
  obtain ⟨d, -, hd⟩ := List.mem_flatMap.mp hc
  exact isAscii_escape d c hd

theorem length_le_flatMap_escape (cs : List Char) : cs.length ≤ (cs.flatMap escape).length := by
  induction cs with
  | nil => exact Nat.le_refl _
  | cons c cs ih =>
    have hpos := length_escape_pos c
    rw [List.flatMap_cons, List.length_append, List.length_cons]
    omega

theorem readChars_flatMap (cs rest : List Char) {n : Nat} (h : cs.length < n) :
    readChars n (cs.flatMap escape ++ '"' :: rest) = .ok (cs, rest) := by
  induction cs generalizing n with
  | nil =>
    obtain ⟨n, rfl⟩ := Nat.exists_eq_add_one.mpr h
    rfl
  | cons c cs ih =>
    obtain ⟨n, rfl⟩ := Nat.exists_eq_add_one.mpr (Nat.zero_lt_of_lt h)
    rw [List.flatMap_cons, List.append_assoc, readChars_escape, ih (Nat.lt_of_succ_lt_succ h)]
    rfl

/-- **A printed string is read as itself**, up to its closing quote; quotes in it are escaped. -/
theorem readString_escape (s : String) (rest : List Char) :
    readString (s.toList.flatMap escape ++ '"' :: rest) = .ok (s, rest) := by
  have hlength := length_le_flatMap_escape s.toList
  rw [readString, readChars_flatMap _ _ (by rw [List.length_append]; omega)]
  show Except.ok (String.ofList s.toList, rest) = _
  rw [String.ofList_toList]

end Json

end JobHerald
