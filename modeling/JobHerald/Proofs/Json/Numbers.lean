import JobHerald.Proofs.Json.Strings

/-!
# Integers that are printed

A printed integer is read as itself, at the end of a text or in front of what may follow a value
inside a list or an object.  Its digits must be within the limit of digits that are read.

## Main definitions

* `Json.Closes` — what may follow a value inside a list or an object.

## Main results

* `Json.readNat?_toDigits` — the digits of a number write it.
* `Json.readUnsigned_toDigits` — the digits are read up to the end of the value.
* `Json.readPlain_decimal` — **a printed integer is read as itself.**
-/

namespace JobHerald.Json

open JobHerald.Text

/-! ### Ends of values -/

/-- What may follow a value inside a list or an object, or at the end of a text. -/
def Closes (rest : List Char) : Prop := ∀ c ∈ rest.head?, c = ',' ∨ c = ']' ∨ c = '\x7d'

theorem closes_nil : Closes [] := by simp [Closes]

theorem closes_cons {c : Char} {rest : List Char} :
    Closes (c :: rest) ↔ c = ',' ∨ c = ']' ∨ c = '\x7d' := by simp [Closes]

/-! ### Digits -/

theorem toNat_of_isDigit {c : Char} (h : c.isDigit = true) : 48 ≤ c.toNat ∧ c.toNat ≤ 57 := by
  simpa [Char.isDigit, UInt32.le_iff_toNat_le] using h

theorem isDigit_of_mem_toDigits {n : Nat} {c : Char} (h : c ∈ Nat.toDigits 10 n) :
    c.isDigit = true :=
  Nat.isDigit_of_mem_toDigits (by decide) (by decide) h

/-- The digits of a number end where a value does. -/
theorem spanDigits_toDigits (n : Nat) {rest : List Char} (h : Closes rest) :
    spanDigits (Nat.toDigits 10 n ++ rest) = (Nat.toDigits 10 n, rest) := by
  have hdigits : ∀ c ∈ Nat.toDigits 10 n, c.isDigit = true := fun c hc => isDigit_of_mem_toDigits hc
  have hrest : rest.takeWhile Char.isDigit = [] ∧ rest.dropWhile Char.isDigit = rest := by
    cases rest with
    | nil => exact ⟨rfl, rfl⟩
    | cons c rest =>
      rcases closes_cons.mp h with rfl | rfl | rfl <;> exact ⟨rfl, rfl⟩
  rw [spanDigits, List.takeWhile_append_of_pos hdigits, List.dropWhile_append_of_pos hdigits,
    hrest.1, hrest.2, List.append_nil]

/-- Only zero begins with a zero. -/
theorem exists_toDigits_of_pos {n : Nat} (h : 0 < n) :
    ∃ d ds, Nat.toDigits 10 n = d :: ds ∧ d ≠ '0' := by
  induction n using Nat.strongRecOn with
  | ind n ih =>
    rcases Nat.lt_or_ge n 10 with hlt | hge
    · have hdigit : ∀ m < 10, 0 < m → m.digitChar ≠ '0' := by decide
      exact ⟨_, [], Nat.toDigits_of_lt_base hlt, hdigit n hlt h⟩
    · obtain ⟨d, ds, heq, hd⟩ := ih (n / 10) (by omega) (by omega)
      exact ⟨d, _, by rw [Nat.toDigits_of_base_le (by decide) hge, heq, List.cons_append], hd⟩

theorem mapM_digitValue? {cs : List Char} (h : ∀ c ∈ cs, c.isDigit = true) :
    cs.mapM digitValue? = some (cs.map fun c => c.toNat - 48) := by
  induction cs with
  | nil => rfl
  | cons c cs ih =>
    have hc := toNat_of_isDigit (h c List.mem_cons_self)
    rw [List.mapM_cons, digitValue?, if_pos hc, ih fun d hd => h d (List.mem_cons_of_mem c hd)]
    rfl

theorem ofDigits_eq_ofDigitChars (cs : List Char) :
    ofDigits 10 (cs.map fun c => c.toNat - 48) = Nat.ofDigitChars 10 cs 0 := by
  rw [ofDigits, List.foldl_map, Nat.ofDigitChars_eq_foldl]
  simp only [Nat.mul_comm]
  rfl

/-- The digits of a number write it: reading them gives the number back. -/
theorem readNat?_toDigits (n : Nat) : readNat? (Nat.toDigits 10 n) = some n := by
  have hne : (Nat.toDigits 10 n).isEmpty = false := by
    rw [List.isEmpty_eq_false_iff]
    exact Nat.toDigits_ne_nil
  rw [readNat?, hne, mapM_digitValue? fun c hc => isDigit_of_mem_toDigits hc]
  show some (ofDigits 10 _) = _
  rw [ofDigits_eq_ofDigitChars, Nat.ofDigitChars_ten_toDigits]

/-- A number within the limit of digits has no more digits than are read. -/
theorem length_toDigits_le {n : Nat} (h : Text.isWithinLimit n = true) :
    (Nat.toDigits 10 n).length ≤ digitLimit := by
  -- the limit is kept out of sight, since its power of ten is not to be computed
  have hlength : ∀ k, 0 < k → (n : Int).natAbs < Nat.pow 10 k → (Nat.toDigits 10 n).length ≤ k :=
    fun k hk hn => (Nat.length_toDigits_le_iff (by decide) hk).mpr hn
  rw [Text.isWithinLimit, decide_eq_true_iff] at h
  exact hlength digitLimit (by decide) h

/-! ### Numbers -/

/-- A printed number is read as itself, with the sign that has been read before. -/
theorem readUnsigned_toDigits (negative : Bool) {n : Nat} {rest : List Char}
    (hn : Text.isWithinLimit n = true) (h : Closes rest) :
    readUnsigned negative (Nat.toDigits 10 n ++ rest)
      = .ok (int (if negative then -(n : Int) else n), rest) := by
  have hne : (Nat.toDigits 10 n).isEmpty = false := by
    rw [List.isEmpty_eq_false_iff]
    exact Nat.toDigits_ne_nil
  -- what closes a value begins neither a fraction nor an exponent
  have hfraction : readFraction rest = ([], rest) := by
    cases rest with
    | nil => rfl
    | cons c rest => rcases closes_cons.mp h with rfl | rfl | rfl <;> rfl
  have hexponent : readExponent rest = none := by
    cases rest with
    | nil => rfl
    | cons c rest => rcases closes_cons.mp h with rfl | rfl | rfl <;> rfl
  have hnumber : numberOf negative (Nat.toDigits 10 n) [] none
      = .ok (int (if negative then -(n : Int) else n)) := by
    simp only [numberOf, List.append_nil, readNat?_toDigits, Option.getD_some, Option.isSome_none,
      List.isEmpty_nil, Bool.not_true, Bool.or_self, Bool.false_eq_true, if_false,
      if_neg (Nat.not_lt.mpr (length_toDigits_le hn))]
  rw [readUnsigned.eq_def]
  split
  next whole rest' hfound =>
    have hwhole : (whole, rest') = (Nat.toDigits 10 n, rest) := by
      rw [← hfound]
      rcases Nat.eq_zero_or_pos n with rfl | hpos
      -- zero is read as a single digit
      · rfl
      · obtain ⟨d, ds, heq, hd⟩ := exists_toDigits_of_pos hpos
        have hspan := spanDigits_toDigits n h
        rw [heq] at hspan ⊢
        rw [List.cons_append] at hspan ⊢
        split
        · next hcons => exact absurd (List.cons.inj hcons).1 hd
        · exact hspan
    obtain ⟨rfl, rfl⟩ := Prod.mk.inj hwhole
    simp only [hne, hfraction, hexponent, hnumber, Bool.false_eq_true, if_false]
    rfl

theorem ne_of_isDigit {c d : Char} (hc : c.isDigit = true) (hd : d.isDigit = false) : d ≠ c := by
  rintro rfl
  rw [hc] at hd
  contradiction

/-- No word for a value begins with a digit. -/
theorem readPlain_of_isDigit {c : Char} (h : c.isDigit = true) (cs : List Char) :
    readPlain (c :: cs) = readUnsigned false (c :: cs) := by
  rw [readPlain, List.find?_eq_none.mpr (by simp (disch := decide) [valueWords, ne_of_isDigit h])]
  show readNumber (c :: cs) = _
  rw [readNumber.eq_def]
  split
  · next hcons =>
    obtain ⟨rfl, -⟩ := List.cons.inj hcons
    exact absurd h (by decide)
  · rfl

/-- No word for a value begins with a sign and a digit. -/
theorem readPlain_minus {c : Char} (h : c.isDigit = true) (cs : List Char) :
    readPlain ('-' :: c :: cs) = readUnsigned true (c :: cs) := by
  have hne : 'I' ≠ c := ne_of_isDigit h (by decide)
  rw [readPlain, List.find?_eq_none.mpr (by simp [valueWords, hne])]
  rfl

/-- A printed number begins with a digit. -/
theorem exists_toDigits (n : Nat) : ∃ d ds, Nat.toDigits 10 n = d :: ds ∧ d.isDigit = true := by
  obtain ⟨d, ds, heq⟩ := List.exists_cons_of_ne_nil (Nat.toDigits_ne_nil (n := n) (b := 10))
  exact ⟨d, ds, heq, isDigit_of_mem_toDigits (by rw [heq]; exact List.mem_cons_self)⟩

theorem decimal_ofNat (n : Nat) : (Text.decimal n).toList = Nat.toDigits 10 n := Nat.toList_repr

theorem decimal_negSucc (n : Nat) :
    (Text.decimal (Int.negSucc n)).toList = '-' :: Nat.toDigits 10 (n + 1) := by
  show ("-" ++ Nat.repr (n + 1)).toList = _
  rw [String.toList_append, Nat.toList_repr]
  rfl

/-- **A printed integer is read as itself**, if it can be read at all: the reader has a limit of
digits. -/
theorem readPlain_decimal {n : Int} {rest : List Char} (hn : Text.isWithinLimit n = true)
    (h : Closes rest) : readPlain ((Text.decimal n).toList ++ rest) = .ok (int n, rest) := by
  cases n with
  | ofNat n =>
    obtain ⟨d, ds, heq, hd⟩ := exists_toDigits n
    have hread := readUnsigned_toDigits false hn h
    rw [heq] at hread
    rw [Int.ofNat_eq_natCast, decimal_ofNat, heq, List.cons_append, readPlain_of_isDigit hd]
    exact hread
  | negSucc n =>
    -- the minus sign is read first, and the digits after it as before
    obtain ⟨d, ds, heq, hd⟩ := exists_toDigits (n + 1)
    have hread := readUnsigned_toDigits true (n := n + 1) hn h
    rw [heq] at hread
    rw [decimal_negSucc, heq, List.cons_append, List.cons_append, readPlain_minus hd]
    exact hread

end JobHerald.Json
