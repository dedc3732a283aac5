import Mathlib.Algebra.Order.Ring.Int
import JobHerald.Message.Volume

/-!
# Volumes, rounded down

A number of bytes is divided by 1024 again and again, and cut each time.  This loses nothing
against one division, so that the number that is shown is the whole number of its unit, and a
larger volume is never shown as a smaller one.

## Main definitions

* `Volume.unitName` — the name of a unit, each of which is 1024 times the one before.
* `Volume.Shows` — the number and the unit that show a volume.

## Main results

* `Volume.exists_renderIn` — the number that is shown after so many divisions.
* `Volume.Shows.le` — larger volumes have larger units, or as many of the same unit at least.
* `Volume.render_rounds_down` — **every volume is rounded down to its largest unit**, and negative
  ones are shown as they are.
-/

namespace JobHerald.Volume

/-! ### Units -/

/-- The names of the units, the smallest one first. -/
def unitName : Fin 5 → String
  | 0 => "B"
  | 1 => "kB"
  | 2 => "MB"
  | 3 => "GB"
  | 4 => "TB"

/-- The units are tried in order, and there is one more. -/
theorem getElem?_units (k : Fin 5) : (units ++ ["TB"])[(k : Nat)]? = some (unitName k) := by
  decide +revert

/-- The number of units that shows a volume. -/
structure Shows (n : Int) (k : Fin 5) (q : Int) : Prop where
  /-- The number and the unit make up the text. -/
  text : render n = Text.decimal q ++ " " ++ unitName k
  /-- The volume is not below the number of units. -/
  lower : q * 1024 ^ (k : Nat) ≤ n
  /-- It does not make up one more. -/
  upper : n < (q + 1) * 1024 ^ (k : Nat)
  /-- The number does not make up a larger unit, unless there is none. -/
  below : k ≠ 4 → q < 1024
  /-- There is at least one of the unit, unless it is the smallest one. -/
  least : k ≠ 0 → 1 ≤ q

/-! ### Divisions one after the other -/

/-- Two divisions are one. -/
theorem ediv_pow_succ (n : Int) (k : Nat) : n / 1024 / 1024 ^ k = n / 1024 ^ (k + 1) := by
  rw [Int.ediv_ediv_of_nonneg (by decide), Int.pow_succ, Int.mul_comm]

/-- After so many divisions the number is shown: it is below 1024 then or there is no larger unit,
and it was not before. -/
theorem exists_renderIn (us : List String) (n : Int) :
    ∃ k unit, (us ++ ["TB"])[k]? = some unit ∧
      renderIn us n = Text.decimal (n / 1024 ^ k) ++ " " ++ unit ∧
      (k < us.length → n / 1024 ^ k < 1024) ∧ ∀ i < k, 1024 ≤ n / 1024 ^ i := by
  induction us generalizing n with
  | nil =>
    refine ⟨0, "TB", rfl, ?_, nofun, nofun⟩
    rw [Int.pow_zero, Int.ediv_one, renderIn, String.append_assoc]
    rfl
  | cons unit rest ih =>
    -- the number is shown in this unit, or is divided once more
    by_cases hn : n < 1024
    · refine ⟨0, unit, rfl, ?_, ?_, nofun⟩
      · rw [Int.pow_zero, Int.ediv_one, renderIn, if_pos hn]
      · rw [Int.pow_zero, Int.ediv_one]
        exact fun _ => hn
    · obtain ⟨k, name, hname, hrender, hbelow, hbefore⟩ := ih (n / 1024)
      rw [ediv_pow_succ] at hrender hbelow
      refine ⟨k + 1, name, hname, ?_, ?_, ?_⟩
      · rw [renderIn, if_neg hn, hrender]
      · exact fun hk => hbelow (Nat.lt_of_succ_lt_succ hk)
      · intro i hi
        cases i with
        -- the first division was made since the number is not below 1024
        | zero =>
          rw [Int.pow_zero, Int.ediv_one]
          exact Int.not_lt.mp hn
        | succ i =>
          rw [← ediv_pow_succ]
          exact hbefore i (Nat.lt_of_succ_lt_succ hi)

/-! ### The number that is shown -/

theorem scale_pos (k : Nat) : (0 : Int) < 1024 ^ k := Int.pow_pos (by decide)

/-- One division gives the number of the unit that is shown. -/
theorem exists_shows (n : Int) : ∃ k : Fin 5, Shows n k (n / 1024 ^ (k : Nat)) := by
  obtain ⟨k, unit, hunit, hrender, hbelow, hbefore⟩ := exists_renderIn units n
  have hk : k < 5 := (List.getElem?_eq_some_iff.mp hunit).1
  rw [getElem?_units ⟨k, hk⟩, Option.some.injEq] at hunit
  refine ⟨⟨k, hk⟩, ?_, Int.ediv_mul_le n (Int.ne_of_gt (scale_pos k)), ?_, ?_, ?_⟩
  · rw [render, hrender, hunit]
  · exact Int.lt_ediv_add_one_mul_self n (scale_pos k)
  · intro hlast
    refine hbelow ?_
    have hne : k ≠ 4 := fun h => hlast (Fin.ext h)
    have hlength : units.length = 4 := rfl
    omega
  · intro hfirst
    obtain ⟨i, rfl⟩ : ∃ i, k = i + 1 :=
      Nat.exists_eq_succ_of_ne_zero fun h => hfirst (Fin.ext h)
    -- there were 1024 of the unit before
    have hone := hbefore i (Nat.lt_succ_self i)
    have hnext : n / 1024 ^ (i + 1) = n / 1024 ^ i / 1024 := by
      rw [Int.pow_succ, Int.ediv_ediv_of_nonneg (Int.le_of_lt (scale_pos i))]
    show 1 ≤ n / 1024 ^ (i + 1)
    omega

variable {m n q r : Int} {k l : Fin 5}

theorem Shows.number_eq (h : Shows n k q) : q = n / 1024 ^ (k : Nat) := by
  refine Int.le_antisymm ?_ ?_
  · exact Int.le_ediv_of_mul_le (scale_pos k) h.lower
  · exact Int.le_of_lt_add_one (Int.ediv_lt_of_lt_mul (scale_pos k) h.upper)

/-- There is at least one of its unit in a volume, unless there is nothing. -/
theorem Shows.one_le (h : Shows n k q) (hpos : 0 < n) : 1 ≤ q := by
  by_cases hk : k = 0
  · subst hk
    have hupper := h.upper
    simp only [Fin.val_zero, Int.pow_zero, Int.mul_one] at hupper
    omega
  · exact h.least hk

/-- A volume in a smaller unit is below one of the larger unit. -/
theorem Shows.lt_pow (h : Shows n l r) (hkl : l < k) : n < 1024 ^ (k : Nat) := by
  have hlast : l ≠ 4 := by omega
  have hkl : (l : Nat) + 1 ≤ k := hkl
  have hr : r + 1 ≤ 1024 := h.below hlast
  calc n < (r + 1) * 1024 ^ (l : Nat) := h.upper
    _ ≤ 1024 * 1024 ^ (l : Nat) := Int.mul_le_mul_of_nonneg_right hr (Int.le_of_lt (scale_pos l))
    _ = 1024 ^ ((l : Nat) + 1) := by rw [Int.pow_succ, Int.mul_comm]
    _ ≤ 1024 ^ (k : Nat) := pow_le_pow_right₀ (by decide) hkl

/-- Larger volumes have larger units, or at least as many of the same unit. -/
theorem Shows.le (hm : Shows m k q) (hn : Shows n l r) (h : m ≤ n) : k < l ∨ k = l ∧ q ≤ r := by
  rcases Nat.lt_trichotomy (k : Nat) l with hlt | heq | hgt
  · exact .inl hlt
  · obtain rfl : k = l := Fin.ext heq
    refine .inr ⟨rfl, ?_⟩
    rw [hm.number_eq, hn.number_eq]
    exact Int.ediv_le_ediv (scale_pos k) h
  · -- there is one of the larger unit in the smaller volume, which the larger one is below
    exfalso
    have hone : 1 ≤ q := hm.least (by omega)
    have hlower : 1024 ^ (k : Nat) ≤ m :=
      calc (1024 : Int) ^ (k : Nat) = 1 * 1024 ^ (k : Nat) := (Int.one_mul _).symm
        _ ≤ q * 1024 ^ (k : Nat) := Int.mul_le_mul_of_nonneg_right hone (Int.le_of_lt (scale_pos k))
        _ ≤ m := hm.lower
    have hupper := hn.lt_pow hgt
    omega

/-- **Every volume is rounded down to its largest unit**, as by one division; of two volumes the
larger one has the larger unit, or at least as many of the same; and a negative volume is shown as
it is. -/
theorem render_rounds_down :
    (∀ n, ∃ k q, Shows n k q ∧ q = n / 1024 ^ (k : Nat) ∧ (0 < n → 1 ≤ q)) ∧
    (∀ m n k l q r, m ≤ n → Shows m k q → Shows n l r → k < l ∨ k = l ∧ q ≤ r) ∧
    ∀ n, n < 0 → render n = Text.decimal n ++ " B" := by
  refine ⟨fun n => ?_, fun m n k l q r h hm hn => hm.le hn h, fun n hn => ?_⟩
  · obtain ⟨k, hk⟩ := exists_shows n
    exact ⟨k, _, hk, rfl, hk.one_le⟩
  · have hsmall : n < 1024 := by omega
    rw [render, units, renderIn, if_pos hsmall, String.append_assoc]
    rfl

/-- The last byte below a unit makes the difference, and what is negative has no larger unit. -/
theorem render_rounds_down_edge :
    Shows 1048575 1 1023 ∧ Shows 1048576 2 1 ∧
      ((1 : Fin 5) < 2 ∨ (1 : Fin 5) = 2 ∧ (1023 : Int) ≤ 1) ∧ render (-5000) = "-5000 B" := by
  have hbelow : Shows 1048575 1 1023 := by constructor <;> decide +kernel
  have habove : Shows 1048576 2 1 := by constructor <;> decide +kernel
  obtain ⟨-, hmono, hnegative⟩ := render_rounds_down
  refine ⟨hbelow, habove, hmono _ _ _ _ _ _ (by decide) hbelow habove, ?_⟩
  rw [hnegative (-5000) (by decide)]
  decide

end JobHerald.Volume
