import JobHerald.Proofs.Calendar.Span
import JobHerald.Proofs.Message.Seconds
import JobHerald.Proofs.Message.Words

/-!
# Durations in two units

The time between two readings of a clock is cut to whole seconds, and shown in the two coarsest
units of which there is at least one.  Divisions toward zero one after the other lose nothing
against one division, and treat both signs alike: a time into the past is shown with the numbers of
the same time into the future, all of them negative.

## Main definitions

* `TimeUnit.label`, `Duration.spell` — numbers with their units in a message.
* `Duration.Shows` — the numbers and units that show a number of seconds.

## Main results

* `Duration.split_mul` — quotients and remainders toward zero keep a sign.
* `Duration.coarse_mul` — the numbers that are shown of a number of seconds, with its sign.
* `Duration.between_eq` — the text is decided by the span.
* `Duration.between_shows` — **a time is shown exactly, cut to its two coarsest units, and alike in
  both directions.**
-/

namespace JobHerald

/-- The unit after a number in a message. -/
def TimeUnit.label : TimeUnit → String
  | day => "days"
  | hour => "hours"
  | minute => "min"
  | second => "sec"

namespace Duration

/-! ### Numbers with units -/

/-- Numbers with their units, one after the other. -/
def spell (shown : List (Int × TimeUnit)) : String :=
  Text.joined " " (shown.map fun (n, u) => Text.decimal n ++ " " ++ u.label)

/-- The longer and the shorter of the two units for a number of seconds that makes up a minute. -/
def coarseUnits (size : Nat) : TimeUnit × TimeUnit :=
  if size < 3600 then (.minute, .second)
  else if size < 86400 then (.hour, .minute)
  else (.day, .hour)

/-- What shows a number of seconds. -/
inductive Shows (t : Int) : List (Int × TimeUnit) → Prop
  /-- Less than a minute is shown in seconds. -/
  | seconds (h : t.natAbs < 60) : Shows t [(t, .second)]
  /-- A longer time is cut toward zero to a whole number of the shorter of two units.  The second
  number does not make up another one of the longer unit, and has the sign of the first. -/
  | units {q r : Int} {long short : TimeUnit} (hlong : 60 ≤ t.natAbs)
      (hunits : coarseUnits t.natAbs = (long, short)) (hq : q ≠ 0)
      (hr : r.natAbs * short.seconds < long.seconds) (hsign : r = 0 ∨ r.sign = q.sign)
      (hsum : q * long.seconds + r * short.seconds = t.tdiv short.seconds * short.seconds) :
      Shows t [(q, long), (r, short)]

/-- The numbers and units for a number of seconds. -/
def coarseParts (n : Nat) : List (Nat × TimeUnit) :=
  if n < 60 then [(n, .second)]
  else if n < 3600 then [(n / 60, .minute), (n % 60, .second)]
  else if n < 86400 then [(n / 3600, .hour), (n / 60 % 60, .minute)]
  else [(n / 86400, .day), (n / 3600 % 24, .hour)]

/-- Numbers with a sign. -/
def signed (sign : Int) (parts : List (Nat × TimeUnit)) : List (Int × TimeUnit) :=
  parts.map fun (n, u) => (sign * n, u)

variable {sign : Int}

/-- Quotient and remainder toward zero keep a sign: both are those of the absolute value, with the
sign. -/
theorem split_mul (h : sign = 1 ∨ sign = -1) (n unit : Nat) :
    split (sign * n) unit = (sign * (n / unit : Nat), sign * (n % unit : Nat)) := by
  rcases h with rfl | rfl
  · simp only [Int.one_mul]
    rfl
  · simp only [Int.neg_one_mul, split, Int.neg_tdiv, Int.neg_tmod]
    rfl

/-- A number with its unit. -/
theorem spell_single (n : Int) (unit : TimeUnit) :
    spell [(n, unit)] = Text.decimal n ++ (" " ++ unit.label) := String.append_assoc

/-- Two numbers with their units. -/
theorem spell_pair (q r : Int) (long short : TimeUnit) :
    spell [(q, long), (r, short)]
      = Text.decimal q ++ (" " ++ long.label ++ " ") ++ Text.decimal r ++ (" " ++ short.label) := by
  simp [spell, Text.joined, String.append_assoc]

/-- The numbers that are shown of a number of seconds, with its sign: they are those of the absolute
value, each with the sign. -/
theorem coarse_mul (h : sign = 1 ∨ sign = -1) (n : Nat) :
    coarse (sign * n) = spell (signed sign (coarseParts n)) := by
  -- the sign does not decide which units are zero
  have hzero : ∀ k : Nat, sign * (k : Int) = 0 ↔ k = 0 := by
    intro k
    rcases h with rfl | rfl <;> omega
  -- each unit is divided out of the one before
  have hhours : n / 60 / 60 = n / 3600 := Nat.div_div_eq_div_mul n 60 60
  have hdays : n / 3600 / 24 = n / 86400 := Nat.div_div_eq_div_mul n 3600 24
  simp only [coarse, split_mul h, hzero, hhours, hdays, coarseParts]
  by_cases hminute : n < 60
  · rw [if_pos (by omega), if_pos hminute, Nat.mod_eq_of_lt hminute]
    exact (spell_single _ .second).symm
  · rw [if_neg (by omega), if_neg hminute]
    by_cases hhour : n < 3600
    · rw [if_pos (by omega), if_pos hhour, Nat.mod_eq_of_lt (by omega : n / 60 < 60)]
      exact (spell_pair _ _ .minute .second).symm
    · rw [if_neg (by omega), if_neg hhour]
      by_cases hday : n < 86400
      · rw [if_pos (by omega), if_pos hday, Nat.mod_eq_of_lt (by omega : n / 3600 < 24)]
        exact (spell_pair _ _ .hour .minute).symm
      · rw [if_neg (by omega), if_neg hday]
        exact (spell_pair _ _ .day .hour).symm

/-! ### Exactness -/

theorem natAbs_sign_mul (h : sign = 1 ∨ sign = -1) (n : Nat) : (sign * (n : Int)).natAbs = n := by
  rcases h with rfl | rfl <;> omega

theorem sign_sign_mul (h : sign = 1 ∨ sign = -1) {n : Nat} (hn : n ≠ 0) :
    (sign * (n : Int)).sign = sign := by
  rcases h with rfl | rfl
  · rw [Int.one_mul, Int.sign_natCast_of_ne_zero hn]
  · rw [Int.neg_one_mul, Int.sign_neg, Int.sign_natCast_of_ne_zero hn]

/-- Two units show a number of seconds, with its sign, if they do so without. -/
theorem shows_units (h : sign = 1 ∨ sign = -1) {n q r : Nat} {long short : TimeUnit}
    (hlong : 60 ≤ n) (hunits : coarseUnits n = (long, short)) (hq : q ≠ 0)
    (hr : r * short.seconds < long.seconds)
    (hsum : q * long.seconds + r * short.seconds = n / short.seconds * short.seconds) :
    Shows (sign * n) (signed sign [(q, long), (r, short)]) := by
  -- division that cuts towards zero goes by the absolute value
  have htdiv : (sign * (n : Int)).tdiv short.seconds = sign * (n / short.seconds : Nat) :=
    congrArg Prod.fst (split_mul h n short.seconds)
  have hsum' : (q : Int) * long.seconds + r * short.seconds
      = (n / short.seconds : Nat) * short.seconds := by exact_mod_cast hsum
  refine .units ?_ ?_ ?_ ?_ ?_ ?_
  · rwa [natAbs_sign_mul h]
  · rwa [natAbs_sign_mul h]
  · rcases h with rfl | rfl <;> omega
  · rwa [natAbs_sign_mul h]
  · rcases Nat.eq_zero_or_pos r with rfl | hpos
    · exact .inl (Int.mul_zero sign)
    · rw [sign_sign_mul h hq, sign_sign_mul h (by omega)]
      exact .inr rfl
  · rw [htdiv, Int.mul_assoc, Int.mul_assoc, Int.mul_assoc, ← Int.mul_add, hsum']

/-- The numbers that are shown of a number of seconds show it. -/
theorem shows_coarseParts (h : sign = 1 ∨ sign = -1) (n : Nat) :
    Shows (sign * n) (signed sign (coarseParts n)) := by
  unfold coarseParts
  split
  · exact .seconds (by rwa [natAbs_sign_mul h])
  · next hminute =>
    split
    · next hhour =>
      -- minutes and seconds; below, hours and minutes, then days and hours
      refine shows_units h (by omega) (if_pos hhour) (by omega) ?_ ?_ <;>
        (simp only [TimeUnit.seconds]; omega)
    · next hhour =>
      split
      · next hday =>
        refine shows_units h (by omega) ((if_neg hhour).trans (if_pos hday)) (by omega) ?_ ?_ <;>
          (simp only [TimeUnit.seconds]; omega)
      · next hday =>
        refine shows_units h (by omega) ((if_neg hhour).trans (if_neg hday)) (by omega) ?_ ?_ <;>
          (simp only [TimeUnit.seconds]; omega)

/-! ### Two readings of a clock -/

theorem signed_neg (sign : Int) (parts : List (Nat × TimeUnit)) :
    signed (-sign) parts = (signed sign parts).map fun (n, u) => (-n, u) := by
  simp [signed]

variable {start stop : Timestamp}

theorem between_eq (h : start.offset.isSome = stop.offset.isSome)
    (hnear : (start.span stop).natAbs < 2 ^ 34 * 1000000) :
    between start stop = .ok (coarse ((start.span stop).tdiv 1000000)) := by
  rw [between, Timestamp.sub_eq h, ← Timestamp.seconds_eq_tdiv hnear]
  rfl

/-- **The time between two readings is shown exactly, cut to its two coarsest units, and alike in
both directions**, if the readings are less than `2 ^ 34` seconds apart.  Exactly means that the
span is cut to whole seconds without being rounded before.  The span is the time between the two
instants, unless both readings are of one zone's clock: then it is what this clock shows. -/
theorem between_shows (h : start.offset.isSome = stop.offset.isSome)
    (hnear : (start.span stop).natAbs < 2 ^ 34 * 1000000) :
    (¬ start.SharesZone stop → start.span stop = stop.instant - start.instant) ∧
      (start.SharesZone stop → start.span stop = stop.micros - start.micros) ∧
      Timestamp.seconds (start.span stop) = (start.span stop).tdiv 1000000 ∧
      ∃ shown, Shows ((start.span stop).tdiv 1000000) shown ∧
        between start stop = .ok (spell shown) ∧
        between stop start = .ok (spell (shown.map fun (n, u) => (-n, u))) := by
  refine ⟨Timestamp.span_of_not_sharesZone, Timestamp.span_of_sharesZone,
    Timestamp.seconds_eq_tdiv hnear, ?_⟩
  have hback : stop.span start = -start.span stop := Timestamp.span_swap start stop
  rw [between_eq h hnear, between_eq h.symm (by omega), hback, Int.neg_tdiv]
  generalize (start.span stop).tdiv 1000000 = t
  -- the sign is taken out of the number of seconds: what is left is shown the same both ways
  obtain ⟨sign, hsign, ht⟩ : ∃ sign : Int, (sign = 1 ∨ sign = -1) ∧ t = sign * t.natAbs := by
    rcases Int.natAbs_eq t with ht | ht
    · exact ⟨1, .inl rfl, by omega⟩
    · exact ⟨-1, .inr rfl, by omega⟩
  refine ⟨signed sign (coarseParts t.natAbs), ?_, ?_, ?_⟩
  · rw [ht, natAbs_sign_mul hsign]
    exact shows_coarseParts hsign _
  · rw [← coarse_mul hsign, ← ht]
  · rw [← signed_neg, ← coarse_mul (by omega), Int.neg_mul, ← ht]

/-- A microsecond before the end of a day, the hours and minutes that are over are shown, forward
and backward, whatever the offsets are. -/
theorem between_shows_end_of_day :
    let start : Timestamp := ⟨3600000000, .fixed 3600000000⟩
    let stop : Timestamp := ⟨86399999999, .fixed 0⟩
    start.offset.isSome = stop.offset.isSome ∧
      (start.span stop).natAbs < 2 ^ 34 * 1000000 ∧
      ∃ shown, Shows 86399 shown ∧ between start stop = .ok (spell shown) ∧
        between stop start = .ok (spell (shown.map fun (n, u) => (-n, u))) := by
  intro start stop
  have hoffsets : start.offset.isSome = stop.offset.isSome := rfl
  have hnear : (start.span stop).natAbs < 2 ^ 34 * 1000000 := by decide
  obtain ⟨-, -, -, hshown⟩ := between_shows hoffsets hnear
  exact ⟨hoffsets, hnear, hshown⟩

example : between ⟨86399999999, .fixed 0⟩ ⟨3600000000, .fixed 3600000000⟩
    = .ok "-23 hours -59 min" :=
  rfl

end Duration

end JobHerald
