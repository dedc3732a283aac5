import Mathlib
import JobHerald.Message.Duration
import JobHerald.Proofs.Json.Numbers

/-!
# Durations that are read back

A duration in words is a sequence of numbers, each followed by the name of a unit.  It leaves out
the units that are zero at either end, and none in between, so that nothing is lost: the numbers
times the lengths of their units add up to the duration.

## Main definitions

* `TimeUnit`, `TimeUnit.count` — the units, and the number of each that is shown.
* `Duration.Amount`, `Duration.readWords?` — the reading of a duration in words.
* `Duration.ReadsBack` — what is read from the words of a duration.

## Main results

* `Duration.exists_significant` — only zero units at the ends are left out.
* `Duration.readWords?_joined` — the words of amounts are read as these amounts.
* `Duration.words_read_back` — **a duration in words is read back exactly.**
-/

namespace JobHerald

/-! ### Units -/

/-- A unit of time. -/
inductive TimeUnit where
  /-- The day. -/
  | day
  /-- The hour. -/
  | hour
  /-- The minute. -/
  | minute
  /-- The second. -/
  | second
  deriving DecidableEq, Repr

namespace TimeUnit

/-- The units, the longest one first. -/
def all : List TimeUnit := [day, hour, minute, second]

/-- The seconds of a unit. -/
def seconds : TimeUnit → Nat
  | day => 86400
  | hour => 3600
  | minute => 60
  | second => 1

/-- The name of a unit. -/
def name : TimeUnit → String
  | day => "day"
  | hour => "hour"
  | minute => "minute"
  | second => "second"

/-- How many of a unit are shown of a number of seconds; there is no unit above the day. -/
def count (n : Nat) : TimeUnit → Nat
  | day => n / 86400
  | hour => n / 3600 % 24
  | minute => n / 60 % 60
  | second => n % 60

/-- All units together make up the number of seconds. -/
theorem sum_count (n : Nat) : (all.map fun u => u.count n * u.seconds).sum = n := by
  simp only [all, count, seconds, List.map_cons, List.map_nil, List.sum_cons, List.sum_nil]
  omega

end TimeUnit

namespace Duration

/-! ### Reading -/

/-- A number with the name of a unit. -/
structure Amount where
  /-- The number. -/
  number : Nat
  /-- The unit. -/
  unit : TimeUnit
  /-- Whether the unit is named in the plural. -/
  plural : Bool
  deriving DecidableEq, Repr

/-- The seconds of an amount. -/
def Amount.seconds (a : Amount) : Nat := a.number * a.unit.seconds

/-- The spelling of a unit. -/
def spelling (unit : TimeUnit) (plural : Bool) : String :=
  unit.name ++ (if plural then "s" else "")

/-- The unit that a word names, and whether in the plural. -/
def readUnit? (word : List Char) : Option (TimeUnit × Bool) :=
  (TimeUnit.all.flatMap fun u => [(u, false), (u, true)]).find? fun (u, plural) =>
    (spelling u plural).toList = word

/-- The amounts that words name, two words each. -/
def readAmounts? : List (List Char) → Option (List Amount)
  | [] => some []
  | [_] => none
  | digits :: word :: rest => do
      let number ← Text.readNat? digits
      let (unit, plural) ← readUnit? word
      let amounts ← readAmounts? rest
      return ⟨number, unit, plural⟩ :: amounts

/-- The amounts that a text names in words with a space between neighbours. -/
def readWords? (s : String) : Option (List Amount) := readAmounts? (Text.splitOn ' ' s.toList)

/-! ### Reading what was written -/

theorem readUnit?_spelling (unit : TimeUnit) (plural : Bool) :
    readUnit? (spelling unit plural).toList = some (unit, plural) := by
  cases unit <;> cases plural <;> decide

theorem not_mem_spelling (unit : TimeUnit) (plural : Bool) :
    ' ' ∉ (spelling unit plural).toList := by
  cases unit <;> cases plural <;> decide

theorem not_mem_digits (n : Nat) : ' ' ∉ Nat.toDigits 10 n := by
  intro h
  exact absurd (Json.isDigit_of_mem_toDigits h) (by decide)

/-- The amount that is shown of a unit. -/
def amount (n : Nat) (unit : TimeUnit) : Amount :=
  ⟨unit.count n, unit, unit.count n ≠ 1⟩

/-- An amount in words. -/
def Amount.render (a : Amount) : String := toString a.number ++ " " ++ spelling a.unit a.plural

theorem toList_render (a : Amount) :
    a.render.toList = Nat.toDigits 10 a.number ++ ' ' :: (spelling a.unit a.plural).toList := by
  rw [Amount.render, String.toList_append, String.toList_append, List.append_assoc]
  exact congrArg (· ++ _) Nat.toList_repr

theorem unitWord_eq_render (n : Nat) (unit : TimeUnit) :
    unitWord (unit.count n) unit.name = (amount n unit).render := by
  by_cases h : unit.count n = 1 <;>
    simp [unitWord, Amount.render, amount, spelling, h, String.append_assoc]

/-- Two words are read as an amount, and what comes after them on its own. -/
theorem readAmounts?_cons (a : Amount) {rest : List (List Char)} {as : List Amount}
    (h : readAmounts? rest = some as) :
    readAmounts? (Nat.toDigits 10 a.number :: (spelling a.unit a.plural).toList :: rest)
      = some (a :: as) := by
  rw [readAmounts?, Json.readNat?_toDigits, readUnit?_spelling, h]
  rfl

/-- Amounts in words are read as these amounts. -/
theorem readWords?_joined {as : List Amount} (h : as ≠ []) :
    readWords? (Text.joined " " (as.map Amount.render)) = some as := by
  induction as with
  | nil => exact absurd rfl h
  | cons a as ih =>
    cases as with
    -- the last amount ends the text
    | nil =>
      rw [List.map_singleton, Text.joined_singleton, readWords?, toList_render,
        Text.splitOn_append (not_mem_digits _), Text.splitOn_of_not_mem (not_mem_spelling _ _)]
      exact readAmounts?_cons a rfl
    | cons b bs =>
      -- number, blank, name, blank: then the text of the others
      have htext : (Text.joined " " ((a :: b :: bs).map Amount.render)).toList
          = Nat.toDigits 10 a.number ++ ' ' :: ((spelling a.unit a.plural).toList
            ++ ' ' :: (Text.joined " " ((b :: bs).map Amount.render)).toList) := by
        rw [List.map_cons, List.map_cons, Text.joined, String.toList_append, String.toList_append,
          toList_render, List.append_assoc, List.append_assoc]
        · rfl
        · exact nofun
      rw [readWords?, htext, Text.splitOn_append (not_mem_digits _),
        Text.splitOn_append (not_mem_spelling _ _)]
      exact readAmounts?_cons a (ih (List.cons_ne_nil b bs))

/-! ### Units that are left out -/

/-- The items from the first one on that is not of a class. -/
theorem exists_dropWhile {α : Type} (p : α → Bool) (l : List α) :
    ∃ front, l = front ++ l.dropWhile p ∧ (∀ a ∈ front, p a = true) ∧
      ∀ a ∈ (l.dropWhile p).head?, p a = false := by
  refine ⟨l.takeWhile p, List.takeWhile_append_dropWhile.symm,
    List.all_eq_true.mp List.all_takeWhile, fun a ha => ?_⟩
  have hhead := List.head?_dropWhile_not p l
  rw [Option.mem_def.mp ha] at hhead
  exact hhead

/-- Only numbers at the ends are left out, and only zeros: what remains begins and ends with a
number that is not zero. -/
theorem exists_significant (ps : List (Nat × String)) :
    ∃ front back, ps = front ++ significant ps ++ back ∧
      (∀ p ∈ front ++ back, p.1 = 0) ∧
      (∀ p ∈ (significant ps).head?, p.1 ≠ 0) ∧ ∀ p ∈ (significant ps).getLast?, p.1 ≠ 0 := by
  obtain ⟨front, hfront, hzero, hhead⟩ := exists_dropWhile (·.1 = 0) ps
  obtain ⟨back, hback, hzero', hlast⟩ :=
    exists_dropWhile (·.1 = 0) (ps.dropWhile (·.1 = 0)).reverse
  -- zeros are dropped at the front first, then at the back of what is left
  have hsplit : ps.dropWhile (·.1 = 0) = significant ps ++ back.reverse := by
    rw [significant, ← List.reverse_append, ← hback, List.reverse_reverse]
  refine ⟨front, back.reverse, ?_, ?_, ?_, ?_⟩
  · rw [List.append_assoc, ← hsplit]
    exact hfront
  · intro p hp
    rw [List.mem_append, List.mem_reverse] at hp
    rcases hp with hp | hp
    · simpa using hzero p hp
    · simpa using hzero' p hp
  · intro p hp
    have hp' : p ∈ (ps.dropWhile (·.1 = 0)).head? := by
      rw [hsplit, List.head?_append, hp]
      rfl
    simpa using hhead p hp'
  · intro p hp
    rw [significant, List.getLast?_reverse] at hp
    simpa using hlast p hp

/-- The units that are shown follow one another, from the first to the last one that is not zero. -/
theorem exists_shown (n : Nat) :
    ∃ front units back, TimeUnit.all = front ++ units ++ back ∧
      significant (parts n) = units.map (fun u => (u.count n, u.name)) ∧
      (∀ u ∈ front ++ back, u.count n = 0) ∧
      (∀ u ∈ units.head?, u.count n ≠ 0) ∧ ∀ u ∈ units.getLast?, u.count n ≠ 0 := by
  obtain ⟨front, back, hparts, hzero, hhead, hlast⟩ := exists_significant (parts n)
  have hsplit : (TimeUnit.all.map fun u => (u.count n, u.name))
      = front ++ significant (parts n) ++ back := hparts
  -- where the list of numbers is cut, that of the units can be cut too
  obtain ⟨units', back, hall, hunits', rfl⟩ := List.map_eq_append_iff.mp hsplit
  obtain ⟨front, units, rfl, rfl, hunits⟩ := List.map_eq_append_iff.mp hunits'
  rw [← hunits] at hhead hlast
  rw [← List.map_append] at hzero
  refine ⟨front, units, back, hall, hunits.symm, ?_, ?_, ?_⟩
  · exact fun u hu => hzero _ (List.mem_map_of_mem hu)
  · intro u hu
    rw [Option.mem_def] at hu
    exact hhead _ (by rw [List.head?_map, hu]; rfl)
  · intro u hu
    rw [Option.mem_def] at hu
    exact hlast _ (by rw [List.getLast?_map, hu]; rfl)

/-! ### Reading back -/

/-- What is read from the words of a duration. -/
structure ReadsBack (n : Int) (amounts : List Amount) : Prop where
  /-- These amounts are read. -/
  read : readWords? (words n) = some amounts
  /-- They add up to the duration, or to zero if it is negative. -/
  total : ((amounts.map Amount.seconds).sum : Int) = max n 0
  /-- There is an amount. -/
  nonempty : amounts ≠ []
  /-- Their units follow one another, the longest one first. -/
  consecutive : amounts.map Amount.unit <:+: TimeUnit.all
  /-- Neither the first nor the last number is zero, unless nothing else is to be shown. -/
  ends : words n ≠ "0 seconds" →
    ∀ a, amounts.head? = some a ∨ amounts.getLast? = some a → a.number ≠ 0
  /-- No number makes up a longer unit. -/
  bounded : ∀ a ∈ amounts, (a.unit = .hour → a.number < 24) ∧ (a.unit = .minute → a.number < 60) ∧
    (a.unit = .second → a.number < 60)
  /-- A unit is in the singular exactly if there is one of it. -/
  singular : ∀ a ∈ amounts, a.plural = false ↔ a.number = 1

variable {n : Nat} {front units back : List TimeUnit}

theorem sum_of_zero (h : ∀ u ∈ units, u.count n = 0) :
    (units.map fun u => u.count n * u.seconds).sum = 0 := by
  induction units with
  | nil => rfl
  | cons u us ih =>
    rw [List.map_cons, List.sum_cons, h u List.mem_cons_self, Nat.zero_mul, Nat.zero_add]
    exact ih fun v hv => h v (List.mem_cons_of_mem u hv)

/-- Units that are zero add nothing. -/
theorem sum_shown (hall : TimeUnit.all = front ++ units ++ back)
    (hzero : ∀ u ∈ front ++ back, u.count n = 0) :
    (units.map fun u => u.count n * u.seconds).sum = n := by
  have hsum := TimeUnit.sum_count n
  rw [hall, List.map_append, List.map_append, List.sum_append, List.sum_append,
    sum_of_zero fun u hu => hzero u (List.mem_append_left back hu),
    sum_of_zero fun u hu => hzero u (List.mem_append_right front hu)] at hsum
  omega

theorem words_of_ne_nil (hunits : significant (parts n) = units.map fun u => (u.count n, u.name))
    (hne : units ≠ []) : words n = Text.joined " " ((units.map (amount n)).map Amount.render) := by
  obtain ⟨u, us, rfl⟩ := List.exists_cons_of_ne_nil hne
  rw [words, Int.toNat_natCast, hunits, List.map_map]
  show Text.joined " " (((u :: us).map fun v => (v.count n, v.name)).map fun p =>
    unitWord p.1 p.2) = _
  rw [List.map_map]
  exact congrArg (Text.joined " ") (List.map_congr_left fun v _ => unitWord_eq_render n v)

theorem amount_bounded (n : Nat) (u : TimeUnit) :
    (u = .hour → u.count n < 24) ∧ (u = .minute → u.count n < 60) ∧
      (u = .second → u.count n < 60) := by
  cases u <;> simp [TimeUnit.count] <;> omega

/-- What is read from the words of a duration that is not zero. -/
theorem readsBack_of_ne_nil (hall : TimeUnit.all = front ++ units ++ back)
    (hunits : significant (parts n) = units.map fun u => (u.count n, u.name))
    (hzero : ∀ u ∈ front ++ back, u.count n = 0) (hhead : ∀ u ∈ units.head?, u.count n ≠ 0)
    (hlast : ∀ u ∈ units.getLast?, u.count n ≠ 0) (hne : units ≠ []) :
    ReadsBack n (units.map (amount n)) where
  read := by
    rw [words_of_ne_nil hunits hne]
    exact readWords?_joined (by simpa using hne)
  total := by
    have hsum := sum_shown hall hzero
    rw [List.map_map]
    show (((units.map fun u => u.count n * u.seconds).sum : Nat) : Int) = _
    omega
  nonempty := by simpa using hne
  consecutive := by
    have hmap : (units.map (amount n)).map Amount.unit = units := by
      rw [List.map_map]
      exact List.map_id units
    rw [hmap]
    exact ⟨front, back, hall.symm⟩
  ends := by
    rintro - a (ha | ha)
    · rw [List.head?_map, Option.map_eq_some_iff] at ha
      obtain ⟨u, hu, rfl⟩ := ha
      exact hhead u hu
    · rw [List.getLast?_map, Option.map_eq_some_iff] at ha
      obtain ⟨u, hu, rfl⟩ := ha
      exact hlast u hu
  bounded := by
    intro a ha
    obtain ⟨u, -, rfl⟩ := List.mem_map.mp ha
    exact amount_bounded n u
  singular := by
    intro a ha
    obtain ⟨u, -, rfl⟩ := List.mem_map.mp ha
    simp [amount]

theorem words_of_nonpos {n : Int} (h : n ≤ 0) : words n = "0 seconds" := by
  rw [words, Int.toNat_of_nonpos h]
  rfl

/-- What is read from the words of no duration. -/
theorem readsBack_of_nonpos {n : Int} (h : n ≤ 0) : ReadsBack n [⟨0, .second, true⟩] where
  read := by
    rw [words_of_nonpos h]
    decide
  total := (Int.max_eq_right h).symm
  nonempty := List.cons_ne_nil _ _
  consecutive := by decide
  ends := fun hne => absurd (words_of_nonpos h) hne
  bounded := by decide
  singular := by decide

/-- Something is read back from the words of every duration. -/
theorem exists_readsBack (n : Int) : ∃ amounts, ReadsBack n amounts := by
  rcases Int.lt_or_le 0 n with hpos | hneg
  · obtain ⟨n, rfl⟩ := Int.eq_ofNat_of_zero_le (Int.le_of_lt hpos)
    obtain ⟨front, units, back, hall, hunits, hzero, hhead, hlast⟩ := exists_shown n
    refine ⟨_, readsBack_of_ne_nil hall hunits hzero hhead hlast ?_⟩
    rintro rfl
    have hsum : 0 = n := sum_shown hall hzero
    omega
  · exact ⟨_, readsBack_of_nonpos hneg⟩

/-- **A duration in words is read back exactly**: as amounts of units that follow one another, none
of them too large and none of the outer ones zero, which add up to the duration.  So no two
durations have the same words. -/
theorem words_read_back :
    (∀ n, ∃ amounts, ReadsBack n amounts) ∧
      ∀ m n, 0 ≤ m → 0 ≤ n → words m = words n → m = n := by
  refine ⟨exists_readsBack, fun m n hm hn hwords => ?_⟩
  obtain ⟨as, has⟩ := exists_readsBack m
  obtain ⟨bs, hbs⟩ := exists_readsBack n
  have hread := has.read
  rw [hwords, hbs.read, Option.some.injEq] at hread
  have htotal := has.total
  rw [← hread, hbs.total, Int.max_eq_left hm, Int.max_eq_left hn] at htotal
  exact htotal.symm

/-- A day and a second are read back with the zeros between them, and a duration that has the same
words is the same. -/
theorem words_read_back_gap :
    words 86401 = "1 day 0 hours 0 minutes 1 second" ∧
      readWords? (words 86401) = some [⟨1, .day, false⟩, ⟨0, .hour, true⟩, ⟨0, .minute, true⟩,
        ⟨1, .second, false⟩] ∧
      (∃ amounts, ReadsBack 86401 amounts) ∧
      ∀ n, 0 ≤ n → words 86401 = words n → n = 86401 := by
  refine ⟨rfl, by decide, words_read_back.1 86401, fun n hn hwords => ?_⟩
  exact (words_read_back.2 86401 n (by decide) hn hwords).symm

end Duration

end JobHerald
