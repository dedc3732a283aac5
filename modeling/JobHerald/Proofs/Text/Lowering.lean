import JobHerald.Text.Casing
import JobHerald.Text.Slice

/-!
# Texts in lower case

The lower-case mapping leaves no capital behind: the small letters that it writes are not the
capitals of other letters.  So a text in lower case stays as it is when it is mapped again, and so
does each of its parts.

## Main definitions

* `Text.IsSmall` — letters that the lower-case mapping leaves alone.

## Main results

* `Text.lower_lower` — a text in lower case is its own lower case.
* `Text.lower_eq_self_of_contains` — **so is every part of a text in lower case.**
-/

namespace JobHerald.Text

/-! ### Runs of capitals -/

namespace CaseRun

/-- The distance from the first capital of a run to the last one. -/
def span (r : CaseRun) : Nat := (r.count - 1) * r.step

/-- The small letter of the first capital of a run. -/
def small (r : CaseRun) : Nat := ((r.first : Int) + r.shift).toNat

/-- Whether the small letters of one run are no capitals of another one: they come before or after
these, or each of them stands between two of these. -/
def isApart (r r' : CaseRun) : Bool :=
  Nat.blt (r.small + r.span) r'.first || Nat.blt (r'.first + r'.span) r.small ||
    (Nat.beq r'.step 2 && (Nat.beq r.step 2 || Nat.beq r.count 1) &&
      Nat.beq ((r.small + r'.first) % 2) 1)

variable {r r' : CaseRun} {n m : Nat}

/-- A run has the letters that are whole steps from its first one. -/
theorem exists_of_image? (h : r.image? n = some m) :
    ∃ k < r.count, n = r.first + k * r.step ∧ m = ((n : Int) + r.shift).toNat := by
  rw [image?, Option.ite_none_right_eq_some, Option.some.injEq] at h
  obtain ⟨⟨hfirst, hlast, hstep⟩, hm⟩ := h
  have hwhole : (n - r.first) / r.step * r.step = n - r.first :=
    Nat.div_mul_cancel (Nat.dvd_of_mod_eq_zero hstep)
  refine ⟨(n - r.first) / r.step, ?_, by omega, hm.symm⟩
  have hlt : (n - r.first) / r.step * r.step < r.count * r.step := by omega
  exact Nat.lt_of_mul_lt_mul_right hlt

theorem le_span {k : Nat} (hk : k < r.count) : k * r.step ≤ r.span :=
  Nat.mul_le_mul_right r.step (by omega)

/-- A small letter of one run is no capital of a run that is apart. -/
theorem image?_of_isApart (h : r.isApart r' = true) (hpos : 0 ≤ (r.first : Int) + r.shift)
    (hm : r.image? n = some m) : r'.image? m = none := by
  cases hm' : r'.image? m with
  | none => rfl
  | some m' =>
    exfalso
    obtain ⟨k, hk, rfl, hm⟩ := exists_of_image? hm
    obtain ⟨k', hk', hm', -⟩ := exists_of_image? hm'
    have hspan := le_span hk
    have hspan' := le_span hk'
    have hsmall : m = r.small + k * r.step := by
      rw [small]
      omega
    simp only [isApart, Bool.or_eq_true, Bool.and_eq_true, Nat.blt_eq, Nat.beq_eq] at h
    obtain (hbefore | hafter) | ⟨⟨hstep', hstep⟩, hodd⟩ := h
    · omega
    · omega
    · -- both run over every other letter, and start from letters of different parity
      rw [hstep'] at hm'
      have heven : k * r.step % 2 = 0 := by
        rcases hstep with hstep | hcount
        · rw [hstep]
          exact Nat.mul_mod_left k 2
        · obtain rfl : k = 0 := by omega
          rw [Nat.zero_mul]
      omega

/-- No code point before the first capital is one. -/
theorem image?_zero (h : 0 < r.first) : r.image? 0 = none := by
  rw [image?, if_neg]
  omega

end CaseRun

/-! ### Letters -/

/-- The dotted capital, which becomes two characters. -/
def dotted : CaseRun := ⟨0x130, 1, 1, 0⟩

/-- A letter that the lower-case mapping leaves alone. -/
def IsSmall (c : Char) : Prop := ∀ r ∈ dotted :: lowerRuns, r.image? c.toNat = none

instance (c : Char) : Decidable (IsSmall c) :=
  inferInstanceAs (Decidable (∀ r ∈ dotted :: lowerRuns, r.image? c.toNat = none))

/-- The small letters of all runs are apart from all capitals. -/
theorem isApart_lowerRuns :
    (lowerRuns.all fun r => (dotted :: lowerRuns).all r.isApart) = true := by decide +kernel

theorem small_nonneg : ∀ r ∈ lowerRuns, 0 ≤ (r.first : Int) + r.shift := by decide +kernel

theorem first_pos : ∀ r ∈ dotted :: lowerRuns, 0 < r.first := by decide +kernel

theorem not_isSmall_dotted : ¬ IsSmall (Char.ofNat 0x130) := by decide +kernel

theorem not_isSmall_sigma : ¬ IsSmall (Char.ofNat 0x3A3) := by decide +kernel

theorem IsSmall.toNat_ne {c : Char} (h : IsSmall c) {n : Nat} (hn : ¬ IsSmall (Char.ofNat n)) :
    c.toNat ≠ n := by
  rintro rfl
  rw [Char.ofNat_toNat] at hn
  exact hn h

theorem IsSmall.lowerLetter {c : Char} (h : IsSmall c) : lowerLetter c = c := by
  have hnone : lowerRuns.findSome? (·.image? c.toNat) = none :=
    List.findSome?_eq_none_iff.mpr fun r hr => h r (List.mem_cons_of_mem dotted hr)
  rw [Text.lowerLetter, hnone]

/-- The characters of ASCII, but for its capitals. -/
def isPlain (c : Char) : Bool := c.toNat < 65 || (91 ≤ c.toNat && c.toNat < 128)

theorem isSmall_of_isPlain {c : Char} (h : isPlain c = true) : IsSmall c := by
  rw [isPlain, Bool.or_eq_true, Bool.and_eq_true, decide_eq_true_eq, decide_eq_true_eq,
    decide_eq_true_eq] at h
  -- a run of letters lies among the capitals of ASCII, or beyond it
  have hrange : ∀ r ∈ dotted :: lowerRuns,
      65 ≤ r.first ∧ r.first + r.count * r.step ≤ 91 ∨ 128 ≤ r.first := by decide +kernel
  intro r hr
  rw [CaseRun.image?, if_neg]
  rcases hrange r hr with hr | hr
  · omega
  · omega

/-- Every letter but the dotted capital is mapped to a small one. -/
theorem isSmall_lowerLetter {c : Char} (h : c.toNat ≠ 0x130) : IsSmall (lowerLetter c) := by
  intro r' hr'
  rw [lowerLetter]
  cases hfind : lowerRuns.findSome? (·.image? c.toNat) with
  | none =>
    -- the letter is no capital itself
    rcases List.mem_cons.mp hr' with rfl | hr'
    · rw [CaseRun.image?, if_neg]
      simp only [dotted]
      omega
    · exact List.findSome?_eq_none_iff.mp hfind r' hr'
  | some n =>
    obtain ⟨r, hr, himage⟩ := List.exists_of_findSome?_eq_some hfind
    have hapart : r.isApart r' = true :=
      List.all_eq_true.mp (List.all_eq_true.mp isApart_lowerRuns r hr) r' hr'
    by_cases hvalid : n.isValidChar
    · have hn : (Char.ofNat n).toNat = n := by
        rw [Char.ofNat, dif_pos hvalid]
        rfl
      rw [hn]
      exact CaseRun.image?_of_isApart hapart (small_nonneg r hr) himage
    · -- a number that is no code point stands for the character zero
      have hn : (Char.ofNat n).toNat = 0 := by
        rw [Char.ofNat, dif_neg hvalid]
        rfl
      rw [hn]
      exact CaseRun.image?_zero (first_pos r' hr')

/-! ### Texts -/

/-- The lower-case mapping writes small letters only. -/
theorem isSmall_of_mem_lowerFrom {passed cs : List Char} {c : Char}
    (h : c ∈ lowerFrom passed cs) : IsSmall c := by
  induction cs generalizing passed with
  | nil => cases h
  | cons d ds ih =>
    rw [lowerFrom, List.mem_append] at h
    rcases h with h | h
    · split at h
      · -- the dotted capital
        simp only [List.mem_cons, List.not_mem_nil, or_false] at h
        rcases h with rfl | rfl <;> decide +kernel
      · next hdotted =>
        split at h
        · -- the sigma, at the end of a word or not
          rw [List.mem_singleton] at h
          subst h
          split <;> decide +kernel
        · rw [List.mem_singleton] at h
          exact h ▸ isSmall_lowerLetter hdotted
    · exact ih h

/-- It leaves small letters alone, whatever stands before them. -/
theorem lowerFrom_of_isSmall {passed cs : List Char} (h : ∀ c ∈ cs, IsSmall c) :
    lowerFrom passed cs = cs := by
  induction cs generalizing passed with
  | nil => rfl
  | cons c cs ih =>
    have hc := h c List.mem_cons_self
    rw [lowerFrom, ih fun d hd => h d (List.mem_cons_of_mem c hd)]
    simp only [hc.toNat_ne not_isSmall_dotted, hc.toNat_ne not_isSmall_sigma, hc.lowerLetter,
      if_false, List.singleton_append]

/-- The texts that are their own lower case are those of small letters. -/
theorem lower_eq_self_iff {s : String} : lower s = s ↔ ∀ c ∈ s.toList, IsSmall c := by
  constructor
  · intro h c hc
    rw [← h, lower, String.toList_ofList] at hc
    exact isSmall_of_mem_lowerFrom hc
  · intro h
    rw [lower, lowerFrom_of_isSmall h, String.ofList_toList]

/-- A text in ASCII without capitals is its own lower case. -/
theorem lower_of_isPlain {s : String} (h : s.toList.all isPlain = true) : lower s = s :=
  lower_eq_self_iff.mpr fun c hc => isSmall_of_isPlain (List.all_eq_true.mp h c hc)

/-- A text in lower case is its own lower case. -/
theorem lower_lower (s : String) : lower (lower s) = lower s := by
  rw [lower_eq_self_iff]
  intro c hc
  rw [lower, String.toList_ofList] at hc
  exact isSmall_of_mem_lowerFrom hc

/-! ### Parts of texts -/

theorem contains_iff {s part : String} :
    contains s part = true ↔ part.toList <:+: s.toList := by
  rw [contains, occurs_iff]

theorem contains_self (s : String) : contains s s = true := contains_iff.mpr List.infix_rfl

theorem contains_trans {s part piece : String} (h : contains s part = true)
    (h' : contains part piece = true) : contains s piece = true := by
  rw [contains_iff] at h h' ⊢
  exact h'.trans h

/-- A part of a text in lower case is its own lower case. -/
theorem lower_eq_self_of_contains {s part : String} (h : contains (lower s) part = true) :
    lower part = part := by
  rw [contains_iff] at h
  rw [lower_eq_self_iff]
  intro c hc
  exact lower_eq_self_iff.mp (lower_lower s) c (h.subset hc)

end JobHerald.Text
