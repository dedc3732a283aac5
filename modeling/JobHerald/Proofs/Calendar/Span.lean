import JobHerald.Calendar.Timestamp

/-!
# The time between two readings

Readings of two clocks are as far apart as their instants.  Readings of one zone's clock are as far
apart as the clock shows, and what the clock was set forward between them is counted in.

## Main definitions

* `Timestamp.setForward` — what a zone's clock was set forward between two readings of it.
* `Timestamp.span` — the time between two readings that can be subtracted.

## Main results

* `Timestamp.sub_eq`, `Timestamp.sub_mixed` — **two readings can be subtracted exactly if both
  offsets are known or both are unknown.**
* `Timestamp.span_swap` — the span changes its sign with the direction.
-/

namespace JobHerald

namespace Timestamp

variable {start stop : Timestamp}

/-! ### Zones -/

theorem SharesZone.symm (h : SharesZone start stop) : SharesZone stop start :=
  ⟨h.2 ▸ h.1, h.2.symm⟩

/-- A clock that is set by a zone has an offset. -/
theorem isSome_offset_of_zone? {c : Clock} (h : c.zone? ≠ none) : c.offset.isSome = true := by
  cases c with
  | unknown => exact absurd rfl h
  | fixed => exact absurd rfl h
  | zone => rfl

theorem SharesZone.isSome_offset (h : SharesZone start stop) :
    start.offset.isSome = true ∧ stop.offset.isSome = true :=
  ⟨isSome_offset_of_zone? h.1, isSome_offset_of_zone? h.symm.1⟩

/-- The microseconds by which a zone's clock was set forward from one of its readings to another.
Clocks that do not share a zone are not set against each other. -/
def setForward (start stop : Timestamp) : Int :=
  if SharesZone start stop then stop.offset.getD 0 - start.offset.getD 0 else 0

theorem setForward_of_not_sharesZone (h : ¬ SharesZone start stop) : setForward start stop = 0 :=
  if_neg h

theorem setForward_swap (start stop : Timestamp) :
    setForward stop start = -setForward start stop := by
  unfold setForward
  by_cases hzone : SharesZone start stop
  · rw [if_pos hzone, if_pos hzone.symm]
    omega
  · rw [if_neg hzone, if_neg (mt SharesZone.symm hzone), Int.neg_zero]

/-! ### Spans -/

/-- The microseconds from `start` to `stop`: the time between the two instants, and what a zone's
clock was set forward in that time if it shows both. -/
def span (start stop : Timestamp) : Int :=
  stop.instant - start.instant + setForward start stop

/-- The span is the time between the instants unless one zone's clock shows both. -/
theorem span_of_not_sharesZone (h : ¬ SharesZone start stop) :
    span start stop = stop.instant - start.instant := by
  rw [span, setForward_of_not_sharesZone h, Int.add_zero]

/-- Of one zone's clock, the span is what it shows: the offsets cancel out. -/
theorem span_of_sharesZone (h : SharesZone start stop) :
    span start stop = stop.micros - start.micros := by
  rw [span, setForward, if_pos h, instant, instant]
  omega

/-- Two readings can be subtracted if both offsets are known or both are unknown. -/
theorem sub_eq (h : start.offset.isSome = stop.offset.isSome) :
    stop.sub start = .ok (span start stop) := by
  rw [sub]
  -- within one zone the offsets are not looked at
  by_cases hzone : SharesZone start stop
  · rw [if_pos hzone, span_of_sharesZone hzone]
  · rw [if_neg hzone, span_of_not_sharesZone hzone]
    cases hstart : start.offset with
    | none =>
      cases hstop : stop.offset with
      -- without offsets the clocks themselves are subtracted
      | none => simp [instant, hstart, hstop]
      | some offset => simp [hstart, hstop] at h
    | some offset =>
      cases hstop : stop.offset with
      | none => simp [hstart, hstop] at h
      | some offset' => rfl

/-- A reading with an offset and one without cannot be subtracted: no zone has both. -/
theorem sub_mixed (h : start.offset.isSome ≠ stop.offset.isSome) :
    stop.sub start = .error .mixedClocks := by
  have hzone : ¬ SharesZone start stop :=
    fun hzone => h (hzone.isSome_offset.1.trans hzone.isSome_offset.2.symm)
  rw [sub, if_neg hzone]
  cases hstart : start.offset <;> cases hstop : stop.offset <;> simp_all

/-- The span changes its sign with the direction. -/
theorem span_swap (start stop : Timestamp) : span stop start = -span start stop := by
  rw [span, span, setForward_swap]
  omega

end Timestamp

end JobHerald
