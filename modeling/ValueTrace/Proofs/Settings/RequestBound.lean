import ValueTrace.Settings

/-!
# The bound of requests

A time that is set for requests is kept as whole milliseconds: what goes beyond a whole millisecond
is lost, and what goes beyond 64 bits is cut off.  The number zero stands for no bound at all, so a
time that is not zero but shorter than a millisecond removes the bound, as a time of zero does
(`short_timeout_removes_bound`).  Any longer time gives a bound that is no longer than the time, and
less than a millisecond shorter unless it is the greatest bound there is.

## Main definitions

* `Duration.longest` : the greatest number of whole milliseconds.

## Main results

* `Duration.ofMillis_millis_cases` : what is left of a duration.
* `bound_is_whole_milliseconds` : the bound that a time for requests gives.
-/

namespace ValueTrace

namespace Duration

variable (d : Duration)

/-- The longest duration that is kept in 64 bits. -/
def longest : Duration := .ofMillis (UInt64.ofNat (UInt64.size - 1))

theorem toNat_millis : d.millis.toNat = min (d.nanoseconds / millisecond) (UInt64.size - 1) := by
  have hsize : min (d.nanoseconds / millisecond) (UInt64.size - 1) < UInt64.size :=
    Nat.lt_of_le_of_lt (Nat.min_le_right _ _) (by decide)
  exact UInt64.toNat_ofNat_of_lt' hsize

/-- Nothing is left of a duration exactly if it is shorter than a millisecond. -/
theorem millis_eq_zero_iff : d.millis = 0 ↔ d.nanoseconds < millisecond := by
  have hsome : 0 < UInt64.size - 1 := by decide
  rw [← UInt64.toNat_inj, toNat_millis, UInt64.toNat_zero, Nat.min_eq_zero_iff,
    Nat.div_eq_zero_iff_lt (by decide)]
  exact or_iff_left (Nat.ne_of_gt hsome)

/-- What is left of a duration is less than a millisecond shorter, or it is the longest one. -/
theorem ofMillis_millis_cases :
    (ofMillis d.millis).nanoseconds ≤ d.nanoseconds ∧
      (d.nanoseconds - (ofMillis d.millis).nanoseconds < millisecond ∨
        ofMillis d.millis = longest) := by
  have hdivided : d.nanoseconds / millisecond * millisecond + d.nanoseconds % millisecond =
      d.nanoseconds := Nat.div_add_mod' ..
  have hrest : d.nanoseconds % millisecond < millisecond := Nat.mod_lt _ (by decide)
  by_cases hfits : d.nanoseconds / millisecond ≤ UInt64.size - 1
  · have hkept : (ofMillis d.millis).nanoseconds = d.nanoseconds / millisecond * millisecond := by
      rw [ofMillis, toNat_millis, Nat.min_eq_left hfits]
    rw [hkept]
    exact ⟨by omega, Or.inl (by omega)⟩
  · have hcut : d.millis.toNat = UInt64.size - 1 := by
      rw [toNat_millis, Nat.min_eq_right (Nat.le_of_not_le hfits)]
    have hlongest : d.millis = UInt64.ofNat (UInt64.size - 1) := UInt64.toNat_inj.1 hcut
    refine ⟨?_, Or.inr (congrArg ofMillis hlongest)⟩
    rw [ofMillis, hcut]
    have hle := Nat.mul_le_mul_right millisecond (Nat.le_of_not_le hfits)
    exact Nat.le_trans hle (Nat.div_mul_le_self ..)

end Duration

namespace EngineSettings

variable (s : EngineSettings) (d : Duration)

/-- Requests have no bound if nothing is left of their time, and otherwise what is left of it. -/
theorem requestBound_withRequestTimeout :
    (s.withRequestTimeout d).requestBound =
      if d.millis = 0 then none else some (.ofMillis d.millis) := by
  have hpositive : 0 < d.millis ↔ ¬ d.millis = 0 := UInt64.pos_iff_ne_zero
  by_cases h : d.millis = 0
  · simp [requestBound, withRequestTimeout, h]
  · simp [requestBound, withRequestTimeout, requestTimeout, h, hpositive.2 h]

/-- A time for requests removes their bound exactly if it is shorter than a millisecond.  Otherwise
requests have a bound that is no longer than the time, and less than a millisecond shorter unless
it is the longest one. -/
theorem bound_is_whole_milliseconds (s : EngineSettings) (d : Duration) :
    d.nanoseconds < Duration.millisecond ∧ (s.withRequestTimeout d).requestBound = none ∨
    Duration.millisecond ≤ d.nanoseconds ∧ ∃ bound,
      (s.withRequestTimeout d).requestBound = some bound ∧
      bound.nanoseconds ≤ d.nanoseconds ∧
      (d.nanoseconds - bound.nanoseconds < Duration.millisecond ∨ bound = Duration.longest) := by
  rw [requestBound_withRequestTimeout]
  by_cases hshort : d.nanoseconds < Duration.millisecond
  · exact Or.inl ⟨hshort, if_pos (d.millis_eq_zero_iff.2 hshort)⟩
  · refine Or.inr ⟨Nat.le_of_not_lt hshort, _, if_neg (mt d.millis_eq_zero_iff.1 hshort), ?_⟩
    exact d.ofMillis_millis_cases

/-- Half a millisecond is not zero, and removes the bound. -/
theorem short_timeout_removes_bound :
    (⟨500000⟩ : Duration).isZero = false ∧
      (default.withRequestTimeout ⟨500000⟩).requestBound = none := by
  decide

end EngineSettings

end ValueTrace
