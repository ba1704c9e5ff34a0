import Mathlib.Algebra.Order.Group.Abs
import Mathlib.Algebra.Order.Group.MinMax
import Mathlib.Tactic.Abel

/-!
# Payoffs of vertical spreads

The payoff of a call and of a put at expiry, and of a spread that is long one strike and short
another of the same right. A payoff moves by no more than its strike does, in the one direction
that its right has, so that a spread pays between nothing and its width, with the sign that the
order of its strikes gives.
-/

namespace Foundation.VerticalSpread

variable {K : Type} [AddCommGroup K] [LinearOrder K] [IsOrderedAddMonoid K]

def callPayoff (strike price : K) : K :=
  max (price - strike) 0

def putPayoff (strike price : K) : K :=
  max (strike - price) 0

variable {low high price : K}

theorem callPayoff_anti (h : low ≤ high) : callPayoff high price ≤ callPayoff low price :=
  max_le_max (sub_le_sub_left h price) le_rfl

theorem putPayoff_mono (h : low ≤ high) : putPayoff low price ≤ putPayoff high price :=
  max_le_max (sub_le_sub_right h price) le_rfl

theorem callPayoff_sub_le (h : low ≤ high) :
    callPayoff low price - callPayoff high price ≤ high - low := by
  rw [sub_le_iff_le_add, callPayoff, callPayoff]
  refine max_le ?_ ?_
  · calc price - low = high - low + (price - high) := by abel
      _ ≤ high - low + max (price - high) 0 := add_le_add_right (le_max_left _ _) _
  · exact add_nonneg (sub_nonneg.mpr h) (le_max_right _ _)

theorem putPayoff_sub_le (h : low ≤ high) :
    putPayoff high price - putPayoff low price ≤ high - low := by
  rw [sub_le_iff_le_add, putPayoff, putPayoff]
  refine max_le ?_ ?_
  · calc high - price = high - low + (low - price) := by abel
      _ ≤ high - low + max (low - price) 0 := add_le_add_right (le_max_left _ _) _
  · exact add_nonneg (sub_nonneg.mpr h) (le_max_right _ _)

/-- A spread of calls pays at least what its width costs, whatever the order of its strikes. -/
theorem neg_width_le_call (bought sold price : K) :
    -|bought - sold| ≤ callPayoff bought price - callPayoff sold price := by
  rcases le_total bought sold with h | h
  · exact (neg_nonpos.mpr (abs_nonneg _)).trans (sub_nonneg.mpr (callPayoff_anti h))
  · rw [abs_of_nonneg (sub_nonneg.mpr h), neg_le, neg_sub]
    exact callPayoff_sub_le h

/-- A spread of puts pays at least what its width costs, whatever the order of its strikes. -/
theorem neg_width_le_put (bought sold price : K) :
    -|bought - sold| ≤ putPayoff bought price - putPayoff sold price := by
  rcases le_total bought sold with h | h
  · rw [abs_sub_comm, abs_of_nonneg (sub_nonneg.mpr h), neg_le, neg_sub]
    exact putPayoff_sub_le h
  · exact (neg_nonpos.mpr (abs_nonneg _)).trans (sub_nonneg.mpr (putPayoff_mono h))

end Foundation.VerticalSpread
