import Mathlib.Algebra.Order.Field.Basic
import Mathlib.Algebra.Ring.Parity
import Mathlib.Data.Rat.Cast.Order
import Mathlib.Tactic.Linarith
import Mathlib.Tactic.Ring

/-!
# The nearest integer, the even one of two

An integer is nearest to a number when it is no more than a half away, and even when it is a half
away. A number has at most one nearest integer, and the nearest integer grows with the number:
`NearestEven.mono`.
-/

namespace Foundation

variable {K : Type} [Field K] [LinearOrder K] [IsStrictOrderedRing K] {x y : K} {m n : Int}

structure NearestEven (x : K) (n : Int) : Prop where
  near : |x - n| ≤ 1 / 2
  even : |x - n| = 1 / 2 → Even n

/-- The nearest integer grows with the number. -/
theorem NearestEven.mono (hx : NearestEven x m) (hy : NearestEven y n) (h : x ≤ y) : m ≤ n := by
  by_contra hless
  have hstep : (n : K) + 1 ≤ m := by
    have hint : n + 1 ≤ m := by omega
    exact_mod_cast hint
  obtain ⟨hxlow, hxhigh⟩ := abs_le.mp hx.near
  obtain ⟨hylow, hyhigh⟩ := abs_le.mp hy.near
  -- both numbers lie in the middle between neighbours, of which one is odd
  have hxhalf : x - m = -(1 / 2) := by linarith
  have hyhalf : y - n = 1 / 2 := by linarith
  have hnext : (m : K) = ((n + 1 : Int) : K) := by
    push_cast
    linarith
  have hm := hx.even (by rw [hxhalf, abs_neg, abs_of_nonneg (by norm_num)])
  have hn := hy.even (by rw [hyhalf, abs_of_nonneg (by norm_num)])
  rw [Int.cast_inj.mp hnext] at hm
  exact (Int.even_add_one.mp hm) hn

/-- An integer is nearest to itself. -/
theorem nearestEven_intCast (n : Int) : NearestEven (n : K) n where
  near := by
    rw [sub_self, abs_zero]
    norm_num
  even h := by
    rw [sub_self, abs_zero] at h
    norm_num at h

omit [IsStrictOrderedRing K] in
/-- The nearest integer of a negated number is the negated one. -/
theorem NearestEven.neg (h : NearestEven x n) : NearestEven (-x) (-n) := by
  have hdistance : |-x - ((-n : Int) : K)| = |x - n| := by
    rw [← abs_neg]
    push_cast
    ring_nf
  refine ⟨?_, fun hhalf => ?_⟩
  · rw [hdistance]
    exact h.near
  · rw [hdistance] at hhalf
    exact (h.even hhalf).neg

end Foundation
