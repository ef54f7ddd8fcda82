import Mathlib.Tactic

/-!
Rounding to the nearest integer, ties to even. The relation says what such a
rounding is; there is one integer for each number, an integer is rounded to
itself, and the sign does not matter.
-/

namespace AtmSystem.Library

variable {K : Type*} [Field K] [LinearOrder K]

/-- `n` is as near to `q` as an integer can be, and even if two are. -/
structure RoundsHalfEven (q : K) (n : ℤ) : Prop where
  near : |q - n| ≤ 1 / 2
  even : |q - n| = 1 / 2 → Even n

namespace RoundsHalfEven

theorem neg {q : K} {n : ℤ} (h : RoundsHalfEven q n) : RoundsHalfEven (-q) (-n) := by
  have hdistance : |-q - ((-n : ℤ) : K)| = |q - n| := by
    rw [Int.cast_neg, ← neg_sub', abs_neg]
  refine ⟨hdistance ▸ h.near, fun htie => ?_⟩
  exact (h.even (hdistance ▸ htie)).neg

variable [IsStrictOrderedRing K]

theorem intCast (n : ℤ) : RoundsHalfEven (n : K) n where
  near := by
    rw [sub_self, abs_zero]
    positivity
  even := by
    intro htie
    rw [sub_self, abs_zero] at htie
    norm_num at htie

/-- Two nearest integers would be neighbours, and one of them is odd. -/
theorem unique {q : K} {m n : ℤ} (hm : RoundsHalfEven q m) (hn : RoundsHalfEven q n) : m = n := by
  by_contra hne
  wlog hlt : m < n generalizing m n
  · exact this hn hm (Ne.symm hne) (lt_of_le_of_ne (not_lt.mp hlt) (Ne.symm hne))
  have hstep : (m : K) + 1 ≤ n := by exact_mod_cast hlt
  obtain ⟨-, hbelow⟩ := abs_le.mp hm.near
  obtain ⟨habove, -⟩ := abs_le.mp hn.near
  have hfirst : q - m = 1 / 2 := by linarith
  have hsecond : q - n = -(1 / 2) := by linarith
  have hnext : n = m + 1 := by
    have hcast : (n : K) = m + 1 := by linarith
    exact_mod_cast hcast
  have hhalf : (0 : K) ≤ 1 / 2 := by positivity
  obtain ⟨a, ha⟩ := hm.even (by rw [hfirst, abs_of_nonneg hhalf])
  obtain ⟨b, hb⟩ := hn.even (by rw [hsecond, abs_neg, abs_of_nonneg hhalf])
  omega

end RoundsHalfEven

end AtmSystem.Library
