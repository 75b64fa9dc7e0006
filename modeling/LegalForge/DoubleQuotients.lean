import LegalForge.DoubleRounding

/-! Whole quotients by way of a double: the floor and the ceiling of a rounded quotient of
integers are those of the exact one, while the rounding error stays below one part. -/
namespace LegalForge.Double

variable {n : ℤ} {d : ℕ} {e : ℤ}

theorem floor_div_natCast (hd : 0 < d) (hn : |(n:ℚ)/d| < 2^e) (he : (d:ℚ)*2^(e-54) < 1) :
    ⌊div n d⌋ = n/d := by
  have hdpos : (0:ℚ) < d := by exact_mod_cast hd
  have hrem : 0 ≤ n%d := Int.emod_nonneg n (by omega)
  have hrem' : n%d < d := Int.emod_lt_of_pos n (by omega)
  have hdvd : (n:ℚ) = d*(n/d : ℤ)+(n%d : ℤ) := by
    exact_mod_cast (Int.mul_ediv_add_emod n d).symm
  have hquot : (n:ℚ)/d = (n/d : ℤ)+((n%d : ℤ):ℚ)/d := by
    rw [hdvd]
    field_simp
  have hunit : (2:ℚ)^(e-54) < 1/d := by
    rw [lt_div_iff₀ hdpos, mul_comm]
    exact he
  have herror : |round (n/d)-n/d| ≤ 2^(e-54) := abs_round_sub_le_of_lt hn
  rcases hrem.eq_or_lt with hzero | hpos
  · -- the quotient is an integer that a double can hold
    have hexact : (n:ℚ)/d = (n/d : ℤ) := by
      rw [hquot, ← hzero, Int.cast_zero, zero_div, add_zero]
    have he53 : e ≤ 53 := by
      by_contra hlt
      have hone : (1:ℚ) ≤ 2^(e-54) := one_le_zpow₀ (by norm_num) (by omega)
      have hpart : (1:ℚ)/d ≤ 1 := by
        rw [div_le_one hdpos]
        exact_mod_cast hd
      linarith
    have hsmall : |((n/d : ℤ):ℚ)| < 2^53 := by
      rw [← hexact]
      calc |(n:ℚ)/d| < 2^e := hn
        _ ≤ 2^(53:ℤ) := zpow_le_zpow_right₀ (by norm_num) he53
        _ = 2^53 := by norm_num
    have hround : round ((n/d : ℤ):ℚ) = (n/d : ℤ) := round_intCast (by exact_mod_cast hsmall)
    rw [div, hexact, hround, Int.floor_intCast]
  · -- else it keeps one part's distance from the integers on both sides
    have hlow : 1/(d:ℚ) ≤ ((n%d : ℤ):ℚ)/d := by
      have hcast : (1:ℚ) ≤ (n%d : ℤ) := by exact_mod_cast hpos
      gcongr
    have hhigh : ((n%d : ℤ):ℚ)/d ≤ 1-1/d := by
      have hcast : ((n%d : ℤ):ℚ) ≤ d-1 := by
        have hint : n%d ≤ d-1 := by omega
        exact_mod_cast hint
      rw [le_sub_iff_add_le, ← add_div, div_le_one hdpos]
      linarith
    have hnear := abs_le.mp herror
    rw [Int.floor_eq_iff, div]
    constructor
    · linarith
    · linarith

theorem ceil_div_natCast (hd : 0 < d) (hn : |(n:ℚ)/d| < 2^e) (he : (d:ℚ)*2^(e-54) < 1) :
    ⌈div n d⌉ = -((-n)/d) := by
  have hneg : |((-n : ℤ):ℚ)/d| < 2^e := by
    rw [Int.cast_neg, neg_div, abs_neg]
    exact hn
  have hfloor := floor_div_natCast hd hneg he
  rw [Int.cast_neg, div_neg, Int.floor_neg] at hfloor
  omega

end LegalForge.Double
