import LegalForge.DoubleRounding

/-! Rounding to doubles keeps the order of the numbers, across the binades too. -/
namespace LegalForge.Double

theorem roundEven_mono {q q' : ℚ} (h : q ≤ q') : roundEven q ≤ roundEven q' := by
  by_contra hlt
  have hstep : roundEven q'+1 ≤ roundEven q := by omega
  have hcast : (roundEven q':ℚ)+1 ≤ roundEven q := by exact_mod_cast hstep
  have hnear := abs_le.mp (abs_roundEven_sub_le q)
  have hnear' := abs_le.mp (abs_roundEven_sub_le q')
  -- the two are then one midpoint, and it is rounded once
  have heq : q = q' := by linarith
  rw [heq] at hlt
  exact hlt le_rfl

/-- The power of two below a number is a double. -/
theorem zpow_le_round {v : ℚ} (hv : 0 < v) : 2^Int.log 2 v ≤ round v := by
  have hlog : ((2:ℕ):ℚ)^Int.log 2 v ≤ v := Int.zpow_log_le_self (by decide) hv
  push_cast at hlog
  have htop : (2:ℚ)^Int.log 2 v*2^(52-Int.log 2 v) = ((2^52 : ℤ) : ℚ) := by
    calc (2:ℚ)^Int.log 2 v*2^(52-Int.log 2 v) = 2^(52:ℤ) := by
          rw [← zpow_add₀ (by norm_num)]
          congr 1
          ring
      _ = ((2^52 : ℤ) : ℚ) := by norm_num
  rw [le_round_iff_units hv, htop, Int.cast_le]
  apply le_roundEven
  rw [← htop]
  gcongr

theorem round_mono_of_pos {v w : ℚ} (hv : 0 < v) (h : v ≤ w) : round v ≤ round w := by
  have hw : 0 < w := hv.trans_le h
  rcases (Int.log_mono_right hv h : Int.log 2 v ≤ Int.log 2 w).eq_or_lt with hlog | hlog
  · rw [round_of_pos hv, round_of_pos hw, hlog]
    have hunits : roundEven (v*2^(52-Int.log 2 w)) ≤ roundEven (w*2^(52-Int.log 2 w)) := by
      apply roundEven_mono
      gcongr
    have hcast : (roundEven (v*2^(52-Int.log 2 w)):ℚ) ≤ roundEven (w*2^(52-Int.log 2 w)) := by
      exact_mod_cast hunits
    gcongr
  · calc round v ≤ 2^(Int.log 2 v+1) := round_le_zpow hv
      _ ≤ 2^Int.log 2 w := zpow_le_zpow_right₀ (by norm_num) (by omega)
      _ ≤ round w := zpow_le_round hw

theorem round_mono {q q' : ℚ} (h : q ≤ q') : round q ≤ round q' := by
  rcases lt_or_ge 0 q with hq | hq
  · exact round_mono_of_pos hq h
  · have hleft : round q ≤ 0 := by
      have hneg : 0 ≤ round (-q) := round_nonneg (by linarith)
      rw [round_neg] at hneg
      linarith
    rcases le_or_gt 0 q' with hq' | hq'
    · exact hleft.trans (round_nonneg hq')
    · have hneg : round (-q') ≤ round (-q) := round_mono_of_pos (by linarith) (by linarith)
      rw [round_neg, round_neg] at hneg
      linarith

theorem div_mono_left {x y d : ℚ} (hd : 0 < d) (h : x ≤ y) : div x d ≤ div y d := by
  apply round_mono
  gcongr

end LegalForge.Double
