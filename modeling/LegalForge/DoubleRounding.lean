import LegalForge.DoubleArithmetic

/-! Rounding to 53 bits and signs, and from which point on it reaches an integer. -/
namespace LegalForge.Double

/-- The rule for midpoints looks at neither sign. -/
theorem roundEven_neg (q : ℚ) : roundEven (-q) = -roundEven q := by
  have hlow := Int.floor_le q
  have hhigh := Int.lt_floor_add_one q
  by_cases hint : q = ⌊q⌋
  · have hfloor : ⌊-q⌋ = -⌊q⌋ := by
      rw [hint, ← Int.cast_neg, Int.floor_intCast, Int.floor_intCast]
    have hround : ∀ p : ℚ, p = ⌊p⌋ → roundEven p = ⌊p⌋ := by
      intro p hp
      rw [roundEven, if_pos (by linarith)]
    rw [hround q hint, hround (-q) (by rw [hfloor]; push_cast; linarith), hfloor]
  · have hlt : (⌊q⌋:ℚ) < q := lt_of_le_of_ne hlow (Ne.symm hint)
    have hfloor : ⌊-q⌋ = -⌊q⌋-1 := by
      rw [Int.floor_eq_iff]
      push_cast
      constructor
      · linarith
      · linarith
    unfold roundEven
    rw [hfloor]
    push_cast
    rcases lt_trichotomy (q-⌊q⌋) (1/2) with h | h | h
    · rw [if_pos h, if_neg (by linarith), if_pos (by linarith)]
      ring
    · rw [if_neg (by linarith), if_neg (by linarith), if_neg (by linarith), if_neg (by linarith)]
      omega
    · rw [if_pos (by linarith), if_neg (by linarith), if_pos h]
      ring

theorem round_neg (q : ℚ) : round (-q) = -round q := by
  by_cases hq : q = 0
  · rw [hq, neg_zero, round, if_pos rfl, neg_zero]
  · rw [round, round, if_neg hq, if_neg (neg_ne_zero.mpr hq)]
    simp only [abs_neg, neg_div, roundEven_neg]
    push_cast
    ring

theorem div_neg (x y : ℚ) : div (-x) y = -div x y := by
  rw [div, neg_div, round_neg, div]

theorem le_roundEven {q : ℚ} {n : ℤ} (h : n ≤ q) : n ≤ roundEven q := by
  have hfloor : n ≤ ⌊q⌋ := Int.le_floor.mpr h
  unfold roundEven
  split_ifs
  · exact hfloor
  · omega
  · omega

theorem roundEven_le {q : ℚ} {n : ℤ} (h : q ≤ n) : roundEven q ≤ n := by
  have hneg : -n ≤ roundEven (-q) := le_roundEven (by push_cast; linarith)
  rw [roundEven_neg] at hneg
  omega

theorem roundEven_intCast (n : ℤ) : roundEven n = n :=
  le_antisymm (roundEven_le le_rfl) (le_roundEven le_rfl)

/-- An even integer is reached from its lower midpoint on. -/
theorem le_roundEven_iff {q : ℚ} {n : ℤ} (heven : n%2 = 0) :
    n ≤ roundEven q ↔ (n:ℚ)-1/2 ≤ q := by
  have hnear := abs_le.mp (abs_roundEven_sub_le q)
  constructor
  · intro h
    have hcast : (n:ℚ) ≤ roundEven q := by exact_mod_cast h
    linarith
  · intro h
    by_contra hlt
    have hcast : (roundEven q:ℚ) ≤ n-1 := by
      have hint : roundEven q ≤ n-1 := by omega
      exact_mod_cast hint
    -- only the midpoint itself is left, and there the rounding goes to the even side
    have hmid : q = n-1/2 := by linarith
    have hfloor : ⌊q⌋ = n-1 := by
      rw [Int.floor_eq_iff]
      push_cast
      constructor
      · linarith
      · linarith
    have hround : roundEven q = n := by
      unfold roundEven
      rw [hfloor]
      push_cast
      rw [if_neg (by linarith), if_neg (by linarith)]
      omega
    omega

/-- A positive number in units of its last place. -/
theorem round_of_pos {v : ℚ} (hv : 0 < v) :
    round v = roundEven (v*2^(52-Int.log 2 v))*2^(Int.log 2 v-52) := by
  have hneg : (2:ℚ)^(52-Int.log 2 v) = (2^(Int.log 2 v-52))⁻¹ := by
    rw [← zpow_neg, neg_sub]
  rw [round, if_neg hv.ne', abs_of_pos hv, hneg, ← div_eq_mul_inv]

theorem le_round_iff_units {x v : ℚ} (hv : 0 < v) :
    x ≤ round v ↔ x*2^(52-Int.log 2 v) ≤ roundEven (v*2^(52-Int.log 2 v)) := by
  have hunit : (0:ℚ) < 2^(52-Int.log 2 v) := by positivity
  have hone : (2:ℚ)^(Int.log 2 v-52)*2^(52-Int.log 2 v) = 1 := by
    rw [← zpow_add₀ (by norm_num)]
    simp
  rw [round_of_pos hv, ← mul_le_mul_iff_left₀ hunit, mul_assoc, hone, mul_one]

theorem intCast_mul_zpow {t : ℤ} (ht : 0 ≤ t) (n : ℤ) :
    (n:ℚ)*2^t = ((n*2^t.toNat : ℤ) : ℚ) := by
  obtain ⟨k, rfl⟩ := Int.eq_ofNat_of_zero_le ht
  push_cast
  rw [zpow_natCast, Int.toNat_natCast]

/-- Integers of up to 53 bits are doubles. -/
theorem round_intCast {n : ℤ} (h : |n| < 2^53) : round n = n := by
  have hpos : ∀ m : ℤ, 0 < m → m < 2^53 → round m = m := by
    intro m hm hlt
    have hcast : (0:ℚ) < m := by exact_mod_cast hm
    have hlog : Int.log 2 (m:ℚ) < 53 := by
      apply (Int.lt_zpow_iff_log_lt (by decide) hcast).mp
      exact_mod_cast hlt
    have hone : (2:ℚ)^(52-Int.log 2 (m:ℚ))*2^(Int.log 2 (m:ℚ)-52) = 1 := by
      rw [← zpow_add₀ (by norm_num)]
      simp
    rw [round_of_pos hcast]
    have hint := intCast_mul_zpow (t := 52-Int.log 2 (m:ℚ)) (by omega) m
    rw [hint, roundEven_intCast, ← hint, mul_assoc, hone, mul_one]
  rcases lt_trichotomy n 0 with hn | rfl | hn
  · have hneg := hpos (-n) (by omega) (by rw [abs_of_neg hn] at h; exact h)
    rw [Int.cast_neg, round_neg] at hneg
    exact neg_injective hneg
  · rw [Int.cast_zero, round, if_pos rfl]
  · exact hpos n hn (by rw [abs_of_pos hn] at h; exact h)

/-- No number is rounded past the next power of two. -/
theorem round_le_zpow {v : ℚ} (hv : 0 < v) : round v ≤ 2^(Int.log 2 v+1) := by
  have hunit : (0:ℚ) < 2^(52-Int.log 2 v) := by positivity
  have hbelow : v ≤ 2^(Int.log 2 v+1) := (Int.lt_zpow_succ_log_self (by decide : 1 < 2) v).le
  have htop : v*2^(52-Int.log 2 v) ≤ ((2^53 : ℤ) : ℚ) := by
    calc v*2^(52-Int.log 2 v) ≤ 2^(Int.log 2 v+1)*2^(52-Int.log 2 v) := by
          apply mul_le_mul_of_nonneg_right hbelow hunit.le
      _ = 2^(53:ℤ) := by rw [← zpow_add₀ (by norm_num)]; congr 1; ring
      _ = ((2^53 : ℤ) : ℚ) := by norm_num
  have hround : (roundEven (v*2^(52-Int.log 2 v)):ℚ) ≤ 2^53 := by exact_mod_cast roundEven_le htop
  rw [round_of_pos hv]
  calc (roundEven (v*2^(52-Int.log 2 v)):ℚ)*2^(Int.log 2 v-52) ≤ 2^53*2^(Int.log 2 v-52) := by
        apply mul_le_mul_of_nonneg_right hround
        positivity
    _ = 2^(Int.log 2 v+1) := by
        rw [← zpow_natCast, ← zpow_add₀ (by norm_num)]
        congr 1
        push_cast
        ring

/-- An integer that a number reaches is reached after rounding too. -/
theorem le_round_of_le {n : ℤ} {v : ℚ} (hv : 0 < v) (hlog : Int.log 2 v ≤ 52) (h : n ≤ v) :
    n ≤ round v := by
  have hint := intCast_mul_zpow (t := 52-Int.log 2 v) (by omega) n
  rw [le_round_iff_units hv, hint, Int.cast_le]
  apply le_roundEven
  rw [← hint]
  gcongr

/-- Where two units make an integer, an integer is reached from half a unit below it on. -/
theorem le_round_iff_of_log {n : ℤ} {v : ℚ} (hv : 0 < v) (hlog : Int.log 2 v ≤ 51) :
    (n:ℚ) ≤ round v ↔ n-2^(Int.log 2 v-53) ≤ v := by
  have hint := intCast_mul_zpow (t := 52-Int.log 2 v) (by omega) n
  have heven : (n*2^(52-Int.log 2 v).toNat)%2 = 0 := by
    obtain ⟨j, hj⟩ : ∃ j, (52-Int.log 2 v).toNat = j+1 := ⟨(52-Int.log 2 v).toNat-1, by omega⟩
    rw [hj, pow_succ, ← mul_assoc]
    omega
  have hhalf : (2:ℚ)^(Int.log 2 v-53)*2^(52-Int.log 2 v) = 1/2 := by
    rw [← zpow_add₀ (by norm_num)]
    have hexp : Int.log 2 v-53+(52-Int.log 2 v) = -1 := by ring
    rw [hexp]
    norm_num
  have hunit : (0:ℚ) < 2^(52-Int.log 2 v) := by positivity
  rw [le_round_iff_units hv, hint, Int.cast_le, le_roundEven_iff heven, ← hint, ← hhalf, ← sub_mul,
    mul_le_mul_iff_left₀ hunit]

/-- The lower half of the gap below an integer is lost to it. -/
theorem le_round_iff {m : ℕ} (hm : 0 < m) (hlt : m < 2^52) {v : ℚ} (hv : 0 < v) (hv' : v < 2^53) :
    (m:ℚ) ≤ round v ↔ m-2^((Nat.clog 2 m:ℤ)-54) ≤ v := by
  set k := Nat.clog 2 m with hk
  set e := Int.log 2 v with he
  have hmcast : (0:ℚ) < m := by exact_mod_cast hm
  have hclog : Int.clog 2 (m:ℚ) = k := Int.clog_natCast 2 m
  have hlow : (2:ℚ)^((k:ℤ)-1) < m := by
    have h := Int.zpow_pred_clog_lt_self (by decide : 1 < 2) hmcast
    rwa [hclog] at h
  have hhigh : (m:ℚ) ≤ 2^(k:ℤ) := by
    have h := Int.self_le_zpow_clog (by decide : 1 < 2) (m:ℚ)
    rwa [hclog] at h
  have hk52 : k ≤ 52 := Nat.clog_le_of_le_pow hlt.le
  have hlogLow : (2:ℚ)^e ≤ v := Int.zpow_log_le_self (by decide) hv
  have hlogHigh : v < 2^(e+1) := Int.lt_zpow_succ_log_self (by decide) v
  have he52 : e < 53 := by
    apply (Int.lt_zpow_iff_log_lt (by decide) hv).mp
    exact_mod_cast hv'
  have hhalf : (0:ℚ) < 2^((k:ℤ)-54) := by positivity
  rcases lt_trichotomy e ((k:ℤ)-1) with hcase | hcase | hcase
  · -- below the binade of `m`
    have hpow : (2:ℚ)^(e+1) ≤ 2^((k:ℤ)-1) := zpow_le_zpow_right₀ (by norm_num) (by omega)
    have hgap : (2:ℚ)^((k:ℤ)-1) ≤ m-2^((k:ℤ)-54) := by
      rcases Nat.eq_zero_or_pos k with hzero | hkpos
      · have hone : (1:ℚ) ≤ m := by exact_mod_cast hm
        rw [hzero]
        norm_num
        linarith
      · have hint : (2:ℚ)^((k:ℤ)-1)+1 ≤ m := by
          obtain ⟨j, hj⟩ : ∃ j : ℕ, (k:ℤ)-1 = j := ⟨k-1, by omega⟩
          rw [hj, zpow_natCast] at hlow ⊢
          exact_mod_cast hlow
        have hsmall : (2:ℚ)^((k:ℤ)-54) ≤ 2^(0:ℤ) := zpow_le_zpow_right₀ (by norm_num) (by omega)
        rw [zpow_zero] at hsmall
        linarith
    have hround := round_le_zpow hv
    exact iff_of_false (by linarith) (by linarith)
  · -- in it the gap below `m` is one unit
    have hsame := @le_round_iff_of_log m v hv (by omega)
    have hexp : Int.log 2 v-53 = (k:ℤ)-54 := by omega
    rw [hexp] at hsame
    exact_mod_cast hsame
  · -- above it
    have hpow : (2:ℚ)^(k:ℤ) ≤ 2^e := zpow_le_zpow_right₀ (by norm_num) (by omega)
    have hle : ((m:ℤ):ℚ) ≤ v := by
      rw [Int.cast_natCast]
      linarith
    have hreached := le_round_of_le hv (by omega) hle
    rw [Int.cast_natCast] at hle hreached
    exact iff_of_true hreached (by linarith)

/-- Which numbers are rounded and cut to an integer. -/
theorem trunc_round_eq_iff {m : ℕ} (hm : m+1 < 2^52) {v : ℚ} (hv : 0 < v) (hv' : v < 2^53) :
    trunc (round v) = m ↔ (m:ℚ)-2^((Nat.clog 2 m:ℤ)-54) ≤ v ∧
      ¬((m+1 : ℕ):ℚ)-2^((Nat.clog 2 (m+1):ℤ)-54) ≤ v := by
  have hnonneg : 0 ≤ round v := round_nonneg hv.le
  have hlow : (m:ℚ) ≤ round v ↔ (m:ℚ)-2^((Nat.clog 2 m:ℤ)-54) ≤ v := by
    rcases Nat.eq_zero_or_pos m with rfl | hpos
    · have hhalf : (0:ℚ) < 2^((Nat.clog 2 0:ℤ)-54) := by positivity
      rw [Nat.cast_zero]
      exact iff_of_true hnonneg (by linarith)
    · exact le_round_iff hpos (by omega) hv hv'
  rw [trunc, if_pos hnonneg, Int.floor_eq_iff, Int.cast_natCast, hlow,
    ← le_round_iff (Nat.succ_pos m) hm hv hv', not_le, Nat.cast_succ]

end LegalForge.Double
