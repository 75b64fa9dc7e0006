import Mathlib

/-! IEEE double arithmetic in the normal range: the exact rational result,
rounded to 53 bits. -/
namespace LegalForge.Double

/-- The nearest integer, the even one at a midpoint. -/
def roundEven (q : ℚ) : ℤ :=
  if q-⌊q⌋ < 1/2 then ⌊q⌋
  else if 1/2 < q-⌊q⌋ then ⌊q⌋+1
  else ⌊q⌋+⌊q⌋%2

/-- The double nearest to `q`. -/
def round (q : ℚ) : ℚ :=
  if q = 0 then 0
  else
    let ulp : ℚ := 2^(Int.log 2 |q|-52)
    roundEven (q/ulp)*ulp

/-- `float * float` -/
def mul (x y : ℚ) : ℚ := round (x*y)

/-- `/`, also of two integers, whose quotient Python rounds once. -/
def div (x y : ℚ) : ℚ := round (x/y)

/-- `int(x)` drops the fraction. -/
def trunc (x : ℚ) : ℤ :=
  if 0 ≤ x then ⌊x⌋ else ⌈x⌉

theorem abs_roundEven_sub_le (q : ℚ) : |(roundEven q : ℚ)-q| ≤ 1/2 := by
  have hlow := Int.floor_le q
  have hhigh := Int.lt_floor_add_one q
  unfold roundEven
  split_ifs with hdown hup
  · rw [abs_le]
    constructor
    · linarith
    · linarith
  · rw [abs_le]
    push_cast
    constructor
    · linarith
    · linarith
  · -- at the midpoint one of the two neighbours is even
    have hmid : q-⌊q⌋ = 1/2 := by linarith
    rcases Int.emod_two_eq_zero_or_one ⌊q⌋ with hpar | hpar
    · rw [hpar, abs_le]
      push_cast
      constructor
      · linarith
      · linarith
    · rw [hpar, abs_le]
      push_cast
      constructor
      · linarith
      · linarith

theorem roundEven_nonneg {q : ℚ} (h : 0 ≤ q) : 0 ≤ roundEven q := by
  have hnear := (abs_le.mp (abs_roundEven_sub_le q)).1
  have hcast : (-1:ℚ) < roundEven q := by linarith
  have hint : -1 < roundEven q := by exact_mod_cast hcast
  omega

theorem round_nonneg {q : ℚ} (h : 0 ≤ q) : 0 ≤ round q := by
  unfold round
  split_ifs
  · exact le_rfl
  · have hunits : 0 ≤ roundEven (q/2^(Int.log 2 |q|-52)) := roundEven_nonneg (by positivity)
    have hcast : (0:ℚ) ≤ roundEven (q/2^(Int.log 2 |q|-52)) := by exact_mod_cast hunits
    exact mul_nonneg hcast (by positivity)

theorem trunc_nonneg {x : ℚ} (h : 0 ≤ x) : 0 ≤ trunc x := by
  rw [trunc, if_pos h]
  exact Int.floor_nonneg.mpr h

theorem roundEven_eq {q : ℚ} {n : ℤ} (h : |q-n| < 1/2) : roundEven q = n := by
  have hround := abs_roundEven_sub_le q
  have hsum : |((roundEven q-n : ℤ) : ℚ)| < 1 := by
    calc |((roundEven q-n : ℤ) : ℚ)| = |((roundEven q : ℚ)-q)+(q-n)| := by push_cast; ring_nf
      _ ≤ |(roundEven q : ℚ)-q|+|q-n| := abs_add_le _ _
      _ < 1 := by linarith
  have hint : |roundEven q-n| < 1 := by exact_mod_cast hsum
  have hzero := Int.abs_lt_one_iff.mp hint
  omega

/-- A double is off by at most half a unit in its last place. -/
theorem abs_round_sub_le_half {q : ℚ} (hq : q ≠ 0) :
    |round q-q| ≤ 1/2*2^(Int.log 2 |q|-52) := by
  have hpos : (0:ℚ) < 2^(Int.log 2 |q|-52) := by positivity
  have hscale : round q-q = (roundEven (q/2^(Int.log 2 |q|-52))-q/2^(Int.log 2 |q|-52))*
      2^(Int.log 2 |q|-52) := by
    rw [round, if_neg hq, sub_mul, div_mul_cancel₀ _ hpos.ne']
  calc |round q-q|
      = |(roundEven (q/2^(Int.log 2 |q|-52)) : ℚ)-q/2^(Int.log 2 |q|-52)| *
        2^(Int.log 2 |q|-52) := by rw [hscale, abs_mul, abs_of_pos hpos]
    _ ≤ 1/2*2^(Int.log 2 |q|-52) :=
      mul_le_mul_of_nonneg_right (abs_roundEven_sub_le _) hpos.le

theorem abs_round_sub_le (q : ℚ) : |round q-q| ≤ |q|/2^53 := by
  by_cases hq : q = 0
  · rw [round, if_pos hq, hq]
    norm_num
  · have hulp : (2:ℚ)^(Int.log 2 |q|-52) ≤ |q|/2^52 := by
      have hlog : ((2:ℕ):ℚ)^(Int.log 2 |q|) ≤ |q| := Int.zpow_log_le_self (by decide) (abs_pos.mpr hq)
      rw [zpow_sub₀ (by norm_num)]
      push_cast at hlog
      have hexp : (2:ℚ)^(52:ℤ) = 2^52 := by norm_cast
      rw [hexp]
      gcongr
    calc |round q-q| ≤ 1/2*2^(Int.log 2 |q|-52) := abs_round_sub_le_half hq
      _ ≤ 1/2*(|q|/2^52) := by linarith
      _ = |q|/2^53 := by ring

/-- The same by the binade that the number is in, or a higher one. -/
theorem abs_round_sub_le_of_lt {q : ℚ} {e : ℤ} (h : |q| < 2^e) : |round q-q| ≤ 2^(e-54) := by
  by_cases hq : q = 0
  · rw [round, if_pos hq, hq, sub_zero, abs_zero]
    positivity
  · have hlog : Int.log 2 |q| < e := by
      apply (Int.lt_zpow_iff_log_lt (by decide) (abs_pos.mpr hq)).mp
      exact_mod_cast h
    have hhalf : (1/2:ℚ)*2^(Int.log 2 |q|-52) = 2^(Int.log 2 |q|-53) := by
      rw [one_div, ← zpow_neg_one, ← zpow_add₀ (by norm_num)]
      congr 1
      ring
    calc |round q-q| ≤ 1/2*2^(Int.log 2 |q|-52) := abs_round_sub_le_half hq
      _ = 2^(Int.log 2 |q|-53) := hhalf
      _ ≤ 2^(e-54) := zpow_le_zpow_right₀ (by norm_num) (by omega)

/-- Division by `d` and rounding of `d` times the quotient give back the number, as long as it
has fewer than 52 bits. -/
theorem roundEven_mul_div {n : ℤ} {d : ℚ} (hd : 0 < d) (hn : |n| < 2^52) :
    roundEven (d*div n d) = n := by
  apply roundEven_eq
  have hcast : |(n:ℚ)| < 2^52 := by exact_mod_cast hn
  have hsplit : d*div n d-n = d*(round (n/d)-n/d) := by
    rw [mul_sub, mul_div_cancel₀ _ hd.ne', div]
  calc |d*div n d-n| = d*|round (n/d)-n/d| := by rw [hsplit, abs_mul, abs_of_pos hd]
    _ ≤ d*(|(n:ℚ)/d|/2^53) := by
      apply mul_le_mul_of_nonneg_left _ hd.le
      exact abs_round_sub_le _
    _ = |(n:ℚ)|/2^53 := by
      rw [abs_div, abs_of_pos hd]
      field_simp
    _ < 1/2 := by linarith

end LegalForge.Double
