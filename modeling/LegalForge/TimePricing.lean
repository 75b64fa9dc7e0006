import LegalForge.AccountingExport
import LegalForge.Billing
import LegalForge.DoubleRounding

/-! What an invoice bills for a time entry and what the accounting exports report for it. The
exports divide a product that is exact. The invoice multiplies a quotient that is rounded, and
loses a cent where the quotient is too small for the product to come back to a whole number. -/
namespace LegalForge.TimePricing
open Billing

/-- So many binary places give the hours 53 bits. -/
def hoursPlaces (minutes : ℕ) : ℕ :=
  58-Nat.log 2 (64*minutes/60)

/-- By how much `minutes*2^hoursPlaces` exceeds the nearest multiple of 60. -/
def hoursResidue (minutes : ℕ) : ℤ :=
  ((minutes*2^hoursPlaces minutes : ℕ)+30)%60-30

/-- A full amount of cents is not lost by hours rounded down, and one that lacks a sixtieth is not
reached by hours rounded up. -/
structure HoursSuffice (minutes rate : ℕ) : Prop where
  full : minutes*rate%60 = 0 → rate*hoursResidue minutes*2^54 ≤
    60*2^(hoursPlaces minutes+Nat.clog 2 (minutes*rate/60))
  short : minutes*rate%60 = 59 → 60*2^(hoursPlaces minutes+Nat.clog 2 (minutes*rate/60+1)) <
    2^(hoursPlaces minutes+54)+rate*hoursResidue minutes*2^54

/-- Invoice and exports have one price, the whole cents of the product. -/
def PricesAgree (entry : TimeEntry) : Prop :=
  lineAmount entry = Accounting.timeAmount entry ∧
    lineAmount entry = entry.durationMinutes*entry.rateCents/60

/-! The hours as a double. -/

/-- What the places are chosen for. -/
theorem hoursPlaces_spec {minutes : ℕ} (hpos : 0 < minutes) (hlt : minutes < 2^53) :
    5 ≤ hoursPlaces minutes ∧ 60*2^52 ≤ minutes*2^hoursPlaces minutes ∧
      minutes*2^hoursPlaces minutes < 60*2^53 := by
  set l := Nat.log 2 (64*minutes/60) with hl
  have hne : 64*minutes/60 ≠ 0 := by omega
  have hlow : 2^l ≤ 64*minutes/60 := Nat.pow_log_le_self 2 hne
  have hhigh : 64*minutes/60 < 2^(l+1) := Nat.lt_pow_succ_log_self (by decide) _
  have hl53 : l < 54 := by
    apply Nat.log_lt_of_lt_pow hne
    omega
  have hplaces : hoursPlaces minutes = 58-l := rfl
  have hsplit : 2^l*2^(58-l) = 2^58 := by
    rw [← pow_add]
    congr 1
    omega
  have hp : 0 < 2^(58-l) := by positivity
  rw [hplaces]
  refine ⟨by omega, ?_, ?_⟩
  · have hmul : 60*2^l ≤ 64*minutes := by omega
    have hscaled := Nat.mul_le_mul_right (2^(58-l)) hmul
    rw [mul_assoc, hsplit, mul_assoc] at hscaled
    omega
  · have hmul : 64*minutes < 60*2^(l+1) := by omega
    have hscaled := Nat.mul_lt_mul_of_pos_right hmul hp
    rw [pow_succ, mul_comm (2^l) 2, ← mul_assoc, mul_assoc (60*2), hsplit, mul_assoc] at hscaled
    omega

theorem hoursResidue_spec {minutes : ℕ} (hpos : 0 < minutes) (hlt : minutes < 2^53) :
    |hoursResidue minutes| < 30 ∧ ∃ k : ℤ,
      60*k = (minutes*2^hoursPlaces minutes : ℕ)-hoursResidue minutes := by
  obtain ⟨hfive, -, -⟩ := hoursPlaces_spec hpos hlt
  -- a multiple of four is never half way between two multiples of 60
  obtain ⟨x, hx⟩ : ∃ x, minutes*2^hoursPlaces minutes = 4*x := by
    obtain ⟨j, hj⟩ : ∃ j, hoursPlaces minutes = j+2 := ⟨hoursPlaces minutes-2, by omega⟩
    exact ⟨minutes*2^j, by rw [hj, pow_add]; ring⟩
  unfold hoursResidue
  rw [hx, abs_lt]
  refine ⟨⟨by omega, by omega⟩, ((4*x : ℕ)+30)/60, by omega⟩

/-- The double of the hours, by its residue. -/
theorem div_sixty {minutes : ℕ} (hpos : 0 < minutes) (hlt : minutes < 2^53) :
    Double.div minutes 60 =
      minutes/60-hoursResidue minutes/(60*2^hoursPlaces minutes) := by
  obtain ⟨-, hlow, hhigh⟩ := hoursPlaces_spec hpos hlt
  obtain ⟨hres, k, hk⟩ := hoursResidue_spec hpos hlt
  set p := hoursPlaces minutes with hp
  set s := hoursResidue minutes with hs
  have hquot : (0:ℚ) < minutes/60 := by positivity
  have hpow : (0:ℚ) < 2^p := by positivity
  have hlow' : (60:ℚ)*2^52 ≤ minutes*2^p := by exact_mod_cast hlow
  have hhigh' : (minutes:ℚ)*2^p < 60*2^53 := by exact_mod_cast hhigh
  have hk' : (60:ℚ)*k = minutes*2^p-s := by exact_mod_cast hk
  have hzpow : ∀ n : ℕ, (2:ℚ)^((n:ℤ)-p) = 2^n/2^p := by
    intro n
    rw [zpow_sub₀ (by norm_num), zpow_natCast, zpow_natCast]
  -- the binade of the quotient
  have hlog : Int.log 2 ((minutes:ℚ)/60) = 52-p := by
    have hge : (52:ℤ)-p ≤ Int.log 2 ((minutes:ℚ)/60) := by
      apply (Int.zpow_le_iff_le_log (by decide) hquot).mp
      have h52 := hzpow 52
      push_cast at h52 ⊢
      rw [h52, div_le_div_iff₀ hpow (by norm_num)]
      linarith
    have hlt53 : Int.log 2 ((minutes:ℚ)/60) < 53-p := by
      apply (Int.lt_zpow_iff_log_lt (by decide) hquot).mp
      have h53 := hzpow 53
      push_cast at h53 ⊢
      rw [h53, div_lt_div_iff₀ (by norm_num) hpow]
      linarith
    omega
  -- in units of its last place the quotient is less than a half away from `k`
  have hround : Double.roundEven (minutes/60*2^p) = k := by
    apply Double.roundEven_eq
    have hdiff : (minutes:ℚ)/60*2^p-k = s/60 := by linarith
    have hcast : |(s:ℚ)| < 30 := by exact_mod_cast hres
    rw [hdiff, abs_div, abs_of_pos (by norm_num : (0:ℚ) < 60), div_lt_iff₀ (by norm_num)]
    linarith
  have hup : (2:ℚ)^(52-(52-(p:ℤ))) = 2^p := by
    rw [sub_sub_cancel, zpow_natCast]
  have hdown : (2:ℚ)^(52-(p:ℤ)-52) = (2^p)⁻¹ := by
    rw [sub_sub_cancel_left, zpow_neg, zpow_natCast]
  rw [Double.div, Double.round_of_pos hquot, hlog, hup, hdown, hround]
  have hkq : (k:ℚ) = (minutes*2^p-s)/60 := by linarith
  rw [hkq]
  field_simp

/-! When the product comes to a given number of cents. -/

section Product

variable {minutes rate : ℕ}

/-- The rounded product reaches `m` cents, from which `t` sixtieths are left. -/
def Reaches (minutes rate m : ℕ) (t : ℤ) : Prop :=
  rate*hoursResidue minutes*2^54 ≤ 2^hoursPlaces minutes*(t*2^54+60*2^Nat.clog 2 m)

theorem reaches_iff (hpos : 0 < minutes) (hlt : minutes < 2^53) {m : ℕ} {t : ℤ}
    (h : (minutes*rate : ℕ) = 60*m+t) :
    (m:ℚ)-2^((Nat.clog 2 m:ℤ)-54) ≤ Double.div minutes 60*rate ↔ Reaches minutes rate m t := by
  rw [div_sixty hpos hlt]
  set p := hoursPlaces minutes with hp
  set s := hoursResidue minutes with hs
  set c := Nat.clog 2 m with hc
  have hpow : (0:ℚ) < 2^p := by positivity
  have hprod : (minutes:ℚ)*rate = 60*m+t := by exact_mod_cast h
  have hhalf : (2:ℚ)^((c:ℤ)-54) = 2^c/2^54 := by
    rw [zpow_sub₀ (by norm_num), zpow_natCast]
    norm_cast
  have hscale : ((minutes/60-s/(60*2^p))*rate-(m-2^c/2^54))*(60*2^p*2^54) =
      2^p*(t*2^54+60*2^c)-rate*s*(2:ℚ)^54 := by
    have ht : (t:ℚ) = minutes*rate-60*m := by linarith
    rw [ht]
    field_simp
    ring
  have hint : Reaches minutes rate m t ↔
      (rate*s*2^54 : ℚ) ≤ 2^p*(t*2^54+60*2^c) := by
    unfold Reaches
    rw [← hp, ← hs, ← hc]
    exact_mod_cast Iff.rfl
  have hunit : (0:ℚ) < 60*2^p*2^54 := by positivity
  rw [hint, hhalf, ← sub_nonneg, ← mul_nonneg_iff_of_pos_right hunit, hscale, sub_nonneg]

/-- The residue weighs less than a sixtieth of a cent. -/
theorem thirty_mul_rate_lt (hpos : 0 < minutes) (hlt : minutes < 2^53)
    (hprod : minutes*rate < 2^53) : 30*rate < 2^hoursPlaces minutes := by
  obtain ⟨-, hlow, -⟩ := hoursPlaces_spec hpos hlt
  have hmul : minutes*(30*rate) < minutes*2^hoursPlaces minutes := by
    have hassoc : minutes*(30*rate) = 30*(minutes*rate) := by ring
    omega
  exact Nat.lt_of_mul_lt_mul_left hmul

theorem abs_rate_mul_residue_lt (hpos : 0 < minutes) (hlt : minutes < 2^53)
    (hprod : minutes*rate < 2^53) : |(rate:ℤ)*hoursResidue minutes| < 2^hoursPlaces minutes := by
  have hsmall : (30*rate : ℤ) < 2^hoursPlaces minutes := by
    exact_mod_cast thirty_mul_rate_lt hpos hlt hprod
  have hres := (hoursResidue_spec hpos hlt).1
  calc |(rate:ℤ)*hoursResidue minutes| = rate*|hoursResidue minutes| := by
        rw [abs_mul, Nat.abs_cast]
    _ ≤ rate*30 := by
        apply mul_le_mul_of_nonneg_left _ (Nat.cast_nonneg rate)
        omega
    _ < 2^hoursPlaces minutes := by linarith

/-- Up to 53 bits a whole number of cents lies less than a sixtieth above its lower midpoint. -/
theorem clog_cents_le {m : ℕ} (hm : 60*m < 2^53) : Nat.clog 2 (m+1) ≤ 48 := by
  apply Nat.clog_le_of_le_pow
  omega

/-- The product is in the range of the doubles with a binary place. -/
theorem hours_mul_rate_mem (hpos : 0 < minutes) (hrate : 0 < rate) (hprod : minutes*rate < 2^53) :
    0 < Double.div minutes 60*rate ∧ Double.div minutes 60*rate < 2^53 := by
  have hrateq : (1:ℚ) ≤ rate := by exact_mod_cast hrate
  have hminutes : (1:ℚ) ≤ minutes := by exact_mod_cast hpos
  have hprodq : (minutes:ℚ)*rate < 2^53 := by exact_mod_cast hprod
  have hnear := abs_le.mp (Double.abs_round_sub_le ((minutes:ℚ)/60))
  rw [abs_of_pos (by positivity)] at hnear
  have hdiv : 0 < Double.div minutes 60 ∧ Double.div minutes 60 ≤ minutes/30 := by
    unfold Double.div
    constructor
    · linarith
    · linarith
  refine ⟨mul_pos hdiv.1 (by linarith), ?_⟩
  calc Double.div minutes 60*rate ≤ minutes/30*rate := by gcongr; exact hdiv.2
    _ = minutes*rate/30 := by ring
    _ < 2^53 := by linarith

/-- Only without a remainder can the product fall short of the whole cents. -/
theorem reaches_full_iff (hpos : 0 < minutes) (hlt : minutes < 2^53) (hprod : minutes*rate < 2^53) :
    Reaches minutes rate (minutes*rate/60) ((minutes*rate%60 : ℕ) : ℤ) ↔
      (minutes*rate%60 = 0 → rate*hoursResidue minutes*2^54 ≤
        60*2^(hoursPlaces minutes+Nat.clog 2 (minutes*rate/60))) := by
  have hsmall := abs_lt.mp (abs_rate_mul_residue_lt hpos hlt hprod)
  unfold Reaches
  set m := minutes*rate/60 with hm
  set p := hoursPlaces minutes with hp
  have hunit : (0:ℤ) < 2^p := by positivity
  rcases Nat.eq_zero_or_pos (minutes*rate%60) with hzero | hrem
  · have hscale : (2:ℤ)^p*(((0:ℕ):ℤ)*2^54+60*2^Nat.clog 2 m) = 60*2^(p+Nat.clog 2 m) := by
      rw [pow_add]
      push_cast
      ring
    rw [hzero, hscale]
    exact ⟨fun h _ => h, fun h => h rfl⟩
  · refine iff_of_true ?_ fun hzero => by omega
    have hone : (1:ℤ) ≤ ((minutes*rate%60 : ℕ) : ℤ) := by omega
    have hpow : (0:ℤ) ≤ 60*2^Nat.clog 2 m := by positivity
    calc (rate:ℤ)*hoursResidue minutes*2^54 ≤ 2^p*2^54 := by
          apply mul_le_mul_of_nonneg_right hsmall.2.le
          norm_num
      _ ≤ 2^p*(((minutes*rate%60 : ℕ) : ℤ)*2^54+60*2^Nat.clog 2 m) := by
          apply mul_le_mul_of_nonneg_left _ hunit.le
          linarith

/-- Only with the largest remainder can it come to a cent too much. -/
theorem not_reaches_short_iff (hpos : 0 < minutes) (hlt : minutes < 2^53)
    (hprod : minutes*rate < 2^53) :
    ¬Reaches minutes rate (minutes*rate/60+1) (((minutes*rate%60 : ℕ) : ℤ)-60) ↔
      (minutes*rate%60 = 59 → 60*2^(hoursPlaces minutes+Nat.clog 2 (minutes*rate/60+1)) <
        2^(hoursPlaces minutes+54)+rate*hoursResidue minutes*2^54) := by
  have hsmall := abs_lt.mp (abs_rate_mul_residue_lt hpos hlt hprod)
  unfold Reaches
  rw [not_le]
  set m := minutes*rate/60 with hm
  set p := hoursPlaces minutes with hp
  set s := hoursResidue minutes with hs
  have hunit : (0:ℤ) < 2^p := by positivity
  have hclog : Nat.clog 2 (m+1) ≤ 48 := clog_cents_le (by omega)
  have hmargin : (60:ℤ)*2^Nat.clog 2 (m+1) ≤ 60*2^48 := by
    have hpow : (2:ℤ)^Nat.clog 2 (m+1) ≤ 2^48 := pow_le_pow_right₀ (by norm_num) hclog
    linarith
  -- one sixtieth below the next cent the errors can matter, two below they cannot
  rcases (by omega : minutes*rate%60 = 59 ∨ minutes*rate%60 ≤ 58) with hlast | hrem
  · have hscale : (2:ℤ)^p*((((59:ℕ):ℤ)-60)*2^54+60*2^Nat.clog 2 (m+1)) =
        60*2^(p+Nat.clog 2 (m+1))-2^(p+54) := by
      rw [pow_add, pow_add]
      push_cast
      ring
    rw [hlast, hscale]
    constructor
    · intro h _
      linarith
    · intro h
      have hlt59 := h rfl
      linarith
  · refine iff_of_true ?_ fun hlast => by omega
    have htwo : ((minutes*rate%60 : ℕ) : ℤ)-60 ≤ -2 := by omega
    calc (2:ℤ)^p*((((minutes*rate%60 : ℕ) : ℤ)-60)*2^54+60*2^Nat.clog 2 (m+1))
        ≤ 2^p*(-2*2^54+60*2^48) := by
          apply mul_le_mul_of_nonneg_left _ hunit.le
          linarith
      _ < -2^p*2^54 := by linarith
      _ ≤ rate*s*2^54 := by
          apply mul_le_mul_of_nonneg_right hsmall.1.le
          norm_num

/-- The product is cut to `m` cents if it reaches them and not the next one. -/
theorem trunc_mul_eq_iff (hpos : 0 < minutes) (hrate : 0 < rate) (hprod : minutes*rate < 2^53)
    {m : ℕ} {t : ℤ} (hm : m+1 < 2^52) (h : (minutes*rate : ℕ) = 60*(m:ℤ)+t) :
    Double.trunc (Double.mul (Double.div minutes 60) rate) = m ↔
      Reaches minutes rate m t ∧ ¬Reaches minutes rate (m+1) (t-60) := by
  have hlt : minutes < 2^53 := lt_of_le_of_lt (Nat.le_mul_of_pos_right minutes hrate) hprod
  obtain ⟨hv, hv'⟩ := hours_mul_rate_mem hpos hrate hprod
  have hnext : (minutes*rate : ℕ) = 60*((m+1 : ℕ) : ℤ)+(t-60) := by
    rw [h]
    push_cast
    ring
  rw [Double.mul, Double.trunc_round_eq_iff hm hv hv', reaches_iff hpos hlt h,
    reaches_iff hpos hlt hnext]

/-- The invoice bills the whole cents exactly if the hours suffice for them. -/
theorem billed_iff (hpos : 0 < minutes) (hprod : minutes*rate < 2^53) :
    Double.trunc (Double.mul (Double.div minutes 60) rate) = (minutes*rate/60 : ℕ) ↔
      HoursSuffice minutes rate := by
  rcases Nat.eq_zero_or_pos rate with rfl | hrate
  · have hzero : Double.mul (Double.div minutes 60) ((0:ℕ):ℚ) = 0 := by
      rw [Nat.cast_zero, Double.mul, mul_zero, Double.round, if_pos rfl]
    rw [hzero, mul_zero]
    refine iff_of_true rfl ⟨fun _ => ?_, fun h => by omega⟩
    rw [Nat.cast_zero, zero_mul, zero_mul]
    positivity
  have hlt : minutes < 2^53 := lt_of_le_of_lt (Nat.le_mul_of_pos_right minutes hrate) hprod
  have hsplit : (minutes*rate : ℕ) = 60*((minutes*rate/60 : ℕ) : ℤ)+((minutes*rate%60 : ℕ) : ℤ) := by
    omega
  rw [trunc_mul_eq_iff hpos hrate hprod (by omega) hsplit, reaches_full_iff hpos hlt hprod,
    not_reaches_short_iff hpos hlt hprod]
  exact ⟨fun h => ⟨h.1, h.2⟩, fun h => ⟨h.full, h.short⟩⟩

/-- The exports report the whole cents. -/
theorem exported_eq (hprod : minutes*rate < 2^53) :
    Double.trunc (Double.div ((minutes*rate : ℕ):ℚ) 60) = (minutes*rate/60 : ℕ) := by
  rcases Nat.eq_zero_or_pos (minutes*rate) with hzero | hpos
  · rw [hzero, Nat.cast_zero, Double.div, zero_div, Double.round, if_pos rfl]
    rfl
  set n := minutes*rate with hn
  have hclog : Nat.clog 2 (n/60+1) ≤ 48 := clog_cents_le (by omega)
  have hquot : (0:ℚ) < (n:ℚ)/60 := by positivity
  have hlt : (n:ℚ) < 2^53 := by exact_mod_cast hprod
  rw [Double.div, Double.trunc_round_eq_iff (by omega) hquot (by linarith)]
  have hhalf : (0:ℚ) < 2^((Nat.clog 2 (n/60):ℤ)-54) := by positivity
  have hmargin : (2:ℚ)^((Nat.clog 2 (n/60+1):ℤ)-54) ≤ 1/64 := by
    calc (2:ℚ)^((Nat.clog 2 (n/60+1):ℤ)-54) ≤ 2^(-6:ℤ) :=
          zpow_le_zpow_right₀ (by norm_num) (by omega)
      _ = 1/64 := by norm_num
  have hlow : ((n/60 : ℕ):ℚ) ≤ n/60 := Nat.cast_div_le
  have hhigh : (n:ℚ)+1 ≤ 60*((n/60+1 : ℕ):ℚ) := by
    have hint : n+1 ≤ 60*(n/60+1) := by omega
    exact_mod_cast hint
  constructor
  · linarith
  · intro hreached
    linarith

end Product

/-- Invoice and exports price an entry alike exactly if the hours suffice for the rate. -/
theorem pricesAgree_iff (entry : TimeEntry) (hminutes : 1 ≤ entry.durationMinutes)
    (hrate : 0 ≤ entry.rateCents) (hprod : entry.durationMinutes*entry.rateCents < 2^53) :
    PricesAgree entry ↔ HoursSuffice entry.durationMinutes.toNat entry.rateCents.toNat := by
  obtain ⟨minutes, hm⟩ := Int.eq_ofNat_of_zero_le (by omega : 0 ≤ entry.durationMinutes)
  obtain ⟨rate, hr⟩ := Int.eq_ofNat_of_zero_le hrate
  have hprodNat : minutes*rate < 2^53 := by
    rw [hm, hr] at hprod
    exact_mod_cast hprod
  have hexported : Accounting.timeAmount entry = (minutes*rate/60 : ℕ) := by
    rw [← exported_eq hprodNat, Accounting.timeAmount, hm, hr, mul_comm minutes]
    push_cast
    rfl
  have hfloor : entry.durationMinutes*entry.rateCents/60 = ((minutes*rate/60 : ℕ) : ℤ) := by
    rw [hm, hr]
    push_cast
    rfl
  have hbilled : lineAmount entry =
      Double.trunc (Double.mul (Double.div minutes 60) rate) := by
    rw [lineAmount, hm, hr]
    rfl
  rw [PricesAgree, hexported, hfloor, and_self, hbilled, hm, hr, Int.toNat_natCast,
    Int.toNat_natCast]
  exact billed_iff (by omega) hprodNat

/-- Eleven minutes at 360 dollars. -/
def elevenMinutes : TimeEntry :=
  ⟨7, 5, 2, 738945, 11, "call with client", true, 36000, none⟩

theorem pricesAgree_iff_elevenMinutes :
    (1 ≤ elevenMinutes.durationMinutes ∧ 0 ≤ elevenMinutes.rateCents ∧
      elevenMinutes.durationMinutes*elevenMinutes.rateCents < 2^53) ∧
    (PricesAgree elevenMinutes ↔ HoursSuffice 11 36000) :=
  ⟨by decide, pricesAgree_iff elevenMinutes (by decide) (by decide) (by decide)⟩

/-- The exports report 6600 cents, the invoice bills 6599. -/
theorem not_pricesAgree_elevenMinutes : ¬ ∀ entry : TimeEntry, 1 ≤ entry.durationMinutes →
    0 ≤ entry.rateCents → entry.durationMinutes*entry.rateCents < 2^53 → PricesAgree entry := by
  intro h
  have hagree := (h elevenMinutes (by decide) (by decide) (by decide)).2
  have hbilled : lineAmount elevenMinutes = 6599 := by decide +kernel
  rw [hbilled] at hagree
  revert hagree
  decide

end LegalForge.TimePricing
