import LegalForge.TimePricing

/-! The cents that a line bills. They are the whole cents of the product, but for the products of
doubles that come out on the other side of a cent. -/
namespace LegalForge.TimePricing
open Billing

/-- `int(minutes / 60 * rate)` -/
def billedCents (minutes rate : ℕ) : ℤ :=
  Double.trunc (Double.mul (Double.div minutes 60) rate)

/-- Whole cents, one of which is lost by hours that are rounded down. -/
def LosesCent (minutes rate : ℕ) : Prop :=
  minutes*rate%60 = 0 ∧ 60*2^(hoursPlaces minutes+Nat.clog 2 (minutes*rate/60)) <
    rate*hoursResidue minutes*2^54

/-- Cents that lack a sixtieth, which hours that are rounded up make good. -/
def GainsCent (minutes rate : ℕ) : Prop :=
  minutes*rate%60 = 59 ∧ 2^(hoursPlaces minutes+54)+rate*hoursResidue minutes*2^54 ≤
    60*2^(hoursPlaces minutes+Nat.clog 2 (minutes*rate/60+1))

instance (minutes rate : ℕ) : Decidable (LosesCent minutes rate) :=
  inferInstanceAs (Decidable (_ ∧ _))

instance (minutes rate : ℕ) : Decidable (GainsCent minutes rate) :=
  inferInstanceAs (Decidable (_ ∧ _))

/-- How many cents the doubles add to the whole cents. Products of more than 53 bits have to be
computed. -/
def carriedCents (minutes rate : ℕ) : ℤ :=
  if 2^53 ≤ minutes*rate then billedCents minutes rate-(minutes*rate/60 : ℕ)
  else if LosesCent minutes rate then -1
  else if GainsCent minutes rate then 1
  else 0

section
variable {minutes rate : ℕ}

theorem hoursSuffice_iff :
    HoursSuffice minutes rate ↔ ¬LosesCent minutes rate ∧ ¬GainsCent minutes rate := by
  unfold LosesCent GainsCent
  rw [not_and, not_lt, not_and, not_le]
  exact ⟨fun h => ⟨h.full, h.short⟩, fun h => ⟨h.1, h.2⟩⟩

theorem billedCents_of_losesCent (hpos : 0 < minutes) (hprod : minutes*rate < 2^53)
    (h : LosesCent minutes rate) : billedCents minutes rate = (minutes*rate/60 : ℕ)-1 := by
  obtain ⟨hfull, hlost⟩ := h
  have hrate : 0 < rate := by
    rcases Nat.eq_zero_or_pos rate with rfl | hrate
    · have hpow : (0:ℤ) < 60*2^(hoursPlaces minutes+Nat.clog 2 (minutes*0/60)) := by positivity
      rw [Nat.cast_zero, zero_mul, zero_mul] at hlost
      exact absurd hlost hpow.le.not_gt
    · exact hrate
  have hlt : minutes < 2^53 := lt_of_le_of_lt (Nat.le_mul_of_pos_right minutes hrate) hprod
  have hmul : 0 < minutes*rate := Nat.mul_pos hpos hrate
  obtain ⟨m, hm⟩ : ∃ m, minutes*rate/60 = m+1 := ⟨minutes*rate/60-1, by omega⟩
  have hsmall := abs_lt.mp (abs_rate_mul_residue_lt hpos hlt hprod)
  have hunit : (0:ℤ) < 2^hoursPlaces minutes := by positivity
  have hbilled : billedCents minutes rate = m := by
    have hsplit : (minutes*rate : ℕ) = 60*(m:ℤ)+60 := by omega
    apply (trunc_mul_eq_iff hpos hrate hprod (by omega) hsplit).mpr
    constructor
    · have hpow : (0:ℤ) ≤ 60*2^Nat.clog 2 m := by positivity
      calc (rate:ℤ)*hoursResidue minutes*2^54 ≤ 2^hoursPlaces minutes*2^54 := by
            apply mul_le_mul_of_nonneg_right hsmall.2.le
            norm_num
        _ ≤ 2^hoursPlaces minutes*(60*2^54+60*2^Nat.clog 2 m) := by
            apply mul_le_mul_of_nonneg_left _ hunit.le
            linarith
    · unfold Reaches
      rw [not_le, sub_self, zero_mul, zero_add, mul_left_comm, ← pow_add, ← hm]
      exact hlost
  rw [hbilled, hm]
  push_cast
  ring

theorem billedCents_of_gainsCent (hpos : 0 < minutes) (hprod : minutes*rate < 2^53)
    (h : GainsCent minutes rate) : billedCents minutes rate = (minutes*rate/60 : ℕ)+1 := by
  obtain ⟨hshort, hgained⟩ := h
  have hrate : 0 < rate := by
    apply Nat.pos_of_ne_zero
    rintro rfl
    omega
  have hlt : minutes < 2^53 := lt_of_le_of_lt (Nat.le_mul_of_pos_right minutes hrate) hprod
  have hsmall := abs_lt.mp (abs_rate_mul_residue_lt hpos hlt hprod)
  have hunit : (0:ℤ) < 2^hoursPlaces minutes := by positivity
  set m := minutes*rate/60 with hm
  have hclog : Nat.clog 2 (m+1+1) ≤ 48 := clog_cents_le (by omega)
  -- the rounding of the product stays within this
  have hmargin : (60:ℤ)*2^Nat.clog 2 (m+1+1) ≤ 60*2^48 := by
    have hpow : (2:ℤ)^Nat.clog 2 (m+1+1) ≤ 2^48 := pow_le_pow_right₀ (by norm_num) hclog
    linarith
  have hbilled : billedCents minutes rate = (m+1 : ℕ) := by
    have hsplit : (minutes*rate : ℕ) = 60*((m+1 : ℕ) : ℤ)+-1 := by omega
    apply (trunc_mul_eq_iff hpos hrate hprod (by omega) hsplit).mpr
    constructor
    -- the next cent is reached,
    · have hscale : (2:ℤ)^hoursPlaces minutes*(-1*2^54+60*2^Nat.clog 2 (m+1)) =
          60*2^(hoursPlaces minutes+Nat.clog 2 (m+1))-2^(hoursPlaces minutes+54) := by
        rw [pow_add, pow_add]
        ring
      unfold Reaches
      rw [hscale]
      linarith
    -- and the one after it is not
    · unfold Reaches
      rw [not_le]
      calc (2:ℤ)^hoursPlaces minutes*((-1-60)*2^54+60*2^Nat.clog 2 (m+1+1))
          ≤ 2^hoursPlaces minutes*(-61*2^54+60*2^48) := by
            apply mul_le_mul_of_nonneg_left _ hunit.le
            linarith
        _ ≤ -2^hoursPlaces minutes*2^54 := by linarith
        _ < rate*hoursResidue minutes*2^54 := by
            apply mul_lt_mul_of_pos_right hsmall.1
            norm_num
  rw [hbilled]
  push_cast
  ring

theorem abs_carriedCents_le (hprod : minutes*rate < 2^53) : |carriedCents minutes rate| ≤ 1 := by
  unfold carriedCents
  rw [if_neg (not_le.mpr hprod)]
  split_ifs
  · decide
  · decide
  · decide

/-- What the line bills, by the whole cents. -/
theorem billedCents_eq (hpos : 0 < minutes) :
    billedCents minutes rate = (minutes*rate/60 : ℕ)+carriedCents minutes rate := by
  unfold carriedCents
  split_ifs with hlarge hloses hgains
  · ring
  · rw [billedCents_of_losesCent hpos (not_le.mp hlarge) hloses]
    ring
  · exact billedCents_of_gainsCent hpos (not_le.mp hlarge) hgains
  · rw [add_zero]
    exact (billed_iff hpos (not_le.mp hlarge)).mpr (hoursSuffice_iff.mpr ⟨hloses, hgains⟩)

end

theorem lineAmount_eq {entry : TimeEntry} (hminutes : 1 ≤ entry.durationMinutes)
    (hrate : 0 ≤ entry.rateCents) :
    lineAmount entry = billedCents entry.durationMinutes.toNat entry.rateCents.toNat := by
  obtain ⟨minutes, hm⟩ := Int.eq_ofNat_of_zero_le (by omega : 0 ≤ entry.durationMinutes)
  obtain ⟨rate, hr⟩ := Int.eq_ofNat_of_zero_le hrate
  rw [lineAmount, hm, hr]
  rfl

end LegalForge.TimePricing
