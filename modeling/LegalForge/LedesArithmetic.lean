import LegalForge.InvoiceLines
import LegalForge.LedesExport
import LegalForge.LineCents

/-! The arithmetic of an exported line. The units are hours, rounded to hundredths, the total comes
from the minutes and is cut to whole cents. -/
namespace LegalForge.Ledes
open Billing Decimal TimePricing

/-- The total is the product of units and unit cost with the adjustment, rounded to the cent. At
half a cent either neighbour will do. -/
def RowAdds (record : LedesRecord) : Prop :=
  ∃ units cost adjustment total : ℤ, readCents record.lineItemNumberOfUnits = some units ∧
    readCents record.lineItemUnitCost = some cost ∧
    readCents record.lineItemAdjustmentAmount = some adjustment ∧
    readCents record.lineItemTotal = some total ∧
    |(units/100*cost+adjustment-total : ℚ)| ≤ 1/2

/-- What the schema and the columns of 32 bits admit. -/
structure EntryFits (entry : TimeEntry) : Prop where
  minutes_ge : 1 ≤ entry.durationMinutes
  minutes_lt : entry.durationMinutes < 2^31
  rate_ge : 0 ≤ entry.rateCents
  rate_lt : entry.rateCents < 2^31

/-- By how much `5*minutes` falls short of a multiple of three, the units in hundredths. -/
def unitsResidue (minutes : ℕ) : ℤ :=
  (minutes+1)%3-1

/-- The total that is printed. -/
def printedCents (cents : ℤ) : ℤ :=
  Double.roundEven (100*Double.div cents 100)

/-- What the total leaves of the product, in sixtieths of a cent. -/
def unbilledSixtieths (minutes rate : ℕ) : ℤ :=
  if minutes*rate < 2^53 then (minutes*rate%60 : ℕ)-60*carriedCents minutes rate
  else (minutes*rate : ℕ)-60*printedCents (billedCents minutes rate)

/-- What the units add and what the total leaves come to half a cent at most. -/
def UnitsReproduce (minutes rate : ℕ) : Prop :=
  |5*unbilledSixtieths minutes rate+unitsResidue minutes*rate| ≤ 150

instance (minutes rate : ℕ) : Decidable (UnitsReproduce minutes rate) :=
  inferInstanceAs (Decidable (_ ≤ _))

section
variable {minutes rate : ℕ}

theorem three_dvd_units (minutes : ℕ) :
    3*((5*minutes+unitsResidue minutes)/3) = 5*minutes+unitsResidue minutes := by
  unfold unitsResidue
  omega

/-- The hours in hundredths, as they are printed. -/
theorem printedUnits (h : minutes < 2^31) :
    Double.roundEven (100*Double.div minutes 60) = (5*minutes+unitsResidue minutes)/3 := by
  have hunits := three_dvd_units minutes
  set units := (5*minutes+unitsResidue minutes)/3 with hu
  have hresidue : |unitsResidue minutes| ≤ 1 := by
    unfold unitsResidue
    rw [abs_le]
    omega
  have hquot : |(minutes:ℚ)/60| < 2^(26:ℤ) := by
    have hcast : (minutes:ℚ) < 2^31 := by exact_mod_cast h
    rw [abs_of_nonneg (by positivity), div_lt_iff₀ (by norm_num)]
    norm_num
    linarith
  have herr : |Double.div minutes 60-minutes/60| ≤ 2^(26-54:ℤ) := Double.abs_round_sub_le_of_lt hquot
  have hthird : |(100*(minutes/60)-units : ℚ)| ≤ 1/3 := by
    have hcast : (3:ℚ)*units = 5*minutes+unitsResidue minutes := by exact_mod_cast hunits
    have hsplit : (100*(minutes/60)-units : ℚ) = -unitsResidue minutes/3 := by linarith
    have habs : |(unitsResidue minutes:ℚ)| ≤ 1 := by exact_mod_cast hresidue
    rw [hsplit, abs_div, abs_neg, abs_of_pos (by norm_num : (0:ℚ) < 3)]
    linarith
  apply Double.roundEven_eq
  calc |100*Double.div minutes 60-units|
      = |100*(Double.div minutes 60-minutes/60)+(100*((minutes:ℚ)/60)-units)| := by ring_nf
    _ ≤ |100*(Double.div minutes 60-minutes/60)|+|100*((minutes:ℚ)/60)-units| := abs_add_le _ _
    _ = 100*|Double.div minutes 60-minutes/60|+|100*((minutes:ℚ)/60)-units| := by
        rw [abs_mul, abs_of_pos (by norm_num : (0:ℚ) < 100)]
    _ ≤ 100*2^(26-54:ℤ)+1/3 := by gcongr
    _ < 1/2 := by norm_num

theorem printedCents_eq {cents : ℤ} (h : |cents| < 100*2^46) : printedCents cents = cents :=
  printsExactly_of_lt h

/-- What is left of the product is what the printed total leaves. -/
theorem unbilledSixtieths_eq (hpos : 0 < minutes) : unbilledSixtieths minutes rate =
    (minutes*rate : ℕ)-60*printedCents (billedCents minutes rate) := by
  unfold unbilledSixtieths
  split_ifs with hprod
  · have hbilled : billedCents minutes rate = (minutes*rate/60 : ℕ)+carriedCents minutes rate :=
      billedCents_eq hpos
    have hexact : printedCents (billedCents minutes rate) = billedCents minutes rate := by
      apply printedCents_eq
      have hcarried := abs_le.mp (abs_carriedCents_le hprod)
      rw [hbilled, abs_lt]
      omega
    rw [hexact, hbilled]
    omega
  · rfl

/-- With whole hundredths of hours, only the fraction of a cent counts that the total leaves out. -/
theorem unitsReproduce_iff_of_dvd (hdvd : 3 ∣ minutes) (hprod : minutes*rate < 2^53)
    (hnone : carriedCents minutes rate = 0) : UnitsReproduce minutes rate ↔ minutes*rate%60 ≤ 30 := by
  have hresidue : unitsResidue minutes = 0 := by
    unfold unitsResidue
    omega
  unfold UnitsReproduce unbilledSixtieths
  rw [if_pos hprod, hnone, hresidue, abs_le]
  omega

/-- With other minutes no rate of more than 7.45 is reproduced. -/
theorem not_unitsReproduce_of_not_dvd (hdvd : ¬3 ∣ minutes) (hprod : minutes*rate < 2^53)
    (hrate : 745 < rate) : ¬UnitsReproduce minutes rate := by
  have hresidue : unitsResidue minutes = 1 ∨ unitsResidue minutes = -1 := by
    unfold unitsResidue
    omega
  have hcarried := abs_le.mp (abs_carriedCents_le hprod)
  have hremainder : minutes*rate%60 < 60 := Nat.mod_lt _ (by decide)
  unfold UnitsReproduce unbilledSixtieths
  rw [if_pos hprod, abs_le]
  rcases hresidue with hup | hdown
  · rw [hup]
    omega
  · rw [hdown]
    omega

end

/-- The sum that the row has to come to, in sixtieths of five cents. -/
theorem rowAdds_iff_abs {record : LedesRecord} {units cost total : ℤ}
    (hunits : readCents record.lineItemNumberOfUnits = some units)
    (hcost : readCents record.lineItemUnitCost = some cost)
    (hadjustment : readCents record.lineItemAdjustmentAmount = some 0)
    (htotal : readCents record.lineItemTotal = some total) :
    RowAdds record ↔ |3*units*cost-300*total| ≤ 150 := by
  have hscale : (3*units*cost-300*total : ℚ) = 300*(units/100*cost+(0 : ℤ)-total) := by
    push_cast
    ring
  have hhalf : |3*units*cost-300*total| ≤ 150 ↔ |(units/100*cost+(0 : ℤ)-total : ℚ)| ≤ 1/2 := by
    have hcast : |3*units*cost-300*total| ≤ 150 ↔ |(3*units*cost-300*total : ℚ)| ≤ 150 := by
      exact_mod_cast Iff.rfl
    rw [hcast, hscale, abs_mul, abs_of_pos (by norm_num : (0:ℚ) < 300)]
    constructor
    · intro h
      linarith
    · intro h
      linarith
  rw [hhalf]
  constructor
  · rintro ⟨units', cost', adjustment, total', hu, hc, ha, ht, hrounds⟩
    obtain rfl := Option.some.inj (hunits.symm.trans hu)
    obtain rfl := Option.some.inj (hcost.symm.trans hc)
    obtain rfl := Option.some.inj (hadjustment.symm.trans ha)
    obtain rfl := Option.some.inj (htotal.symm.trans ht)
    exact hrounds
  · intro h
    exact ⟨units, cost, 0, total, hunits, hcost, hadjustment, htotal, h⟩

/-- The row of a line that has what its entry has. -/
theorem rowAdds_ledesRow_iff {db : LedesDb} {invoice : Invoice} {today : Date} {idx : ℕ}
    {li : InvoiceLineItem} {te : TimeEntry} (hfits : EntryFits te) (hentry : entryOf db li = some te)
    (hamount : li.amountCents = lineAmount te) :
    RowAdds (ledesRow db invoice today idx li) ↔
      UnitsReproduce te.durationMinutes.toNat te.rateCents.toNat := by
  obtain ⟨hminutes, hminutesLt, hrate, hrateLt⟩ := hfits
  have hbilled := lineAmount_eq hminutes hrate
  obtain ⟨minutes, hm⟩ := Int.eq_ofNat_of_zero_le (by omega : 0 ≤ te.durationMinutes)
  obtain ⟨rate, hr⟩ := Int.eq_ofNat_of_zero_le hrate
  rw [hm, hr, Int.toNat_natCast, Int.toNat_natCast] at hbilled ⊢
  -- the printed columns, in cents
  have hunits : readCents (ledesRow db invoice today idx li).lineItemNumberOfUnits =
      some ((5*minutes+unitsResidue minutes)/3) := by
    have hrow : (ledesRow db invoice today idx li).lineItemNumberOfUnits =
        twoDecimals (Double.div te.durationMinutes 60) := by simp only [ledesRow, hentry]
    rw [hrow, twoDecimals, readCents_centsText, hm, Int.cast_natCast, printedUnits (by omega)]
  have hcost : readCents (ledesRow db invoice today idx li).lineItemUnitCost = some (rate : ℤ) := by
    have hrow : (ledesRow db invoice today idx li).lineItemUnitCost =
        twoDecimals (Double.div te.rateCents 100) := by simp only [ledesRow, hentry]
    rw [hrow, hr]
    apply readCents_div_iff.mpr
    apply printsExactly_of_lt
    rw [abs_lt]
    omega
  have htotal : readCents (ledesRow db invoice today idx li).lineItemTotal =
      some (printedCents (billedCents minutes rate)) := by
    have hrow : (ledesRow db invoice today idx li).lineItemTotal =
        twoDecimals (Double.div li.amountCents 100) := rfl
    rw [hrow, hamount, hbilled, twoDecimals, readCents_centsText]
    rfl
  have hzero : readCents (ledesRow db invoice today idx li).lineItemAdjustmentAmount = some 0 :=
    readCents_centsText 0
  rw [rowAdds_iff_abs hunits hcost hzero htotal, UnitsReproduce, unbilledSixtieths_eq (by omega),
    three_dvd_units]
  have hsum : (5*(minutes:ℤ)+unitsResidue minutes)*rate-
      300*printedCents (billedCents minutes rate) =
      5*((minutes*rate : ℕ)-60*printedCents (billedCents minutes rate))+unitsResidue minutes*rate := by
    push_cast
    ring
  rw [hsum]

/-- A line that an invoice has been created with, exported while its entry has the minutes and the
rate that the line has copied: its total is what units and unit cost come to if and only if the
minutes and the rate let them. -/
theorem exportedLine_adds_iff {before after : Db} {data : InvoiceCreate} {invoiceId : Uuid}
    {lineItemId : Uuid → Uuid} {created : Invoice}
    (hcreated : createInvoice before data invoiceId lineItemId = .ok (created, after))
    {li : InvoiceLineItem} (hli : li ∈ after.lineItems) (hnew : li ∉ before.lineItems)
    {db : LedesDb} {te : TimeEntry} (hentry : entryOf db li = some te)
    (hsame : te.durationMinutes = li.quantity ∧ te.rateCents = li.rateCents) (hfits : EntryFits te)
    (invoice : Invoice) (today : Date) (idx : ℕ) :
    RowAdds (ledesRow db invoice today idx li) ↔
      UnitsReproduce te.durationMinutes.toNat te.rateCents.toNat := by
  rcases (createInvoice_ok hcreated).mem_lineItems.mp hli with hold | ⟨source, -, rfl⟩
  · exact absurd hold hnew
  · apply rowAdds_ledesRow_iff hfits hentry
    show lineAmount source = lineAmount te
    rw [lineAmount, lineAmount, hsame.1, hsame.2]
    rfl

/-- Twenty minutes at a hundred dollars. -/
def twentyMinutes : TimeEntry :=
  ⟨7, 5, 2, 739455, 20, "reply to notice", true, 10000, none⟩

def twentyMinutesLine : InvoiceLineItem :=
  ⟨21, 11, some 7, "reply to notice", 20, 10000, 3333⟩

def twentyMinutesInvoice : Invoice :=
  ⟨11, some 1001, 4, 5, none, none, 3333, 0, 3333, .draft, none⟩

def twentyMinutesBilled : LedesDb where
  timeEntries := [{ twentyMinutes with invoiceId := some 11 }]
  invoices := [twentyMinutesInvoice]
  lineItems := [twentyMinutesLine]
  payments := []
  links := []
  events := []
  users := []
  utbmsCodes := []
  timeEntryCodes := []

theorem lineAmount_twentyMinutes : lineAmount twentyMinutes = 3333 := by
  decide +kernel

theorem entryFits_twentyMinutes : EntryFits { twentyMinutes with invoiceId := some 11 } := by
  constructor
  · decide
  · decide
  · decide
  · decide

theorem createInvoice_twentyMinutes :
    createInvoice { Db.empty with timeEntries := [twentyMinutes] }
      { clientId := 4, matterId := 5, timeEntryIds := [7] } 11 (fun _ => 21) =
        .ok (twentyMinutesInvoice, twentyMinutesBilled.toDb) := by
  have hselected : selectedEntries { Db.empty with timeEntries := [twentyMinutes] } [7] =
      [twentyMinutes] := rfl
  have hline : lineItem 11 21 twentyMinutes = twentyMinutesLine := by
    rw [lineItem, lineAmount_twentyMinutes]
    rfl
  simp only [createInvoice, hselected, List.map_cons, List.map_nil, hline, lineAmount_twentyMinutes]
  rfl

/-- Its 0.33 hours come to 33.00, the total is 33.33. -/
theorem twentyMinutesBilled_not_rowAdds : ∃ invoice,
    getInvoice twentyMinutesBilled.toDb 11 = some invoice ∧
      ∃ record ∈ ledesRows twentyMinutesBilled invoice 739460, ¬RowAdds record := by
  have hlines : lineItemsOf twentyMinutesBilled 11 = [twentyMinutesLine] := by
    simp [lineItemsOf, twentyMinutesBilled, twentyMinutesLine]
  have hrow : ledesRow twentyMinutesBilled twentyMinutesInvoice 739460 1 twentyMinutesLine ∈
      ledesRows twentyMinutesBilled twentyMinutesInvoice 739460 := by
    have hid : twentyMinutesInvoice.id = 11 := rfl
    rw [ledesRows, hid, hlines]
    exact List.mem_singleton.mpr rfl
  refine ⟨twentyMinutesInvoice, rfl, _, hrow, ?_⟩
  rw [rowAdds_ledesRow_iff entryFits_twentyMinutes rfl lineAmount_twentyMinutes.symm]
  decide +kernel

theorem exportedLine_adds_iff_twentyMinutes :
    RowAdds (ledesRow twentyMinutesBilled twentyMinutesInvoice 739460 1 twentyMinutesLine) ↔
      UnitsReproduce 20 10000 :=
  exportedLine_adds_iff createInvoice_twentyMinutes List.mem_cons_self List.not_mem_nil rfl
    ⟨rfl, rfl⟩ entryFits_twentyMinutes twentyMinutesInvoice 739460 1

end LegalForge.Ledes
