import LegalForge.PythonText
import LegalForge.RevenueReports

/-! The report of the profit of matters. The payments of an invoice are joined to it before its
total is added up. -/
namespace LegalForge.Reports
open Billing Clients Rows

structure MatterProfitability where
  matterId : Uuid
  matterTitle : String
  clientName : String
  totalBilledCents : ℤ
  totalCollectedCents : ℤ
  totalHours : ℚ
  effectiveRateCents : ℤ
  status : String

/-- A matter with its client and a time entry in the period, if there is one. -/
abbrev MatterRow := (Matters.Matter × Client) × Option TimeEntry

/-- What the rows of the matters are grouped by. -/
structure MatterKey where
  matterId : Uuid
  title : String
  status : Matters.MatterStatus
  organizationName : Option String
  firstName : Option String
  lastName : Option String
  deriving DecidableEq

def matterKey (r : MatterRow) : MatterKey where
  matterId := r.1.1.id
  title := r.1.1.title
  status := r.1.1.status
  organizationName := r.1.2.organizationName
  firstName := r.1.2.firstName
  lastName := r.1.2.lastName

/-- `coalesce(sum(duration_minutes), 0)` -/
def totalMinutes (rows : List MatterRow) : ℤ :=
  total (fun r => (r.2.map TimeEntry.durationMinutes).getD 0) rows

/-- `concat(coalesce(organization_name, ''), coalesce(first_name, ''), ' ', ...)`, stripped. -/
def matterClientName (key : MatterKey) : String :=
  Text.strip (key.organizationName.getD ""++key.firstName.getD ""++" "++key.lastName.getD "")

variable (db : ReportDb) (tie : Uuid → ℕ) (startDate endDate : Date)

def matterRows : List MatterRow :=
  leftJoin (fun r e => e.matterId = r.1.id && within startDate endDate (some e.date))
    (join (fun m c => m.clientId = c.id) db.matters db.clients) db.timeEntries

/-- The grouped matters, most minutes first. Which of two matters with equal minutes comes
first is up to the database. -/
def mattersData (limit : ℕ) : List (MatterKey × List MatterRow) :=
  ((groupBy matterKey (matterRows db startDate endDate)).mergeSort fun g g' =>
    totalMinutes g'.2 < totalMinutes g.2 ||
      (totalMinutes g'.2 = totalMinutes g.2 && tie g.1.matterId ≤ tie g'.1.matterId)).take limit

/-- The invoices issued in the period, each with a payment on it or none. -/
def invoiceRows : List (Invoice × Option Payment) :=
  (leftJoin (fun inv p => p.invoiceId = inv.id) db.invoices db.payments).filter
    fun r => within startDate endDate r.1.issuedDate

/-- `collected_map`: the collected and the billed cents of a matter. -/
def matterAmounts : List (Uuid × ℤ × ℤ) :=
  (groupBy (fun r : Invoice × Option Payment => r.1.matterId) (invoiceRows db startDate endDate)).map
    fun g => (g.1, total (fun r => (r.2.map Payment.amountCents).getD 0) g.2,
      total (fun r => r.1.totalCents) g.2)

/-- The row of one matter. -/
def matterReport (g : MatterKey × List MatterRow) : MatterProfitability :=
  let (totalCollectedCents, totalBilledCents) :=
    ((matterAmounts db startDate endDate).lookup g.1.matterId).getD (0, 0)
  let totalHours := roundedHours (totalMinutes g.2)
  { matterId := g.1.matterId
    matterTitle := g.1.title
    clientName := matterClientName g.1
    totalBilledCents := totalBilledCents
    totalCollectedCents := totalCollectedCents
    totalHours := totalHours
    effectiveRateCents := effectiveRate totalCollectedCents totalHours
    status := g.1.status.value }

/-- `get_matter_profitability`, an error of the database for a negative limit. -/
def getMatterProfitability (limit : ℤ) : Option (List MatterProfitability) :=
  if limit < 0 then none
  else some ((mattersData db tie startDate endDate limit.toNat).map
    (matterReport db startDate endDate))

/-- The invoices of a matter issued in the period. -/
def invoicesIssued (matterId : Uuid) : List Invoice :=
  db.invoices.filter fun inv => inv.matterId = matterId ∧ within startDate endDate inv.issuedDate

def paymentsOn (invoices : List Invoice) : List Payment :=
  db.payments.filter fun p => p.invoiceId ∈ invoices.map Invoice.id

/-- Every row reports what its matter was billed and what was paid of it. -/
def JoinSafe : Prop :=
  ∀ (tie : Uuid → ℕ) (limit : ℤ) (rows : List MatterProfitability),
    getMatterProfitability db tie startDate endDate limit = some rows → ∀ r ∈ rows,
      r.totalBilledCents =
        total Invoice.totalCents (invoicesIssued db startDate endDate r.matterId) ∧
      r.totalCollectedCents =
        total Payment.amountCents (paymentsOn db (invoicesIssued db startDate endDate r.matterId))

/-- The payments of an invoice. -/
def paymentsOf (inv : Invoice) : List Payment :=
  db.payments.filter fun p => p.invoiceId = inv.id

/-! What a matter's row reports. -/

theorem total_invoiceRows (f : Invoice × Option Payment → ℤ) (matterId : Uuid) :
    total f ((invoiceRows db startDate endDate).filter fun r => r.1.matterId = matterId) =
      total (fun inv => if paymentsOf db inv = [] then f (inv, none)
        else total (fun p => f (inv, some p)) (paymentsOf db inv))
        (invoicesIssued db startDate endDate matterId) := by
  unfold invoiceRows invoicesIssued
  rw [List.filter_filter, total_filter, total_leftJoin, total_filter]
  apply total_congr
  intro inv _
  by_cases h : inv.matterId = matterId ∧ within startDate endDate inv.issuedDate = true
  · simp only [h.1, h.2, decide_true, Bool.and_true, and_self, if_true]
    rfl
  · have hout : (decide (inv.matterId = matterId) && within startDate endDate inv.issuedDate) = false := by
      rw [Bool.and_eq_false_iff]
      by_contra hin
      exact h (by simpa using hin)
    simp only [hout, if_neg Bool.false_ne_true, total_zero, ite_self, h, decide_false]

theorem total_matterAmounts (matterId : Uuid) :
    ((matterAmounts db startDate endDate).lookup matterId).getD (0, 0) =
      (total (fun inv => total Payment.amountCents (paymentsOf db inv))
        (invoicesIssued db startDate endDate matterId),
      total (fun inv => max 1 (paymentsOf db inv).length*inv.totalCents)
        (invoicesIssued db startDate endDate matterId)) := by
  have hpair := total_lookup (fun r => ((r.2.map Payment.amountCents).getD 0, r.1.totalCents))
    (fun r : Invoice × Option Payment => r.1.matterId) (invoiceRows db startDate endDate) matterId
  simp only [total_prod] at hpair
  refine hpair.trans ?_
  rw [total_invoiceRows, total_invoiceRows]
  congr 1
  · apply total_congr
    intro inv _
    split_ifs with hnone
    · rw [hnone]
      rfl
    · rfl
  · apply total_congr
    intro inv _
    split_ifs with hnone
    · rw [hnone]
      simp
    · have hpos := List.length_pos_iff.mpr hnone
      rw [max_eq_right hpos, ← nsmul_eq_mul]
      exact total_const inv.totalCents (paymentsOf db inv)

/-- The payments on the invoices, invoice by invoice. -/
theorem total_paymentsOn (matterId : Uuid) :
    total (fun inv => total Payment.amountCents (paymentsOf db inv))
      (invoicesIssued db startDate endDate matterId) =
    total Payment.amountCents (paymentsOn db (invoicesIssued db startDate endDate matterId)) := by
  have hnodup : ((invoicesIssued db startDate endDate matterId).map Invoice.id).Nodup :=
    (List.filter_sublist.map _).nodup db.invoiceKeys
  have hkeys := total_of_keys Payment.amountCents Payment.invoiceId hnodup db.payments
  rw [total_map] at hkeys
  exact hkeys

/-- What a matter was paid is right. What it was billed has an invoice once more for every payment
after the first. -/
theorem matterReport_amounts (g : MatterKey × List MatterRow) :
    (matterReport db startDate endDate g).totalCollectedCents = total Payment.amountCents
        (paymentsOn db (invoicesIssued db startDate endDate g.1.matterId)) ∧
      (matterReport db startDate endDate g).totalBilledCents =
        total Invoice.totalCents (invoicesIssued db startDate endDate g.1.matterId)+
          total (fun inv => ((paymentsOf db inv).length-1 : ℕ)*inv.totalCents)
            (invoicesIssued db startDate endDate g.1.matterId) := by
  have hamounts := total_matterAmounts db startDate endDate g.1.matterId
  constructor
  · rw [← total_paymentsOn]
    exact congrArg Prod.fst hamounts
  · rw [← total_add]
    refine (congrArg Prod.snd hamounts).trans ?_
    apply total_congr
    intro inv _
    have hmax : max 1 (paymentsOf db inv).length = 1+((paymentsOf db inv).length-1) := by omega
    rw [hmax, Nat.cast_add, Nat.cast_one, add_mul, one_mul]

/-- The invoices of the matter are counted as often as they were paid, but that adds up to
nothing. -/
def NothingRepeated (matterId : Uuid) : Prop :=
  total (fun inv => ((paymentsOf db inv).length-1 : ℕ)*inv.totalCents)
    (invoicesIssued db startDate endDate matterId) = 0

/-- The matters the report can list are those there are. -/
theorem exists_group_iff {matterId : Uuid} :
    (∃ g ∈ groupBy matterKey (matterRows db startDate endDate), g.1.matterId = matterId) ↔
      matterId ∈ db.matters.map Matters.Matter.id := by
  constructor
  · rintro ⟨g, hg, rfl⟩
    obtain ⟨r, hr, hkey⟩ := List.mem_map.mp (mem_groupBy.mp hg).1
    have hjoin := mem_join.mp (mem_leftJoin_left.mp ⟨r.2, hr⟩)
    rw [← hkey]
    exact List.mem_map_of_mem hjoin.1
  · intro h
    obtain ⟨m, hm, rfl⟩ := List.mem_map.mp h
    obtain ⟨c, hc, hclient⟩ := List.mem_map.mp (db.matterClient m hm)
    have hjoin : (m, c) ∈ join (fun m c => m.clientId = c.id) db.matters db.clients :=
      mem_join.mpr ⟨hm, hc, decide_eq_true hclient.symm⟩
    obtain ⟨entry, hrow⟩ := mem_leftJoin_left.mpr hjoin
    have hgroup : (matterKey ((m, c), entry), (matterRows db startDate endDate).filter
        fun r => matterKey r = matterKey ((m, c), entry)) ∈
          groupBy matterKey (matterRows db startDate endDate) :=
      mem_groupBy.mpr ⟨List.mem_map_of_mem hrow, rfl⟩
    exact ⟨_, hgroup, rfl⟩

theorem mem_mattersData {limit : ℕ} {g : MatterKey × List MatterRow}
    (h : g ∈ mattersData db tie startDate endDate limit) :
    g ∈ groupBy matterKey (matterRows db startDate endDate) :=
  List.mem_mergeSort.mp (List.mem_of_mem_take h)

/-- A limit that leaves no matter out. -/
theorem mem_mattersData_length {g : MatterKey × List MatterRow}
    (h : g ∈ groupBy matterKey (matterRows db startDate endDate)) :
    g ∈ mattersData db tie startDate endDate
      (groupBy matterKey (matterRows db startDate endDate)).length := by
  rw [mattersData, List.take_of_length_le (by rw [List.length_mergeSort])]
  exact List.mem_mergeSort.mpr h

/-- A row that is right has nothing repeated. -/
theorem JoinSafe.nothingRepeated (h : JoinSafe db startDate endDate) (matterId : Uuid)
    (hmatter : matterId ∈ db.matters.map Matters.Matter.id) :
    NothingRepeated db startDate endDate matterId := by
  obtain ⟨g, hg, rfl⟩ := (exists_group_iff db startDate endDate).mpr hmatter
  have hdata := mem_mattersData_length db (fun _ => 0) startDate endDate hg
  have hrow := (h (fun _ => 0) (groupBy matterKey (matterRows db startDate endDate)).length _
    (if_neg (by simp)) _ (List.mem_map_of_mem hdata)).1
  rw [(matterReport_amounts db startDate endDate g).2] at hrow
  exact left_eq_add.mp hrow.symm

/-- The report is join-safe exactly if no invoice repeated by its payments weighs in any matter. -/
theorem joinSafe_iff : JoinSafe db startDate endDate ↔
    ∀ m ∈ db.matters, NothingRepeated db startDate endDate m.id := by
  constructor
  · intro h m hm
    exact h.nothingRepeated db startDate endDate _ (List.mem_map_of_mem hm)
  · intro h tie limit rows hrows r hr
    unfold getMatterProfitability at hrows
    split_ifs at hrows with hlimit
    cases hrows
    obtain ⟨g, hg, rfl⟩ := List.mem_map.mp hr
    obtain ⟨m, hm, hid⟩ := List.mem_map.mp ((exists_group_iff db startDate endDate).mp
      ⟨g, mem_mattersData db tie startDate endDate hg, rfl⟩)
    obtain ⟨hcollected, hbilled⟩ := matterReport_amounts db startDate endDate g
    have hnothing := h m hm
    rw [hid] at hnothing
    refine ⟨?_, hcollected⟩
    rw [hbilled, hnothing, add_zero]
    rfl

/-- The invoice of 600 was paid in two parts. -/
def partsPaid : ReportDb :=
  { sharedInvoice with
    payments := [
      { id := 30, invoiceId := 20, amountCents := 300, paymentDate := 120, method := .check
        referenceNumber := none, notes := none, settles := none },
      { id := 31, invoiceId := 20, amountCents := 300, paymentDate := 125, method := .check
        referenceNumber := none, notes := none, settles := none }]
    paymentInvoice := by simp [sharedInvoice] }

/-- The matter is billed 1200. -/
theorem partsPaid_billedTwice : ¬JoinSafe partsPaid 90 130 := by
  intro h
  have hnothing := h.nothingRepeated partsPaid 90 130 5 (by decide +kernel)
  revert hnothing
  unfold NothingRepeated
  decide +kernel

end LegalForge.Reports
