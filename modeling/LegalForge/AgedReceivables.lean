import LegalForge.MatterProfitability

/-! The outstanding balance of the firm, in the dashboard and by age and client. -/
namespace LegalForge.Reports
open Billing Clients Rows

structure DashboardSummary where
  totalRevenueCents : ℤ
  totalOutstandingCents : ℤ
  totalWipCents : ℤ
  totalMattersOpen : ℕ
  totalMattersClosedPeriod : ℕ
  averageCollectionDays : ℚ
  utilizationRate : ℚ
  collectionRate : ℚ

/-- `round(x, 1)` of a float -/
def tenths (x : ℚ) : ℚ :=
  Double.div (Double.roundEven (10*x)) 10

/-- `round((part / whole * 100), 1) if whole > 0 else 0.0` -/
def percentage (part whole : ℤ) : ℚ :=
  if 0 < whole then tenths (Double.mul (Double.div part whole) 100) else 0

/-- `status IN ('sent', 'overdue')` -/
def isOutstanding (inv : Invoice) : Bool :=
  inv.status = .sent ∨ inv.status = .overdue

variable (db : ReportDb) (startDate endDate today : Date) (tie : Uuid → ℕ)

def outstandingInvoices : List Invoice :=
  db.invoices.filter isOutstanding

/-- The days a payment of the period took from the issue of its invoice. -/
def collectionDays : List ℤ :=
  ((join (fun p inv => p.invoiceId = inv.id) db.payments db.invoices).filter fun r =>
    within startDate endDate (some r.1.paymentDate) && r.2.issuedDate.isSome).map fun r =>
      r.1.paymentDate-r.2.issuedDate.getD 0

/-- `round(float(avg), 1)`, 0.0 for no average and for an average of 0. -/
def averageDays (days : List ℤ) : ℚ :=
  if days = [] ∨ days.sum = 0 then 0 else tenths (Double.round (days.sum/days.length))

/-- `get_dashboard_summary` -/
def getDashboardSummary : DashboardSummary :=
  let worked := db.timeEntries.filter fun e => within startDate endDate (some e.date)
  let issued := db.invoices.filter fun inv => within startDate endDate inv.issuedDate
  let totalRevenueCents := total Payment.amountCents (paymentsWithin db startDate endDate)
  { totalRevenueCents := totalRevenueCents
    totalOutstandingCents := total Invoice.totalCents (outstandingInvoices db)
    totalWipCents := Double.trunc
      (billedValue (db.timeEntries.filter fun e => e.invoiceId = none ∧ e.billable))
    totalMattersOpen := (db.matters.filter fun m => m.status = .open).length
    totalMattersClosedPeriod := (db.matters.filter fun m =>
      within startDate endDate (m.dateClosed.map fun d => d.ordinal)).length
    averageCollectionDays := averageDays (collectionDays db startDate endDate)
    utilizationRate := percentage
      (total (fun e => if e.billable then e.durationMinutes else 0) worked)
      (total TimeEntry.durationMinutes worked)
    collectionRate := percentage totalRevenueCents (total Invoice.totalCents issued) }

structure AgedReceivable where
  clientId : Uuid
  clientName : String
  currentCents : ℤ
  days31To60Cents : ℤ
  days61To90Cents : ℤ
  days91To120Cents : ℤ
  over120Cents : ℤ
  totalCents : ℤ

/-- The entry of one client in `client_buckets`. -/
structure ClientBucket where
  clientId : Uuid
  clientName : String
  currentCents : ℤ := 0
  days31To60Cents : ℤ := 0
  days61To90Cents : ℤ := 0
  days91To120Cents : ℤ := 0
  over120Cents : ℤ := 0

namespace ClientBucket

/-- Add what remains of an invoice to the bucket of its age. -/
def age (ageDays remaining : ℤ) (b : ClientBucket) : ClientBucket :=
  if ageDays ≤ 30 then { b with currentCents := b.currentCents+remaining }
  else if ageDays ≤ 60 then { b with days31To60Cents := b.days31To60Cents+remaining }
  else if ageDays ≤ 90 then { b with days61To90Cents := b.days61To90Cents+remaining }
  else if ageDays ≤ 120 then { b with days91To120Cents := b.days91To120Cents+remaining }
  else { b with over120Cents := b.over120Cents+remaining }

def totalCents (b : ClientBucket) : ℤ :=
  b.currentCents+b.days31To60Cents+b.days61To90Cents+b.days91To120Cents+b.over120Cents

def report (b : ClientBucket) : AgedReceivable where
  clientId := b.clientId
  clientName := b.clientName
  currentCents := b.currentCents
  days31To60Cents := b.days31To60Cents
  days61To90Cents := b.days61To90Cents
  days91To120Cents := b.days91To120Cents
  over120Cents := b.over120Cents
  totalCents := b.totalCents

@[simp] theorem clientId_age (ageDays remaining : ℤ) (b : ClientBucket) :
    (b.age ageDays remaining).clientId = b.clientId := by
  unfold age
  split_ifs
  all_goals rfl

@[simp] theorem totalCents_age (ageDays remaining : ℤ) (b : ClientBucket) :
    (b.age ageDays remaining).totalCents = b.totalCents+remaining := by
  unfold age totalCents
  split_ifs
  all_goals simp only
  all_goals omega

end ClientBucket

/-- `organization_name or f"{first_name or ''} {last_name or ''}".strip()` -/
def displayName (c : Client) : String :=
  match c.organizationName with
  | some name => if name ≠ "" then name else personName
  | none => personName
where
  personName := Text.strip (c.firstName.getD ""++" "++c.lastName.getD "")

/-- `total_cents - paid` -/
def remainingCents (inv : Invoice) : ℤ :=
  inv.totalCents-total Payment.amountCents (paymentsOf db inv)

/-- Dates in ascending order, those missing last. -/
def dateLe : Option Date → Option Date → Bool
  | some d, some d' => d ≤ d'
  | _, none => true
  | none, some _ => false

/-- The outstanding invoices with their clients by due date. -/
def receivableRows : List (Invoice × Client) :=
  (join (fun inv c => inv.clientId = c.id) (outstandingInvoices db) db.clients).mergeSort fun r r' =>
    if r.1.dueDate = r'.1.dueDate then tie r.1.id ≤ tie r'.1.id else dateLe r.1.dueDate r'.1.dueDate

/-- A client's bucket is there from its first invoice on. -/
def withClient (c : Client) (buckets : List ClientBucket) : List ClientBucket :=
  if c.id ∈ buckets.map ClientBucket.clientId then buckets
  else buckets++[{ clientId := c.id, clientName := displayName c }]

/-- One round of the loop over the invoices. -/
def ageInvoice (buckets : List ClientBucket) (r : Invoice × Client) : List ClientBucket :=
  let (inv, c) := r
  if remainingCents db inv ≤ 0 then withClient c buckets
  else
    let due := (inv.dueDate.or inv.issuedDate).getD today
    Table.alter ClientBucket.clientId c.id
      (ClientBucket.age (today-due) (remainingCents db inv)) (withClient c buckets)

def clientBuckets : List ClientBucket :=
  (receivableRows db tie).foldl (ageInvoice db today) []

/-- `get_aged_receivables` -/
def getAgedReceivables : List AgedReceivable :=
  (((clientBuckets db today tie).filter fun b => 0 < b.totalCents).map ClientBucket.report).mergeSort
    fun r r' => r'.totalCents ≤ r.totalCents

/-- Both reports name the same outstanding balance. -/
def ReceivablesAgree : Prop :=
  (getDashboardSummary db startDate endDate).totalOutstandingCents =
    total AgedReceivable.totalCents (getAgedReceivables db today tie)

/-! What the buckets hold. -/

/-- The buckets while the loop runs: one for each client, and none below 0. -/
structure BucketsOk (buckets : List ClientBucket) (sum : ℤ) : Prop where
  nodup : (buckets.map ClientBucket.clientId).Nodup
  nonneg : ∀ b ∈ buckets, 0 ≤ b.totalCents
  total_eq : total ClientBucket.totalCents buckets = sum

theorem mem_withClient (c : Client) (buckets : List ClientBucket) :
    c.id ∈ (withClient c buckets).map ClientBucket.clientId := by
  unfold withClient
  split_ifs with h
  · exact h
  · simp

theorem nodup_withClient {buckets : List ClientBucket}
    (h : (buckets.map ClientBucket.clientId).Nodup) (c : Client) :
    ((withClient c buckets).map ClientBucket.clientId).Nodup := by
  unfold withClient
  split_ifs with hmem
  · exact h
  · apply Table.nodup_append_singleton h
    intro b hb hid
    have hold := List.mem_map_of_mem (f := ClientBucket.clientId) hb
    rw [hid] at hold
    exact hmem hold

/-- Ageing a bucket leaves the clients as they are. -/
theorem map_clientId_age (clientId : Uuid) (ageDays remaining : ℤ) (buckets : List ClientBucket) :
    (Table.alter ClientBucket.clientId clientId (ClientBucket.age ageDays remaining) buckets).map
      ClientBucket.clientId = buckets.map ClientBucket.clientId := by
  apply Table.map_key_alter
  intro b hb
  rw [ClientBucket.clientId_age, hb]

theorem BucketsOk.withClient {buckets : List ClientBucket} {sum : ℤ} (h : BucketsOk buckets sum)
    (c : Client) : BucketsOk (withClient c buckets) sum := by
  have hnodup := nodup_withClient h.nodup c
  unfold Reports.withClient at hnodup ⊢
  split_ifs at hnodup ⊢
  · exact h
  · refine ⟨hnodup, ?_, ?_⟩
    · intro b hb
      rcases List.mem_append.mp hb with hold | hnew
      · exact h.nonneg b hold
      · rw [List.mem_singleton.mp hnew]
        exact le_refl 0
    · rw [total_append, h.total_eq]
      exact add_zero sum

theorem BucketsOk.age {buckets : List ClientBucket} {sum remaining : ℤ} (h : BucketsOk buckets sum)
    (hremaining : 0 ≤ remaining) {clientId : Uuid}
    (hclient : clientId ∈ buckets.map ClientBucket.clientId) (ageDays : ℤ) :
    BucketsOk (Table.alter ClientBucket.clientId clientId (ClientBucket.age ageDays remaining) buckets)
      (sum+remaining) := by
  refine ⟨?_, ?_, ?_⟩
  · rw [map_clientId_age]
    exact h.nodup
  · intro b hb
    obtain ⟨b', hb', rfl⟩ := Table.mem_alter.mp hb
    have hbucket := h.nonneg b' hb'
    split_ifs
    · rw [ClientBucket.totalCents_age]
      omega
    · exact hbucket
  · -- one bucket has the key, and it alone grows
    have hsum : sum+remaining = total ClientBucket.totalCents buckets+
        total (fun b => if b.clientId = clientId then remaining else 0) buckets := by
      rw [total_ite_key h.nodup hclient remaining, h.total_eq]
    rw [hsum, ← total_add, Table.alter, total_map]
    apply total_congr
    intro b _
    split_ifs with hkey
    · rw [ClientBucket.totalCents_age]
    · exact (add_zero _).symm

theorem BucketsOk.ageInvoice {buckets : List ClientBucket} {sum : ℤ} (h : BucketsOk buckets sum)
    (r : Invoice × Client) :
    BucketsOk (ageInvoice db today buckets r) (sum+max 0 (remainingCents db r.1)) := by
  obtain ⟨inv, c⟩ := r
  unfold Reports.ageInvoice
  simp only
  split_ifs with hsettled
  · rw [max_eq_left hsettled, add_zero]
    exact h.withClient c
  · rw [max_eq_right (not_le.mp hsettled).le]
    exact (h.withClient c).age (not_le.mp hsettled).le (mem_withClient c buckets) _

theorem BucketsOk.run (rows : List (Invoice × Client)) {buckets : List ClientBucket} {sum : ℤ}
    (h : BucketsOk buckets sum) : BucketsOk (rows.foldl (Reports.ageInvoice db today) buckets)
      (sum+total (fun r => max 0 (remainingCents db r.1)) rows) := by
  induction rows generalizing buckets sum with
  | nil =>
    rw [total_nil, add_zero]
    exact h
  | cons r rows ih =>
    rw [total_cons, ← add_assoc]
    exact ih (h.ageInvoice db today r)

/-- The invoices have one client each. -/
theorem total_receivableRows (f : Invoice → ℤ) :
    total (fun r => f r.1) (receivableRows db tie) = total f (outstandingInvoices db) := by
  have hperm : total (fun r => f r.1) (receivableRows db tie) = total (fun r => f r.1)
      (join (fun inv c => decide (inv.clientId = c.id)) (outstandingInvoices db) db.clients) :=
    ((List.mergeSort_perm _ _).map _).sum_eq
  rw [hperm, total_join]
  apply total_congr
  intro inv hinv
  have hclient := db.invoiceClient inv (List.mem_of_mem_filter hinv)
  rw [total_filter, ← total_ite_key db.clientKeys hclient (f inv)]
  apply total_congr
  intro c _
  simp only [decide_eq_true_eq, eq_comm (a := inv.clientId)]

theorem total_clientBuckets : BucketsOk (clientBuckets db today tie)
    (total (fun inv => max 0 (remainingCents db inv)) (outstandingInvoices db)) := by
  have hnone : BucketsOk [] 0 := ⟨List.nodup_nil, fun b hb => absurd hb List.not_mem_nil, rfl⟩
  have hrun := hnone.run db today (receivableRows db tie)
  rw [zero_add, total_receivableRows db tie fun inv => max 0 (remainingCents db inv)] at hrun
  exact hrun

/-- The aged receivables add up to what remains of each outstanding invoice, and a paid one does
not offset another. -/
theorem total_getAgedReceivables : total AgedReceivable.totalCents (getAgedReceivables db today tie) =
    total (fun inv => max 0 (remainingCents db inv)) (outstandingInvoices db) := by
  have hbuckets := total_clientBuckets db today tie
  have hperm : total AgedReceivable.totalCents (getAgedReceivables db today tie) =
      total AgedReceivable.totalCents
        (((clientBuckets db today tie).filter fun b => 0 < b.totalCents).map ClientBucket.report) :=
    ((List.mergeSort_perm _ _).map _).sum_eq
  rw [hperm, total_map, total_filter, ← hbuckets.total_eq]
  apply total_congr
  intro b hb
  have hnonneg := hbuckets.nonneg b hb
  by_cases hpos : 0 < b.totalCents
  · simp only [hpos, decide_true, if_true]
    rfl
  · simp only [hpos, decide_false, Bool.false_eq_true, if_false]
    omega

/-- What was paid of an invoice, up to its total. -/
def settledCents (inv : Invoice) : ℤ :=
  min inv.totalCents (total Payment.amountCents (paymentsOf db inv))

/-- The dashboard is ahead of the aged receivables by what was paid. -/
theorem outstanding_eq : (getDashboardSummary db startDate endDate).totalOutstandingCents =
    total AgedReceivable.totalCents (getAgedReceivables db today tie)+
      total (settledCents db) (outstandingInvoices db) := by
  rw [total_getAgedReceivables, ← total_add]
  change total Invoice.totalCents (outstandingInvoices db) = _
  apply total_congr
  intro inv _
  unfold settledCents remainingCents
  omega

/-- The reports agree exactly if the payments on outstanding invoices come to nothing. -/
theorem receivablesAgree_iff : ReceivablesAgree db startDate endDate today tie ↔
    total (settledCents db) (outstandingInvoices db) = 0 := by
  rw [ReceivablesAgree, outstanding_eq db startDate endDate today tie, add_eq_left]

/-- An invoice of 600 was sent, and 200 of it paid. -/
def partlyPaid : ReportDb :=
  { sharedInvoice with
    invoices := [
      { id := 20, invoiceNumber := some 1, clientId := 3, matterId := 5, issuedDate := some 110
        dueDate := none, subtotalCents := 600, totalCents := 600, status := .sent, notes := none }]
    payments := [
      { id := 30, invoiceId := 20, amountCents := 200, paymentDate := 120, method := .check
        referenceNumber := none, notes := none, settles := none }]
    invoiceKeys := by decide
    entryInvoice := by simp [sharedInvoice]
    invoiceClient := by simp [sharedInvoice]
    paymentInvoice := by simp }

/-- The dashboard says 600, the aged receivables 400. -/
theorem partlyPaid_disagree : ¬ReceivablesAgree partlyPaid 90 130 130 fun _ => 0 := by
  rw [ReceivablesAgree, outstanding_eq partlyPaid 90 130 130 fun _ => 0, add_eq_left]
  decide +kernel

end LegalForge.Reports
