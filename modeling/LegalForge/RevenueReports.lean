import LegalForge.AuthModels
import LegalForge.BillingModels
import LegalForge.ClientModels
import LegalForge.DoubleArithmetic
import LegalForge.JoinedRows
import LegalForge.MatterModels

/-! The revenue report by attorney. A payment is joined to every time entry of its invoice. -/
namespace LegalForge.Reports
open Billing Clients Rows

/-- The tables the reports read, with their primary and foreign keys. -/
structure ReportDb extends Billing.Db where
  users : List Auth.User
  matters : List Matters.Matter
  clients : List Client
  userKeys : (users.map Auth.User.id).Nodup
  invoiceKeys : (invoices.map Invoice.id).Nodup
  matterKeys : (matters.map Matters.Matter.id).Nodup
  clientKeys : (clients.map Client.id).Nodup
  entryUser : ∀ e ∈ timeEntries, e.userId ∈ users.map Auth.User.id
  entryInvoice : ∀ e ∈ timeEntries, ∀ i, e.invoiceId = some i → i ∈ invoices.map Invoice.id
  paymentInvoice : ∀ p ∈ payments, p.invoiceId ∈ invoices.map Invoice.id
  invoiceClient : ∀ inv ∈ invoices, inv.clientId ∈ clients.map Client.id
  matterClient : ∀ m ∈ matters, m.clientId ∈ clients.map Client.id

structure RevenueByAttorney where
  userId : Uuid
  userName : String
  billedCents : ℤ
  collectedCents : ℤ
  hoursWorked : ℚ
  effectiveRateCents : ℤ

/-- `start_date <= date AND date <= end_date`, which a null does not satisfy. -/
def within (startDate endDate : Date) (date : Option Date) : Bool :=
  match date with
  | none => false
  | some d => startDate ≤ d && d ≤ endDate

/-- `round(minutes / 60, 1)` -/
def roundedHours (minutes : ℤ) : ℚ :=
  Double.div (Double.roundEven (10*Double.div minutes 60)) 10

/-- `int(cents / hours) if hours > 0 else 0` -/
def effectiveRate (cents : ℤ) (hours : ℚ) : ℤ :=
  if 0 < hours then Double.trunc (Double.div (Double.round cents) hours) else 0

/-- `sum(duration_minutes * rate_cents / 60)`, a numeric. -/
def billedValue (rows : List TimeEntry) : ℚ :=
  total (fun e => (e.durationMinutes*e.rateCents : ℚ)/60) rows

/-- An entry with its user and its invoice. -/
abbrev BilledRow := (TimeEntry × Auth.User) × Invoice

/-- An entry with its invoice and a payment on it. -/
abbrev CollectedRow := (TimeEntry × Invoice) × Payment

variable (db : ReportDb) (startDate endDate : Date)

def billedRows : List BilledRow :=
  (join (fun r inv => r.1.invoiceId = some inv.id)
    (join (fun e u => e.userId = u.id) db.timeEntries db.users) db.invoices).filter
    fun r => within startDate endDate r.2.issuedDate

/-- `GROUP BY time_entries.user_id, users.first_name, users.last_name` -/
def attorneyKey (r : BilledRow) : Uuid × String × String :=
  (r.1.1.userId, r.1.2.firstName, r.1.2.lastName)

def collectedRows : List CollectedRow :=
  (join (fun r p => p.invoiceId = r.2.id)
    (join (fun e inv => e.invoiceId = some inv.id) db.timeEntries db.invoices) db.payments).filter
    fun r => within startDate endDate (some r.2.paymentDate)

/-- `collected_map` -/
def collectedMap : List (Uuid × ℤ) :=
  (groupBy (fun r : CollectedRow => r.1.1.userId) (collectedRows db startDate endDate)).map
    fun g => (g.1, total (fun r => r.2.amountCents) g.2)

/-- The row of one group. -/
def attorneyReport (g : (Uuid × String × String) × List BilledRow) : RevenueByAttorney :=
  let collectedCents := ((collectedMap db startDate endDate).lookup g.1.1).getD 0
  let hoursWorked := roundedHours (total (fun r => r.1.1.durationMinutes) g.2)
  { userId := g.1.1
    userName := g.1.2.1++" "++g.1.2.2
    billedCents := Double.trunc (billedValue (g.2.map fun r => r.1.1))
    collectedCents := collectedCents
    hoursWorked := hoursWorked
    effectiveRateCents := effectiveRate collectedCents hoursWorked }

/-- `get_revenue_by_attorney` -/
def getRevenueByAttorney : List RevenueByAttorney :=
  ((groupBy attorneyKey (billedRows db startDate endDate)).map
    (attorneyReport db startDate endDate)).mergeSort
    fun r r' => r'.collectedCents ≤ r.collectedCents

/-- The payments dated in the period. -/
def paymentsWithin : List Payment :=
  db.payments.filter fun p => within startDate endDate (some p.paymentDate)

/-- The rows of the report do not add up to more than was paid. -/
def CollectedOnce : Prop :=
  total RevenueByAttorney.collectedCents (getRevenueByAttorney db startDate endDate) ≤
    total Payment.amountCents (paymentsWithin db startDate endDate)

/-- The user has an entry on an invoice issued in the period. -/
def Reported (u : Uuid) : Prop :=
  ∃ e ∈ db.timeEntries, e.userId = u ∧ ∃ inv ∈ db.invoices, e.invoiceId = some inv.id ∧
    within startDate endDate inv.issuedDate = true

instance (u : Uuid) : Decidable (Reported db startDate endDate u) :=
  inferInstanceAs (Decidable (∃ e ∈ db.timeEntries, e.userId = u ∧ ∃ inv ∈ db.invoices,
    e.invoiceId = some inv.id ∧ within startDate endDate inv.issuedDate = true))

/-- How many entries of reported users the invoice of a payment has. -/
def entriesPaid (p : Payment) : ℕ :=
  (db.timeEntries.filter fun e =>
    e.invoiceId = some p.invoiceId ∧ Reported db startDate endDate e.userId).length

/-! Who is reported. -/

theorem mem_billedRows_iff {r : BilledRow} : r ∈ billedRows db startDate endDate ↔
    r.1.1 ∈ db.timeEntries ∧ r.1.2 ∈ db.users ∧ r.2 ∈ db.invoices ∧ r.1.1.userId = r.1.2.id ∧
      r.1.1.invoiceId = some r.2.id ∧ within startDate endDate r.2.issuedDate = true := by
  simp only [billedRows, List.mem_filter, mem_join, decide_eq_true_eq]
  constructor
  · intro h
    exact ⟨h.1.1.1, h.1.1.2.1, h.1.2.1, h.1.1.2.2, h.1.2.2, h.2⟩
  · rintro ⟨he, hu, hi, huser, hinv, hdate⟩
    exact ⟨⟨⟨he, hu, huser⟩, hi, hinv⟩, hdate⟩

/-- The users of the rows, each once: names do not split a user. -/
theorem nodup_attorneys : (((billedRows db startDate endDate).map attorneyKey).dedup.map
    Prod.fst).Nodup := by
  apply List.Nodup.map_on _ (List.nodup_dedup _)
  intro k hk k' hk' hsame
  obtain ⟨r, hr, rfl⟩ := List.mem_map.mp (List.mem_dedup.mp hk)
  obtain ⟨r', hr', rfl⟩ := List.mem_map.mp (List.mem_dedup.mp hk')
  obtain ⟨-, hu, -, huser, -⟩ := (mem_billedRows_iff db startDate endDate).mp hr
  obtain ⟨-, hu', -, huser', -⟩ := (mem_billedRows_iff db startDate endDate).mp hr'
  have hid : r.1.2.id = r'.1.2.id := by
    rw [← huser, ← huser']
    exact hsame
  have heq : r.1.2 = r'.1.2 := List.inj_on_of_nodup_map db.userKeys hu hu' hid
  unfold attorneyKey
  rw [huser, huser', heq]

theorem mem_attorneys_iff {u : Uuid} :
    u ∈ ((billedRows db startDate endDate).map attorneyKey).dedup.map Prod.fst ↔
      Reported db startDate endDate u := by
  simp only [List.mem_map, List.mem_dedup]
  constructor
  · rintro ⟨k, ⟨r, hr, rfl⟩, rfl⟩
    obtain ⟨he, -, hi, -, hinv, hdate⟩ := (mem_billedRows_iff db startDate endDate).mp hr
    exact ⟨r.1.1, he, rfl, r.2, hi, hinv, hdate⟩
  · rintro ⟨e, he, rfl, inv, hi, hinv, hdate⟩
    obtain ⟨user, huser, hid⟩ := List.mem_map.mp (db.entryUser e he)
    refine ⟨_, ⟨((e, user), inv), ?_, rfl⟩, rfl⟩
    exact (mem_billedRows_iff db startDate endDate).mpr ⟨he, huser, hi, hid.symm, hinv, hdate⟩

/-! What the rows add up to. -/

/-- A payment is in the joined rows once for each entry of its invoice. -/
theorem total_collectedRows (f : TimeEntry → Payment → ℤ) :
    total (fun r => f r.1.1 r.2) (collectedRows db startDate endDate) =
      total (fun p => total (fun e => if e.invoiceId = some p.invoiceId then f e p else 0)
        db.timeEntries) (paymentsWithin db startDate endDate) := by
  -- of all invoices only that of the payment counts
  have hpartner : ∀ e ∈ db.timeEntries, ∀ p ∈ db.payments, ∀ c : ℤ,
      total (fun inv : Invoice => if e.invoiceId = some inv.id then
        (if p.invoiceId = inv.id then c else 0) else 0) db.invoices =
        if e.invoiceId = some p.invoiceId then c else 0 := by
    intro e _ p hp c
    have hone := total_ite_key db.invoiceKeys (db.paymentInvoice p hp)
      (if e.invoiceId = some p.invoiceId then c else 0)
    rw [← hone]
    apply total_congr
    intro inv _
    by_cases h : inv.id = p.invoiceId
    · rw [if_pos h, h, if_pos rfl]
    · rw [if_neg h, if_neg (Ne.symm h), ite_self]
  set w := fun (e : TimeEntry) (p : Payment) =>
    if within startDate endDate (some p.paymentDate) then f e p else 0 with hw
  have hentry : ∀ e ∈ db.timeEntries, total (fun inv : Invoice => total (w e)
      (db.payments.filter fun p => p.invoiceId = inv.id))
      (db.invoices.filter fun inv => e.invoiceId = some inv.id) =
      total (fun p => if e.invoiceId = some p.invoiceId then w e p else 0) db.payments := by
    intro e he
    have hinside : ∀ inv : Invoice, (if e.invoiceId = some inv.id then total (w e)
        (db.payments.filter fun p => p.invoiceId = inv.id) else 0) =
        total (fun p => if e.invoiceId = some inv.id then
          (if p.invoiceId = inv.id then w e p else 0) else 0) db.payments := by
      intro inv
      rw [total_filter]
      by_cases h : e.invoiceId = some inv.id
      · simp only [if_pos h, decide_eq_true_eq]
      · simp only [if_neg h, total_zero]
    rw [total_filter]
    simp only [decide_eq_true_eq, hinside]
    rw [total_comm]
    exact total_congr fun p hp => hpartner e he p hp _
  -- the join sums over the entries first; the payments are brought out
  unfold collectedRows paymentsWithin
  rw [total_filter, total_join, total_join, total_filter]
  refine (total_congr hentry).trans ?_
  rw [total_comm]
  apply total_congr
  intro p _
  simp only [hw]
  cases within startDate endDate (some p.paymentDate) with
  | true => rfl
  | false => simp [total_zero]

/-- The report counts a payment as often as its invoice has entries of reported users. -/
theorem total_getRevenueByAttorney :
    total RevenueByAttorney.collectedCents (getRevenueByAttorney db startDate endDate) =
      total (fun p => p.amountCents*entriesPaid db startDate endDate p)
        (paymentsWithin db startDate endDate) := by
  -- the order of the report does not matter
  have hperm : total RevenueByAttorney.collectedCents (getRevenueByAttorney db startDate endDate) =
      total RevenueByAttorney.collectedCents ((groupBy attorneyKey
        (billedRows db startDate endDate)).map (attorneyReport db startDate endDate)) :=
    ((List.mergeSort_perm _ _).map _).sum_eq
  have hrow : ∀ g : (Uuid × String × String) × List BilledRow,
      (attorneyReport db startDate endDate g).collectedCents =
        total (fun r => r.2.amountCents) ((collectedRows db startDate endDate).filter
          fun r => r.1.1.userId = g.1.1) := fun g => total_lookup _ _ _ _
  rw [hperm, total_map]
  simp only [hrow]
  rw [groupBy, total_map]
  -- the sum over the attorneys is one over the rows of those reported
  have hkeys := total_of_keys (fun r : CollectedRow => r.2.amountCents)
    (fun r : CollectedRow => r.1.1.userId) (nodup_attorneys db startDate endDate)
    (collectedRows db startDate endDate)
  rw [total_map] at hkeys
  rw [hkeys, total_filter]
  simp only [mem_attorneys_iff, decide_eq_true_eq]
  rw [total_collectedRows db startDate endDate fun e p =>
    if Reported db startDate endDate e.userId then p.amountCents else 0]
  apply total_congr
  intro p _
  have hcount : (entriesPaid db startDate endDate p : ℤ)*p.amountCents =
      total (fun _ => p.amountCents) (db.timeEntries.filter fun e =>
        e.invoiceId = some p.invoiceId ∧ Reported db startDate endDate e.userId) := by
    rw [total_const, nsmul_eq_mul]
    rfl
  rw [mul_comm, hcount, total_filter]
  apply total_congr
  intro e _
  by_cases h : e.invoiceId = some p.invoiceId
  · simp only [h, if_true, true_and, decide_eq_true_eq]
  · simp only [h, if_false, false_and, decide_false, Bool.false_eq_true]

/-- Collections are counted once exactly if the payments on invoices with several entries of
reported users do not outweigh those on invoices without one. -/
theorem collectedOnce_iff : CollectedOnce db startDate endDate ↔
    total (fun p => p.amountCents*((entriesPaid db startDate endDate p : ℤ)-1))
      (paymentsWithin db startDate endDate) ≤ 0 := by
  have hsplit : total (fun p => p.amountCents*((entriesPaid db startDate endDate p : ℤ)-1))
      (paymentsWithin db startDate endDate)+
      total Payment.amountCents (paymentsWithin db startDate endDate) =
      total (fun p => p.amountCents*entriesPaid db startDate endDate p)
        (paymentsWithin db startDate endDate) := by
    rw [← total_add]
    apply total_congr
    intro p _
    ring
  rw [CollectedOnce, total_getRevenueByAttorney]
  constructor
  · intro h
    omega
  · intro h
    omega

/-- Two attorneys worked for an hour each, the invoice of 600 was paid once. -/
def sharedInvoice : ReportDb where
  timeEntries := [
    { id := 10, matterId := 5, userId := 1, date := 100, durationMinutes := 60
      description := "Drafting", billable := true, rateCents := 300, invoiceId := some 20 },
    { id := 11, matterId := 5, userId := 2, date := 101, durationMinutes := 60
      description := "Hearing", billable := true, rateCents := 300, invoiceId := some 20 }]
  invoices := [
    { id := 20, invoiceNumber := some 1, clientId := 3, matterId := 5, issuedDate := some 110
      dueDate := none, subtotalCents := 600, totalCents := 600, status := .paid, notes := none }]
  lineItems := []
  payments := [
    { id := 30, invoiceId := 20, amountCents := 600, paymentDate := 120, method := .check
      referenceNumber := none, notes := none, settles := none }]
  links := []
  events := []
  users := [
    { id := 1, email := "a@firm", passwordHash := "", firstName := "Ann", lastName := "Ames" },
    { id := 2, email := "b@firm", passwordHash := "", firstName := "Bob", lastName := "Bell" }]
  matters := [
    { id := 5, matterNumber := some 1, title := "Lease", clientId := 3
      dateOpened := ⟨739250, by decide, by decide⟩ }]
  clients := [{ id := 3, organizationName := some "Corner Shop" }]
  userKeys := by decide
  invoiceKeys := by decide
  matterKeys := by decide
  clientKeys := by decide
  entryUser := by simp
  entryInvoice := by simp
  paymentInvoice := by simp
  invoiceClient := by simp
  matterClient := by simp

/-- The payment is collected by both of them. -/
theorem sharedInvoice_collectedTwice : ¬CollectedOnce sharedInvoice 90 130 := by
  rw [CollectedOnce, total_getRevenueByAttorney]
  decide +kernel

end LegalForge.Reports
