import LegalForge.InvoicedEntries
import LegalForge.RevenueReports

/-! What the revenue report says is billed, against the lines of the invoices. The report adds up
quotients and cuts the sum, the invoices cut each line. -/
namespace LegalForge.Reports
open Billing Rows TimePricing

variable (db : ReportDb) (startDate endDate : Date)

/-- The invoice was issued in the period. -/
def issuedWithin (invoiceId : Option Uuid) : Bool :=
  match invoiceId.bind (getInvoice db.toDb) with
  | none => false
  | some invoice => within startDate endDate invoice.issuedDate

/-- The entry a line came from. -/
def sourceOf (li : InvoiceLineItem) : Option TimeEntry :=
  li.timeEntryId.bind (getTimeEntry db.toDb)

/-- The lines that came from the entries of a user, on invoices issued in the period. -/
def linesOfUser (userId : Uuid) : List InvoiceLineItem :=
  db.lineItems.filter fun li => (sourceOf db li).any (fun e => e.userId = userId) &&
    issuedWithin db startDate endDate (some li.invoiceId)

/-- `billed_cents` of a user, 0 for one without a row. -/
def reportedCents (userId : Uuid) : ℤ :=
  (((getRevenueByAttorney db startDate endDate).find? fun r => r.userId = userId).map
    RevenueByAttorney.billedCents).getD 0

/-- The report has for a user what the lines bill. -/
def BilledAsLined (userId : Uuid) : Prop :=
  reportedCents db startDate endDate userId =
    total InvoiceLineItem.amountCents (linesOfUser db startDate endDate userId)

/-- The entries have the minutes and the rates that their lines have copied. -/
def EntriesUnchanged : Prop :=
  ∀ li ∈ db.lineItems, ∀ e, sourceOf db li = some e →
    e.durationMinutes = li.quantity ∧ e.rateCents = li.rateCents

/-- The entry is the user's and refers to an invoice issued in the period. -/
def isOfUser (userId : Uuid) (e : TimeEntry) : Bool :=
  e.userId = userId && issuedWithin db startDate endDate e.invoiceId

def entriesOfUser (userId : Uuid) : List TimeEntry :=
  db.timeEntries.filter (isOfUser db startDate endDate userId)

/-- The entry refers to the invoice of the line. -/
def isCurrent (li : InvoiceLineItem) : Bool :=
  (sourceOf db li).any fun e => e.invoiceId = some li.invoiceId

/-- The lines of entries that have been billed again, on another invoice. -/
def supersededLines (userId : Uuid) : List InvoiceLineItem :=
  (linesOfUser db startDate endDate userId).filter fun li => !isCurrent db li

/-- `duration_minutes * rate_cents`, the price in sixtieths of a cent. -/
def price (e : TimeEntry) : ℕ :=
  e.durationMinutes.toNat*e.rateCents.toNat

/-- `int(duration_minutes / 60 * rate_cents)` -/
def cents (e : TimeEntry) : ℤ :=
  billedCents e.durationMinutes.toNat e.rateCents.toNat

/-- The remainders of the lines come to as many cents as doubles have carried and superseded lines
bill. -/
def RemaindersSettled (userId : Uuid) : Prop :=
  ((total (fun e => price e%60) (entriesOfUser db startDate endDate userId)/60 : ℕ) : ℤ) =
    total (fun e => carriedCents e.durationMinutes.toNat e.rateCents.toNat)
      (entriesOfUser db startDate endDate userId)+
    total (fun li => ((li.quantity.toNat*li.rateCents.toNat/60 : ℕ) : ℤ)+
      carriedCents li.quantity.toNat li.rateCents.toNat) (supersededLines db startDate endDate userId)

/-! What the report has for a user. -/

/-- A billed row for each entry on an invoice of the period. -/
theorem total_billedRows (f : TimeEntry → ℚ) (userId : Uuid) :
    total (fun r => f r.1.1) ((billedRows db startDate endDate).filter
      fun r => r.1.1.userId = userId) = total f (entriesOfUser db startDate endDate userId) := by
  unfold billedRows entriesOfUser isOfUser
  rw [List.filter_filter, total_filter, total_join, total_join, total_filter]
  apply total_congr
  intro e he
  obtain ⟨user, huser, hid⟩ := List.mem_map.mp (db.entryUser e he)
  have hpartner : db.users.filter (fun u => e.userId = u.id) = [user] := by
    rw [← Table.filter_key_eq_singleton db.userKeys huser]
    apply List.filter_congr
    intro u _
    rw [← hid]
    exact decide_eq_decide.mpr eq_comm
  rw [hpartner, total_cons, total_nil, add_zero]
  cases hinvoiceId : e.invoiceId with
  | none => simp [issuedWithin, total]
  | some i =>
    obtain ⟨invoice, hinvoice, rfl⟩ := List.mem_map.mp (db.entryInvoice e he i hinvoiceId)
    have hone : db.invoices.filter (fun inv => some invoice.id = some inv.id) = [invoice] := by
      rw [← Table.filter_key_eq_singleton db.invoiceKeys hinvoice]
      apply List.filter_congr
      intro inv _
      exact decide_eq_decide.mpr (by rw [Option.some.injEq, eq_comm])
    have hfound : getInvoice db.toDb invoice.id = some invoice :=
      (Table.find_eq_some_iff db.invoiceKeys).mpr ⟨hinvoice, rfl⟩
    rw [hone, total_cons, total_nil, add_zero, issuedWithin, Option.bind_some, hfound]

/-- The rows of one user have one key. -/
theorem filter_attorneyKey {r : BilledRow} (hr : r ∈ billedRows db startDate endDate) :
    (billedRows db startDate endDate).filter (fun r' => attorneyKey r' = attorneyKey r) =
      (billedRows db startDate endDate).filter (fun r' => r'.1.1.userId = r.1.1.userId) := by
  obtain ⟨-, hu, -, huser, -⟩ := (mem_billedRows_iff db startDate endDate).mp hr
  apply List.filter_congr
  intro r' hr'
  obtain ⟨-, hu', -, huser', -⟩ := (mem_billedRows_iff db startDate endDate).mp hr'
  apply decide_eq_decide.mpr
  constructor
  · intro h
    exact (Prod.mk.inj h).1
  · intro h
    have hid : r'.1.2.id = r.1.2.id := by rw [← huser, ← huser', h]
    have heq : r'.1.2 = r.1.2 := List.inj_on_of_nodup_map db.userKeys hu' hu hid
    unfold attorneyKey
    rw [h, heq]

/-- The sum of the exact prices, cut once. -/
theorem reportedCents_eq (userId : Uuid) : reportedCents db startDate endDate userId =
    Double.trunc (billedValue (entriesOfUser db startDate endDate userId)) := by
  have hvalue := total_billedRows db startDate endDate
    (fun e => (e.durationMinutes*e.rateCents : ℚ)/60) userId
  unfold reportedCents
  cases hfind : (getRevenueByAttorney db startDate endDate).find? fun r => r.userId = userId with
  | none =>
    -- a row of the join would have a row of the report
    have hnone : (billedRows db startDate endDate).filter (fun r => r.1.1.userId = userId) = [] := by
      rw [List.filter_eq_nil_iff]
      intro r hr hid
      have hreport : attorneyReport db startDate endDate (attorneyKey r,
          (billedRows db startDate endDate).filter (fun r' => attorneyKey r' = attorneyKey r)) ∈
          getRevenueByAttorney db startDate endDate := by
        apply List.mem_mergeSort.mpr
        apply List.mem_map_of_mem
        exact mem_groupBy.mpr ⟨List.mem_map_of_mem hr, rfl⟩
      exact List.find?_eq_none.mp hfind _ hreport hid
    rw [hnone] at hvalue
    rw [billedValue, ← hvalue]
    rfl
  | some report =>
    have hid : report.userId = userId := of_decide_eq_true (List.find?_some hfind :)
    obtain ⟨g, hg, rfl⟩ := List.mem_map.mp (List.mem_mergeSort.mp (List.mem_of_find?_eq_some hfind))
    obtain ⟨hkey, hrows⟩ := mem_groupBy.mp hg
    obtain ⟨r, hr, hrkey⟩ := List.mem_map.mp hkey
    have hrid : r.1.1.userId = userId := by
      rw [← hid]
      exact congrArg Prod.fst hrkey
    rw [← hrkey, filter_attorneyKey db startDate endDate hr, hrid] at hrows
    have hcents : (attorneyReport db startDate endDate g).billedCents =
        Double.trunc (billedValue (g.2.map fun r => r.1.1)) := rfl
    rw [Option.map_some, Option.getD_some, hcents, hrows, billedValue, total_map, hvalue]
    rfl

/-- The whole cents of the entries, and those of what is left of them. -/
theorem trunc_billedValue {rows : List TimeEntry}
    (hschema : ∀ e ∈ rows, 1 ≤ e.durationMinutes ∧ 0 ≤ e.rateCents) :
    Double.trunc (billedValue rows) =
      total (fun e => ((price e/60 : ℕ) : ℤ)) rows+((total (fun e => price e%60) rows/60 : ℕ) : ℤ) := by
  have hquotient : billedValue rows = ((total price rows : ℕ) : ℚ)/60 := by
    unfold billedValue
    induction rows with
    | nil => simp
    | cons e rows ih =>
      obtain ⟨hminutes, hrate⟩ := hschema e List.mem_cons_self
      have hprice : ((price e : ℕ) : ℤ) = e.durationMinutes*e.rateCents := by
        rw [price, Nat.cast_mul, Int.toNat_of_nonneg (by omega), Int.toNat_of_nonneg hrate]
      have hcast : ((price e : ℕ) : ℚ) = e.durationMinutes*e.rateCents := by exact_mod_cast hprice
      rw [total_cons, total_cons, ih fun x hx => hschema x (List.mem_cons_of_mem e hx), Nat.cast_add,
        hcast, add_div]
  have hnonneg : (0:ℚ) ≤ ((total price rows : ℕ) : ℚ)/60 := by positivity
  have hfloor : ⌊((total price rows : ℕ) : ℚ)/60⌋ = ((total price rows/60 : ℕ) : ℤ) := by
    have hdiv := Rat.floor_natCast_div_natCast (total price rows) 60
    rwa [Nat.cast_ofNat] at hdiv
  rw [hquotient, Double.trunc, if_pos hnonneg, hfloor, total_div _ (by decide : 0 < 60),
    Nat.cast_add, Rows.natCast_total]

/-! What the lines bill. -/

theorem total_cents {rows : List TimeEntry}
    (hschema : ∀ e ∈ rows, 1 ≤ e.durationMinutes ∧ 0 ≤ e.rateCents) :
    total cents rows = total (fun e => ((price e/60 : ℕ) : ℤ)) rows+
      total (fun e => carriedCents e.durationMinutes.toNat e.rateCents.toNat) rows := by
  rw [← total_add]
  apply total_congr
  intro e he
  have hminutes := (hschema e he).1
  exact billedCents_eq (by omega)

theorem total_amountCents {rows : List InvoiceLineItem}
    (hpriced : ∀ li ∈ rows, 1 ≤ li.quantity ∧
      li.amountCents = billedCents li.quantity.toNat li.rateCents.toNat) :
    total InvoiceLineItem.amountCents rows =
      total (fun li => ((li.quantity.toNat*li.rateCents.toNat/60 : ℕ) : ℤ)+
        carriedCents li.quantity.toNat li.rateCents.toNat) rows := by
  apply total_congr
  intro li hli
  obtain ⟨hminutes, hbills⟩ := hpriced li hli
  rw [hbills]
  exact billedCents_eq (by omega)

section
variable {db} {startDate endDate} {userId : Uuid}

theorem sourceOf_eq_some_iff (hids : (db.timeEntries.map TimeEntry.id).Nodup) {li : InvoiceLineItem}
    {e : TimeEntry} :
    sourceOf db li = some e ↔ li.timeEntryId = some e.id ∧ e ∈ db.timeEntries := by
  unfold sourceOf
  rw [Option.bind_eq_some_iff]
  constructor
  · rintro ⟨i, hi, hfind⟩
    obtain ⟨hmem, rfl⟩ := (Table.find_eq_some_iff hids).mp hfind
    exact ⟨hi, hmem⟩
  · rintro ⟨hi, hmem⟩
    exact ⟨e.id, hi, (Table.find_eq_some_iff hids).mpr ⟨hmem, rfl⟩⟩

/-- A line and the entry it came from. -/
theorem total_source (hids : (db.timeEntries.map TimeEntry.id).Nodup) (li : InvoiceLineItem)
    (p : TimeEntry → Bool) (f : TimeEntry → ℤ) :
    total (fun e => if li.timeEntryId = some e.id then if p e then f e else 0 else 0) db.timeEntries =
      match sourceOf db li with
      | none => 0
      | some e => if p e then f e else 0 := by
  cases hsource : sourceOf db li with
  | none =>
    refine (total_congr fun e he => ?_).trans (total_zero db.timeEntries)
    apply if_neg
    intro hid
    rw [(sourceOf_eq_some_iff hids).mpr ⟨hid, he⟩] at hsource
    cases hsource
  | some source =>
    obtain ⟨hid, hmem⟩ := (sourceOf_eq_some_iff hids).mp hsource
    dsimp only
    rw [← total_ite_key hids (List.mem_map_of_mem hmem) (if p source then f source else 0)]
    apply total_congr
    intro e he
    by_cases hsame : e.id = source.id
    · obtain rfl := List.inj_on_of_nodup_map hids he hmem hsame
      rw [if_pos hid, if_pos rfl]
    · have hne : li.timeEntryId ≠ some e.id := by
        rw [hid]
        exact fun h => hsame (Option.some.inj h).symm
      rw [if_neg hne, if_neg hsame]

/-- What a line bills for an entry of the user, if it is its current line. -/
def currentAmount (db : ReportDb) (startDate endDate : Date) (userId : Uuid) (li : InvoiceLineItem)
    (e : TimeEntry) : ℤ :=
  if li.timeEntryId = some e.id then
    if decide (e.invoiceId = some li.invoiceId) && isOfUser db startDate endDate userId e then cents e
    else 0
  else 0

theorem total_currentAmount (hids : (db.timeEntries.map TimeEntry.id).Nodup) {li : InvoiceLineItem}
    (hamount : ∀ e, sourceOf db li = some e → li.amountCents = cents e) :
    (if isCurrent db li && ((sourceOf db li).any (fun e => e.userId = userId) &&
      issuedWithin db startDate endDate (some li.invoiceId)) then li.amountCents else 0) =
        total (currentAmount db startDate endDate userId li) db.timeEntries := by
  unfold currentAmount
  rw [total_source hids li (fun e => decide (e.invoiceId = some li.invoiceId) &&
    isOfUser db startDate endDate userId e) cents]
  unfold isCurrent isOfUser
  cases hsource : sourceOf db li with
  | none => rfl
  | some e =>
    rw [hamount e hsource]
    by_cases hrefers : e.invoiceId = some li.invoiceId
    · simp [hrefers]
    · simp [hrefers]

/-- An entry that refers to an invoice has one line there. -/
theorem total_currentAmount_entry {e : TimeEntry}
    (hcurrent : ∀ i, e.invoiceId = some i → (linesOn db.toDb e.id i).length = 1) :
    total (fun li => currentAmount db startDate endDate userId li e) db.lineItems =
      if isOfUser db startDate endDate userId e then cents e else 0 := by
  unfold currentAmount
  cases hmine : isOfUser db startDate endDate userId e with
  | false => simp [total_zero]
  | true =>
    cases hinvoiceId : e.invoiceId with
    | none =>
      rw [isOfUser] at hmine
      simp [hinvoiceId, issuedWithin] at hmine
    | some i =>
      have hone : total (fun _ => cents e) (linesOn db.toDb e.id i) = cents e := by
        rw [total_const, hcurrent i hinvoiceId, one_smul]
      rw [if_pos rfl]
      refine Eq.trans ?_ hone
      rw [linesOn, total_filter]
      apply total_congr
      intro li _
      by_cases hsource : li.timeEntryId = some e.id
      · by_cases hi : li.invoiceId = i
        · simp [hsource, hi]
        · simp [hsource, hi, Ne.symm hi]
      · simp [hsource]

/-- Each entry of the user has one current line, which bills its cents. -/
theorem total_current (hids : (db.timeEntries.map TimeEntry.id).Nodup)
    (hamount : ∀ li ∈ db.lineItems, ∀ e, sourceOf db li = some e → li.amountCents = cents e)
    (hcurrent : ∀ e ∈ db.timeEntries, ∀ i, e.invoiceId = some i →
      (linesOn db.toDb e.id i).length = 1) :
    total InvoiceLineItem.amountCents ((linesOfUser db startDate endDate userId).filter
      (isCurrent db)) = total cents (entriesOfUser db startDate endDate userId) := by
  calc total InvoiceLineItem.amountCents ((linesOfUser db startDate endDate userId).filter
        (isCurrent db))
      = total (fun li => total (currentAmount db startDate endDate userId li) db.timeEntries)
          db.lineItems := by
        rw [linesOfUser, List.filter_filter, total_filter]
        apply total_congr
        intro li hli
        exact total_currentAmount hids (hamount li hli)
    _ = total (fun e => total (fun li => currentAmount db startDate endDate userId li e) db.lineItems)
          db.timeEntries := total_comm _ _ _
    _ = total (fun e => if isOfUser db startDate endDate userId e then cents e else 0)
          db.timeEntries := by
        apply total_congr
        intro e he
        exact total_currentAmount_entry (hcurrent e he)
    _ = total cents (entriesOfUser db startDate endDate userId) := by
        rw [entriesOfUser, total_filter]

end

/-- From empty tables on, as long as the billed entries are as they were billed: the report has for
a user what the lines bill if and only if the remainders that the lines leave come to as many whole
cents as the doubles have carried and the lines of entries billed again bill. -/
theorem billedAsLined_iff (rs : List BillingRequest)
    (hentries : db.timeEntries = (rs.foldl billingStep Db.empty).timeEntries)
    (hlines : db.lineItems = (rs.foldl billingStep Db.empty).lineItems)
    (hsame : EntriesUnchanged db) (userId : Uuid) :
    BilledAsLined db startDate endDate userId ↔ RemaindersSettled db startDate endDate userId := by
  obtain ⟨hinv, hrun⟩ := linesKept_run rs
  have hids : (db.timeEntries.map TimeEntry.id).Nodup := hentries ▸ hinv.entries
  have hschema : ∀ e ∈ entriesOfUser db startDate endDate userId,
      1 ≤ e.durationMinutes ∧ 0 ≤ e.rateCents := by
    intro e he
    apply hrun.schema e
    rw [← hentries]
    exact (List.mem_filter.mp he).1
  have hpriced : ∀ li ∈ db.lineItems, 1 ≤ li.quantity ∧
      li.amountCents = billedCents li.quantity.toNat li.rateCents.toNat := by
    intro li hli
    rw [hlines] at hli
    exact ⟨(hrun.priced li hli).minutes, (hrun.priced li hli).amount⟩
  have hamount : ∀ li ∈ db.lineItems, ∀ e, sourceOf db li = some e → li.amountCents = cents e := by
    intro li hli e he
    obtain ⟨hminutes, hrate⟩ := hsame li hli e he
    rw [(hpriced li hli).2, cents, hminutes, hrate]
  have hcurrent : ∀ e ∈ db.timeEntries, ∀ i, e.invoiceId = some i →
      (linesOn db.toDb e.id i).length = 1 := by
    intro e he i hi
    rw [hentries] at he
    rw [linesOn, hlines]
    exact hrun.current e he i hi
  have hsuperseded : ∀ li ∈ supersededLines db startDate endDate userId, 1 ≤ li.quantity ∧
      li.amountCents = billedCents li.quantity.toNat li.rateCents.toNat := by
    intro li hli
    exact hpriced li (List.mem_filter.mp (List.mem_filter.mp hli).1).1
  -- the lines of a user are the current and the superseded ones
  have hlined := total_filter_add_not (f := InvoiceLineItem.amountCents) (isCurrent db)
    (linesOfUser db startDate endDate userId)
  rw [total_current hids hamount hcurrent, total_cents hschema] at hlined
  rw [BilledAsLined, reportedCents_eq, trunc_billedValue hschema, ← hlined, RemaindersSettled,
    ← total_amountCents hsuperseded, add_assoc]
  exact add_left_cancel_iff

/-- Two half hours at 100.01, billed on one invoice. -/
def halfHoursBilled : List BillingRequest :=
  [.createTimeEntry ⟨5, 739462, 30, "draft of lease", true, 10001, by decide, by decide, by decide⟩ 2 7,
   .createTimeEntry ⟨5, 739463, 30, "call on lease", true, 10001, by decide, by decide, by decide⟩ 2 8,
   .createInvoice { clientId := 4, matterId := 5, issuedDate := some 739470, timeEntryIds := [7, 8] }
    11 id]

def halfHours : ReportDb where
  timeEntries := [⟨7, 5, 2, 739462, 30, "draft of lease", true, 10001, some 11⟩,
    ⟨8, 5, 2, 739463, 30, "call on lease", true, 10001, some 11⟩]
  invoices := [⟨11, some 1001, 4, 5, some 739470, none, 10000, 0, 10000, .draft, none⟩]
  lineItems := [⟨7, 11, some 7, "draft of lease", 30, 10001, 5000⟩,
    ⟨8, 11, some 8, "call on lease", 30, 10001, 5000⟩]
  payments := []
  links := []
  events := []
  users := [
    { id := 2, email := "kim@firm", passwordHash := "", firstName := "Kim", lastName := "Katz" }]
  matters := []
  clients := [{ id := 4, organizationName := some "Kiosk" }]
  userKeys := by decide
  invoiceKeys := by decide
  matterKeys := by decide
  clientKeys := by decide
  entryUser := by simp
  entryInvoice := by simp
  paymentInvoice := by simp
  invoiceClient := by simp
  matterClient := by simp

theorem halfHours_run :
    halfHours.timeEntries = (halfHoursBilled.foldl billingStep Db.empty).timeEntries ∧
      halfHours.lineItems = (halfHoursBilled.foldl billingStep Db.empty).lineItems := by
  decide +kernel

theorem entriesUnchanged_halfHours : EntriesUnchanged halfHours := by
  have hall : ∀ li ∈ halfHours.lineItems, (sourceOf halfHours li).all (fun e =>
      e.durationMinutes = li.quantity ∧ e.rateCents = li.rateCents) = true := by
    decide +kernel
  intro li hli e he
  have hline := hall li hli
  rw [he] at hline
  exact of_decide_eq_true hline

/-- The report has 100.01, the lines bill 50.00 each. -/
theorem halfHours_not_billedAsLined :
    (halfHours.timeEntries = (halfHoursBilled.foldl billingStep Db.empty).timeEntries ∧
      halfHours.lineItems = (halfHoursBilled.foldl billingStep Db.empty).lineItems) ∧
    EntriesUnchanged halfHours ∧ ¬BilledAsLined halfHours 739460 739480 2 := by
  refine ⟨halfHours_run, entriesUnchanged_halfHours, ?_⟩
  rw [BilledAsLined, reportedCents_eq]
  decide +kernel

theorem billedAsLined_iff_halfHours : BilledAsLined halfHours 739460 739480 2 ↔
    RemaindersSettled halfHours 739460 739480 2 :=
  billedAsLined_iff halfHours 739460 739480 halfHoursBilled halfHours_run.1 halfHours_run.2
    entriesUnchanged_halfHours 2

end LegalForge.Reports
