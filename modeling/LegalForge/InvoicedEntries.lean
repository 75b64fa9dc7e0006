import LegalForge.BilledLines
import LegalForge.LineCents

/-! The lines of billed time entries. An entry refers to the last invoice it was billed on, where it
has one line; its lines on earlier invoices stay. -/
namespace LegalForge.Billing
open Transition TimePricing

/-- The lines that bill an entry on an invoice. -/
def linesOn (db : Db) (entryId invoiceId : Uuid) : List InvoiceLineItem :=
  db.lineItems.filter fun li => li.timeEntryId = some entryId ∧ li.invoiceId = invoiceId

/-- The line bills the cents of its own minutes and rate, on a stored invoice. -/
structure LinePriced (db : Db) (li : InvoiceLineItem) : Prop where
  minutes : 1 ≤ li.quantity
  rate : 0 ≤ li.rateCents
  amount : li.amountCents = billedCents li.quantity.toNat li.rateCents.toNat
  invoice : li.invoiceId ∈ db.invoices.map Invoice.id

/-- What holds of lines and entries whatever is billed. -/
structure LinesKept (db : Db) : Prop where
  schema : ∀ e ∈ db.timeEntries, 1 ≤ e.durationMinutes ∧ 0 ≤ e.rateCents
  priced : ∀ li ∈ db.lineItems, LinePriced db li
  /-- A billed entry has one line on the invoice it refers to. -/
  current : ∀ e ∈ db.timeEntries, ∀ i, e.invoiceId = some i → (linesOn db e.id i).length = 1

section
variable {db db' : Db}

/-- Lines and invoices are the same, and entries still refer to the invoices they did. -/
theorem LinesKept.congr (h : LinesKept db) (hlines : db'.lineItems = db.lineItems)
    (hinvoices : db'.invoices = db.invoices)
    (hschema : ∀ e ∈ db'.timeEntries, 1 ≤ e.durationMinutes ∧ 0 ≤ e.rateCents)
    (hrefers : ∀ e ∈ db'.timeEntries, ∀ i, e.invoiceId = some i →
      ∃ old ∈ db.timeEntries, old.id = e.id ∧ old.invoiceId = some i) : LinesKept db' := by
  constructor
  · exact hschema
  · intro li hli
    rw [hlines] at hli
    obtain ⟨hminutes, hrate, hamount, hinvoice⟩ := h.priced li hli
    rw [← hinvoices] at hinvoice
    exact ⟨hminutes, hrate, hamount, hinvoice⟩
  · intro e he i hi
    obtain ⟨old, hold, hid, hold'⟩ := hrefers e he i hi
    rw [linesOn, hlines, ← hid]
    exact h.current old hold i hold'

theorem LinesKept.createTimeEntry {data : TimeEntryCreate} {userId entryId : Uuid}
    (hkept : LinesKept db) (h : createTimeEntry db data userId entryId = .ok db') : LinesKept db' := by
  unfold Billing.createTimeEntry at h
  split_ifs at h
  obtain rfl := Except.ok.inj h
  apply LinesKept.congr hkept
  · rfl
  · rfl
  · intro e he
    rcases List.mem_append.mp he with hold | hnew
    · exact hkept.schema e hold
    · rw [List.mem_singleton.mp hnew]
      exact ⟨data.duration_ge, data.rate_ge⟩
  · intro e he i hi
    rcases List.mem_append.mp he with hold | hnew
    · exact ⟨e, hold, rfl, hi⟩
    · rw [List.mem_singleton.mp hnew] at hi
      cases hi

/-- What is stored after an update was stored before, or sent. -/
theorem setColumn_ge {sent : Option (Option ℤ)} {bound old new : ℤ}
    (h : setColumn sent old = some new) (hold : bound ≤ old)
    (hsent : ∀ v, sent = some (some v) → bound ≤ v) : bound ≤ new := by
  cases sent with
  | none =>
    rw [← Option.some.inj h]
    exact hold
  | some value =>
    have hvalue : value = some new := h
    exact hsent new (congrArg some hvalue)

theorem LinesKept.updateTimeEntry {currentUser : CurrentUser} {entryId : Uuid}
    {data : TimeEntryUpdate} (hkept : LinesKept db)
    (h : updateExistingTimeEntry db currentUser entryId data = .ok db') : LinesKept db' := by
  obtain ⟨entry, updated, -, hupd⟩ := updateExistingTimeEntry_ok h
  have hentry : entry ∈ db.timeEntries := Table.mem_of_find hupd.loaded
  have hid : updated.id = entry.id := (updateTimeEntry_some hupd.changed).1
  have hinvoiceId : updated.invoiceId = entry.invoiceId := (updateTimeEntry_some hupd.changed).2.2.1
  obtain ⟨hduration, hrate, -⟩ := updateTimeEntry_copied hupd.changed
  -- a row is an old one, or the one that was updated
  have hcases : ∀ e ∈ db'.timeEntries, e ∈ db.timeEntries ∨ e = updated := by
    intro e he
    rw [hupd.tables] at he
    obtain ⟨old, hold, halter⟩ := Table.mem_alter.mp he
    split_ifs at halter
    · exact Or.inr halter.symm
    · exact Or.inl (halter ▸ hold)
  apply hkept.congr hupd.lineItems
  · rw [hupd.tables]
  · intro e he
    rcases hcases e he with hold | rfl
    · exact hkept.schema e hold
    · obtain ⟨hminutes, hrateGe⟩ := hkept.schema entry hentry
      exact ⟨setColumn_ge hduration hminutes data.duration_ge, setColumn_ge hrate hrateGe data.rate_ge⟩
  · intro e he i hi
    rcases hcases e he with hold | rfl
    · exact ⟨e, hold, rfl, hi⟩
    · exact ⟨entry, hentry, hid.symm, hinvoiceId ▸ hi⟩

theorem LinesKept.deleteTimeEntry {currentUser : CurrentUser} {entryId : Uuid}
    (hkept : LinesKept db) (h : deleteExistingTimeEntry db currentUser entryId = .ok db') :
    LinesKept db' := by
  obtain ⟨-, rfl⟩ := deleteExistingTimeEntry_ok h
  have hsub : ∀ e ∈ Table.remove TimeEntry.id entryId db.timeEntries, e ∈ db.timeEntries :=
    fun e he => (List.mem_filter.mp he).1
  apply LinesKept.congr hkept
  · rfl
  · rfl
  · intro e he
    exact hkept.schema e (hsub e he)
  · intro e he i hi
    exact ⟨e, hsub e he, rfl, hi⟩

namespace Invoiced
variable {data : InvoiceCreate} {invoiceId : Uuid} {lineItemId : Uuid → Uuid} {invoice : Invoice}

/-- The lines of an entry on an invoice are the old ones, and a new one if the entry is selected and
the invoice is the new one. -/
theorem linesOn_eq (h : Invoiced db data invoiceId lineItemId invoice db') (e i : Uuid) :
    linesOn db' e i = linesOn db e i++if i = invoiceId then
      ((selectedEntries db data.timeEntryIds).filter fun x => x.id = e).map
        (fun x => lineItem invoiceId (lineItemId x.id) x) else [] := by
  unfold linesOn
  rw [h.lineItems, List.filter_append, List.filter_map]
  congr 1
  split_ifs with hi
  · subst hi
    congr 1
    apply List.filter_congr
    intro x _
    simp [lineItem]
  · rw [List.map_eq_nil_iff, List.filter_eq_nil_iff]
    intro x _ hx
    exact hi (of_decide_eq_true hx).2.symm

/-- Nothing is billed on the invoice yet. -/
theorem linesOn_fresh (h : Invoiced db data invoiceId lineItemId invoice db') (hkept : LinesKept db)
    (e : Uuid) : linesOn db e invoiceId = [] := by
  rw [linesOn, List.filter_eq_nil_iff]
  intro li hli hon
  obtain ⟨inv, hmem, hid⟩ := List.mem_map.mp (hkept.priced li hli).invoice
  exact h.fresh inv hmem (hid.trans (of_decide_eq_true hon).2)

theorem linePriced (h : Invoiced db data invoiceId lineItemId invoice db') (hkept : LinesKept db)
    {li : InvoiceLineItem} (hli : li ∈ db'.lineItems) : LinePriced db' li := by
  rcases h.mem_lineItems.mp hli with hold | ⟨entry, hentry, rfl⟩
  · obtain ⟨hminutes, hrate, hamount, hinvoice⟩ := hkept.priced li hold
    refine ⟨hminutes, hrate, hamount, ?_⟩
    rw [h.invoices, List.map_append]
    exact List.mem_append_left _ hinvoice
  · obtain ⟨hminutes, hrate⟩ := hkept.schema entry (List.mem_filter.mp hentry).1
    refine ⟨hminutes, hrate, lineAmount_eq hminutes hrate, ?_⟩
    rw [h.invoices, List.map_append, List.map_singleton, h.id]
    exact List.mem_append_right _ (List.mem_singleton_self _)

/-- A selected entry gets its one line on the new invoice, the others keep theirs. -/
theorem current (h : Invoiced db data invoiceId lineItemId invoice db') (hinv : BillingInv db)
    (hkept : LinesKept db) {e : TimeEntry} (he : e ∈ db'.timeEntries) {i : Uuid}
    (hi : e.invoiceId = some i) : (linesOn db' e.id i).length = 1 := by
  rw [h.timeEntries] at he
  obtain ⟨old, hold, rfl⟩ := List.mem_map.mp he
  rw [markInvoiced_id, h.linesOn_eq, List.length_append]
  unfold markInvoiced at hi
  split_ifs at hi with hselected
  · obtain rfl := Option.some.inj hi
    have hmem : old ∈ selectedEntries db data.timeEntryIds :=
      List.mem_filter.mpr ⟨hold, decide_eq_true hselected⟩
    rw [h.linesOn_fresh hkept, if_pos rfl,
      Table.filter_key_eq_singleton (nodup_selected hinv _) hmem]
    rfl
  · have hlength := hkept.current old hold i hi
    have hne : i ≠ invoiceId := by
      rintro rfl
      rw [h.linesOn_fresh hkept] at hlength
      cases hlength
    rw [hlength, if_neg hne]
    rfl

theorem linesKept (h : Invoiced db data invoiceId lineItemId invoice db') (hinv : BillingInv db)
    (hkept : LinesKept db) : LinesKept db' := by
  constructor
  · intro e he
    rw [h.timeEntries] at he
    obtain ⟨old, hold, rfl⟩ := List.mem_map.mp he
    unfold markInvoiced
    split_ifs
    · exact hkept.schema old hold
    · exact hkept.schema old hold
  · intro li hli
    exact h.linePriced hkept hli
  · intro e he i hi
    exact h.current hinv hkept he hi

end Invoiced

end

theorem linesKept_billingStep {db : Db} (r : BillingRequest) (hinv : BillingInv db)
    (hkept : LinesKept db) : LinesKept (billingStep db r) := by
  apply billingStep_of_ok hkept
  intro db' h
  cases r with
  | createTimeEntry data userId entryId => exact hkept.createTimeEntry h
  | updateTimeEntry currentUser entryId data => exact hkept.updateTimeEntry h
  | deleteTimeEntry currentUser entryId => exact hkept.deleteTimeEntry h
  | createInvoice data invoiceId lineItemId =>
    obtain ⟨invoice, hcreated⟩ := handle_createInvoice_ok h
    exact (createInvoice_ok hcreated).linesKept hinv hkept

/-- Every run of billing requests leaves a billed entry with its line. -/
theorem linesKept_run (rs : List BillingRequest) :
    BillingInv (rs.foldl billingStep Db.empty) ∧ LinesKept (rs.foldl billingStep Db.empty) := by
  have hstart : BillingInv Db.empty ∧ LinesKept Db.empty := by
    refine ⟨billingInv_empty, ?_, ?_, ?_⟩
    · intro e he
      cases he
    · intro li hli
      cases hli
    · intro e he
      cases he
  have hkeep : ∀ db r db', BillingInv db ∧ LinesKept db → total billingStep db r = some db' →
      BillingInv db' ∧ LinesKept db' := by
    intro db r db' h hstep
    obtain rfl := Option.some.inj hstep
    exact ⟨(billingStep_spec r h.1).1, linesKept_billingStep r h.1 h.2⟩
  exact exec_invariant hkeep hstart (exec_total billingStep Db.empty rs)

end LegalForge.Billing
