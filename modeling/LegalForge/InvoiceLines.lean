import LegalForge.Billing
import LegalForge.TransitionRun

/-! Which time entries the invoice lines bill. `create_invoice` bills every entry
it is given an id of. -/
namespace LegalForge.Billing
open Transition

/-- A request that touches time entries or bills them. -/
inductive BillingRequest where
  | createTimeEntry (data : TimeEntryCreate) (userId entryId : Uuid)
  | updateTimeEntry (currentUser : CurrentUser) (entryId : Uuid) (data : TimeEntryUpdate)
  | deleteTimeEntry (currentUser : CurrentUser) (entryId : Uuid)
  | createInvoice (data : InvoiceCreate) (invoiceId : Uuid) (lineItemId : Uuid → Uuid)

def handle (db : Db) : BillingRequest → Except HttpError Db
  | .createTimeEntry data userId entryId => createTimeEntry db data userId entryId
  | .updateTimeEntry currentUser entryId data => updateExistingTimeEntry db currentUser entryId data
  | .deleteTimeEntry currentUser entryId => deleteExistingTimeEntry db currentUser entryId
  | .createInvoice data invoiceId lineItemId =>
    (createInvoice db data invoiceId lineItemId).map (fun out => out.2)

/-- The tables after the request. A failed one is rolled back. -/
def billingStep (db : Db) (r : BillingRequest) : Db :=
  match handle db r with
  | .ok db' => db'
  | .error _ => db

/-- How many lines of all invoices bill the entry. -/
def timesBilled (db : Db) (entryId : Uuid) : ℕ :=
  (db.lineItems.map InvoiceLineItem.timeEntryId).count (some entryId)

/-- The line bills a billable entry of the matter of its invoice. -/
def LineOk (db : Db) (item : InvoiceLineItem) : Prop :=
  ∀ e, item.timeEntryId = some e → ∃ entry, getTimeEntry db e = some entry ∧
    entry.billable = true ∧ ∃ invoice, getInvoice db item.invoiceId = some invoice ∧
      invoice.matterId = entry.matterId

structure NoDoubleBilling (db : Db) : Prop where
  once : ∀ e, timesBilled db e ≤ 1
  lines : ∀ item ∈ db.lineItems, LineOk db item

/-- What holds of the tables whatever is billed. -/
structure BillingInv (db : Db) : Prop where
  entries : (db.timeEntries.map TimeEntry.id).Nodup
  source : ∀ item ∈ db.lineItems, ∀ e, item.timeEntryId = some e →
    ∃ entry, getTimeEntry db e = some entry ∧ entry.invoiceId.isSome = true

/-- The request bills no entry a second time, none that is not billable and none
of another matter, and takes `billable` from no entry that is billed. -/
def BillsFresh (db : Db) : BillingRequest → Prop
  | .createTimeEntry _ _ _ => True
  | .updateTimeEntry currentUser entryId data => ∀ entry, getTimeEntry db entryId = some entry →
      mayEdit currentUser entry = true → (updateTimeEntry entry data).isSome = true →
      timesBilled db entryId ≠ 0 → data.billable ≠ some (some false)
  | .deleteTimeEntry _ _ => True
  | .createInvoice data invoiceId _ => (∀ i ∈ db.invoices, i.id ≠ invoiceId) →
      ∀ entry ∈ selectedEntries db data.timeEntryIds, entry.billable = true ∧
        entry.matterId = data.matterId ∧ timesBilled db entry.id = 0

theorem timesBilled_ne_zero_iff {db : Db} {e : Uuid} :
    timesBilled db e ≠ 0 ↔ ∃ item ∈ db.lineItems, item.timeEntryId = some e := by
  rw [timesBilled, ← Nat.pos_iff_ne_zero, List.count_pos_iff, List.mem_map]

/-- Tables with the same lines that find the entries and invoices of all lines again. -/
theorem lineOk_congr {db db' : Db} {item : InvoiceLineItem}
    (hentry : ∀ e, item.timeEntryId = some e → getTimeEntry db' e = getTimeEntry db e)
    (hinvoice : getInvoice db' item.invoiceId = getInvoice db item.invoiceId) :
    LineOk db' item ↔ LineOk db item := by
  simp only [LineOk, hinvoice]
  exact forall_congr' fun e => imp_congr_right fun he => by rw [hentry e he]

/-- A request that fails changes nothing. -/
theorem billingStep_of_ok {P : Db → Prop} {db : Db} {r : BillingRequest} (hsame : P db)
    (hok : ∀ db', handle db r = .ok db' → P db') : P (billingStep db r) := by
  unfold billingStep
  cases h : handle db r with
  | error e => exact hsame
  | ok db' => exact hok db' h

theorem handle_createInvoice_ok {db db' : Db} {data : InvoiceCreate} {invoiceId : Uuid}
    {lineItemId : Uuid → Uuid} (h : handle db (.createInvoice data invoiceId lineItemId) = .ok db') :
    ∃ invoice, createInvoice db data invoiceId lineItemId = .ok (invoice, db') := by
  simp only [handle] at h
  cases hcreated : createInvoice db data invoiceId lineItemId with
  | error e =>
    rw [hcreated] at h
    cases h
  | ok out =>
    rw [hcreated] at h
    obtain rfl := Except.ok.inj h
    exact ⟨out.1, rfl⟩

/-! Creating, updating and deleting time entries. -/

theorem createTimeEntry_ok {db db' : Db} {data : TimeEntryCreate} {userId entryId : Uuid}
    (h : createTimeEntry db data userId entryId = .ok db') : ∃ entry, entry.id = entryId ∧
      (∀ e ∈ db.timeEntries, e.id ≠ entryId) ∧
      db' = { db with timeEntries := db.timeEntries++[entry] } := by
  simp only [createTimeEntry, List.any_eq_true, decide_eq_true_eq] at h
  split_ifs at h with hany
  obtain rfl := Except.ok.inj h
  exact ⟨_, rfl, fun e he heq => hany ⟨e, he, heq⟩, rfl⟩

theorem getTimeEntry_concat {db db' : Db} {entry : TimeEntry}
    (hdb : db' = { db with timeEntries := db.timeEntries++[entry] }) {e : Uuid} {found : TimeEntry}
    (h : getTimeEntry db e = some found) : getTimeEntry db' e = some found := by
  have h' : Table.find TimeEntry.id e db.timeEntries = some found := h
  rw [hdb, getTimeEntry, Table.find_append, h']
  rfl

theorem BillingInv.createTimeEntry {db db' : Db} {data : TimeEntryCreate} {userId entryId : Uuid}
    (hinv : BillingInv db) (h : createTimeEntry db data userId entryId = .ok db') :
    BillingInv db' ∧ (NoDoubleBilling db → NoDoubleBilling db') := by
  obtain ⟨entry, hid, hfresh, hdb⟩ := createTimeEntry_ok h
  have hlines : db'.lineItems = db.lineItems := by rw [hdb]
  have hinvoices : ∀ i, getInvoice db' i = getInvoice db i := fun i => by rw [hdb]; rfl
  refine ⟨⟨?_, ?_⟩, fun hok => ⟨?_, ?_⟩⟩
  · rw [hdb, List.map_append, List.nodup_append]
    refine ⟨hinv.entries, List.nodup_singleton _, fun a ha b hb => ?_⟩
    obtain ⟨e, he, rfl⟩ := List.mem_map.mp ha
    rw [List.mem_singleton.mp hb, hid]
    exact hfresh e he
  · intro item hitem e he
    obtain ⟨found, hfound, hbilled⟩ := hinv.source item (hlines ▸ hitem) e he
    exact ⟨found, getTimeEntry_concat hdb hfound, hbilled⟩
  · intro e
    rw [timesBilled, hlines]
    exact hok.once e
  · intro item hitem
    rw [hlines] at hitem
    refine (lineOk_congr (fun e he => ?_) (hinvoices _)).mpr (hok.lines item hitem)
    obtain ⟨found, hfound, -⟩ := hinv.source item hitem e he
    rw [getTimeEntry_concat hdb hfound, hfound]

/-- Everything an update changes. -/
structure Updated (db : Db) (entryId : Uuid) (data : TimeEntryUpdate) (entry updated : TimeEntry)
    (db' : Db) : Prop where
  loaded : getTimeEntry db entryId = some entry
  changed : updateTimeEntry entry data = some updated
  tables : db' = { db with
    timeEntries := Table.alter TimeEntry.id entryId (fun _ => updated) db.timeEntries }

theorem updateExistingTimeEntry_ok {db db' : Db} {currentUser : CurrentUser} {entryId : Uuid}
    {data : TimeEntryUpdate} (h : updateExistingTimeEntry db currentUser entryId data = .ok db') :
    ∃ entry updated, mayEdit currentUser entry = true ∧ Updated db entryId data entry updated db' := by
  unfold updateExistingTimeEntry at h
  cases hentry : getTimeEntry db entryId with
  | none => simp [hentry] at h
  | some entry =>
    cases hmay : mayEdit currentUser entry with
    | false => simp [hentry, hmay] at h
    | true =>
      cases hupd : updateTimeEntry entry data with
      | none => simp [hentry, hmay, hupd] at h
      | some updated =>
        simp only [hentry, hmay, hupd, Bool.not_true, Bool.false_eq_true, if_false,
          Except.ok.injEq] at h
        exact ⟨entry, updated, hmay, hentry, hupd, h.symm⟩

/-- An update keeps the key, the matter and the invoice of the entry. -/
theorem updateTimeEntry_some {entry updated : TimeEntry} {data : TimeEntryUpdate}
    (h : updateTimeEntry entry data = some updated) : updated.id = entry.id ∧
      updated.matterId = entry.matterId ∧ updated.invoiceId = entry.invoiceId ∧
      setColumn data.billable entry.billable = some updated.billable := by
  unfold updateTimeEntry at h
  split at h
  · rename_i hbillable _
    obtain rfl := Option.some.inj h
    exact ⟨rfl, rfl, rfl, hbillable⟩
  · cases h

/-- The stored value is the old one, or the one the request sent. -/
theorem setColumn_eq_true {sent : Option (Option Bool)} {old new : Bool}
    (h : setColumn sent old = some new) (hold : old = true) (hsent : sent ≠ some (some false)) :
    new = true := by
  cases new with
  | true => rfl
  | false =>
    cases sent with
    | none =>
      have hsame : old = false := Option.some.inj h
      rw [hold] at hsame
      cases hsame
    | some value =>
      have hvalue : value = some false := h
      exact absurd (congrArg some hvalue) hsent

namespace Updated

variable {db db' : Db} {entryId : Uuid} {data : TimeEntryUpdate} {entry updated : TimeEntry}

theorem key (h : Updated db entryId data entry updated db') (x : TimeEntry) :
    x.id = entryId → updated.id = entryId := fun _ =>
  (updateTimeEntry_some h.changed).1.trans (Table.key_of_find h.loaded)

theorem getTimeEntry_self (h : Updated db entryId data entry updated db') :
    getTimeEntry db' entryId = some updated := by
  have hfind : Table.find TimeEntry.id entryId db.timeEntries = some entry := h.loaded
  rw [h.tables, getTimeEntry, Table.find_alter_self h.key, hfind]
  rfl

theorem getTimeEntry_of_ne (h : Updated db entryId data entry updated db') {e : Uuid}
    (he : e ≠ entryId) : getTimeEntry db' e = getTimeEntry db e := by
  rw [h.tables, getTimeEntry, Table.find_alter_of_ne h.key he]
  rfl

theorem lineItems (h : Updated db entryId data entry updated db') : db'.lineItems = db.lineItems := by
  rw [h.tables]

theorem getInvoice_eq (h : Updated db entryId data entry updated db') (i : Uuid) :
    getInvoice db' i = getInvoice db i := by
  rw [h.tables]
  rfl

theorem billingInv (h : Updated db entryId data entry updated db') (hinv : BillingInv db) :
    BillingInv db' := by
  refine ⟨?_, fun item hitem e he => ?_⟩
  · rw [h.tables, Table.map_key_alter h.key]
    exact hinv.entries
  · obtain ⟨found, hfound, hbilled⟩ := hinv.source item (h.lineItems ▸ hitem) e he
    by_cases heq : e = entryId
    · subst heq
      obtain rfl := Option.some.inj (hfound.symm.trans h.loaded)
      obtain ⟨-, -, hinvoiceId, -⟩ := updateTimeEntry_some h.changed
      exact ⟨updated, h.getTimeEntry_self, hinvoiceId ▸ hbilled⟩
    · exact ⟨found, (h.getTimeEntry_of_ne heq).trans hfound, hbilled⟩

/-- A billed entry that lost `billable` would break the line that bills it. -/
theorem not_cleared (h : Updated db entryId data entry updated db') (hok' : NoDoubleBilling db')
    (hbilled : timesBilled db entryId ≠ 0) : data.billable ≠ some (some false) := by
  intro hfalse
  obtain ⟨item, hitem, he⟩ := timesBilled_ne_zero_iff.mp hbilled
  obtain ⟨found, hfound, htrue, -⟩ := hok'.lines item (h.lineItems ▸ hitem) entryId he
  obtain rfl := Option.some.inj (h.getTimeEntry_self.symm.trans hfound)
  obtain ⟨-, -, -, hbillable⟩ := updateTimeEntry_some h.changed
  rw [hfalse] at hbillable
  rw [← Option.some.inj hbillable] at htrue
  cases htrue

theorem noDoubleBilling (h : Updated db entryId data entry updated db') (hok : NoDoubleBilling db)
    (hkept : timesBilled db entryId ≠ 0 → data.billable ≠ some (some false)) :
    NoDoubleBilling db' := by
  refine ⟨fun e => ?_, fun item hitem e he => ?_⟩
  · rw [timesBilled, h.lineItems]
    exact hok.once e
  · rw [h.lineItems] at hitem
    obtain ⟨found, hfound, htrue, invoice, hinvoice, hm⟩ := hok.lines item hitem e he
    have hinvoice' : getInvoice db' item.invoiceId = some invoice :=
      (h.getInvoice_eq item.invoiceId).trans hinvoice
    by_cases heq : e = entryId
    · subst heq
      obtain rfl := Option.some.inj (hfound.symm.trans h.loaded)
      obtain ⟨-, hmatter, -, hbillable⟩ := updateTimeEntry_some h.changed
      have hstill : updated.billable = true :=
        setColumn_eq_true hbillable htrue (hkept (timesBilled_ne_zero_iff.mpr ⟨item, hitem, he⟩))
      exact ⟨updated, h.getTimeEntry_self, hstill, invoice, hinvoice', hm.trans hmatter.symm⟩
    · exact ⟨found, (h.getTimeEntry_of_ne heq).trans hfound, htrue, invoice, hinvoice', hm⟩

end Updated

theorem BillingInv.updateTimeEntry {db db' : Db} {currentUser : CurrentUser} {entryId : Uuid}
    {data : TimeEntryUpdate} (hinv : BillingInv db)
    (h : updateExistingTimeEntry db currentUser entryId data = .ok db') :
    BillingInv db' ∧ (NoDoubleBilling db →
      (NoDoubleBilling db' ↔ BillsFresh db (.updateTimeEntry currentUser entryId data))) := by
  obtain ⟨entry, updated, hmay, hupd⟩ := updateExistingTimeEntry_ok h
  refine ⟨hupd.billingInv hinv, fun hok => ⟨?_, ?_⟩⟩
  · intro hok' _ _ _ _ hbilled
    exact hupd.not_cleared hok' hbilled
  · intro hfresh
    apply hupd.noDoubleBilling hok
    intro hbilled
    exact hfresh entry hupd.loaded hmay (by rw [hupd.changed]; rfl) hbilled

theorem deleteExistingTimeEntry_ok {db db' : Db} {currentUser : CurrentUser} {entryId : Uuid}
    (h : deleteExistingTimeEntry db currentUser entryId = .ok db') :
    timesBilled db entryId = 0 ∧
      db' = { db with timeEntries := Table.remove TimeEntry.id entryId db.timeEntries } := by
  unfold deleteExistingTimeEntry at h
  cases hentry : getTimeEntry db entryId with
  | none => simp [hentry] at h
  | some entry =>
    simp only [hentry, List.any_eq_true, decide_eq_true_eq] at h
    split_ifs at h with h1 h2 h3
    refine ⟨?_, (Except.ok.inj h).symm⟩
    by_contra hbilled
    exact h3 (timesBilled_ne_zero_iff.mp hbilled)

/-- The entry that goes has no line. -/
theorem getTimeEntry_of_deleted {db db' : Db} {currentUser : CurrentUser} {entryId : Uuid}
    (h : deleteExistingTimeEntry db currentUser entryId = .ok db') {item : InvoiceLineItem}
    (hitem : item ∈ db.lineItems) {e : Uuid} (he : item.timeEntryId = some e) :
    getTimeEntry db' e = getTimeEntry db e := by
  obtain ⟨hbilled, hdb⟩ := deleteExistingTimeEntry_ok h
  have hne : e ≠ entryId := by
    rintro rfl
    exact timesBilled_ne_zero_iff.mpr ⟨item, hitem, he⟩ hbilled
  rw [hdb, getTimeEntry, Table.find_remove_of_ne hne]
  rfl

theorem BillingInv.deleteTimeEntry {db db' : Db} {currentUser : CurrentUser} {entryId : Uuid}
    (hinv : BillingInv db) (h : deleteExistingTimeEntry db currentUser entryId = .ok db') :
    BillingInv db' ∧ (NoDoubleBilling db → NoDoubleBilling db') := by
  obtain ⟨-, hdb⟩ := deleteExistingTimeEntry_ok h
  have hlines : db'.lineItems = db.lineItems := by rw [hdb]
  have hinvoices : ∀ i, getInvoice db' i = getInvoice db i := fun i => by rw [hdb]; rfl
  have hkeep : ∀ item ∈ db.lineItems, ∀ e, item.timeEntryId = some e →
      getTimeEntry db' e = getTimeEntry db e := fun item hitem e he =>
    getTimeEntry_of_deleted h hitem he
  refine ⟨⟨?_, ?_⟩, fun hok => ⟨?_, ?_⟩⟩
  · rw [hdb]
    exact Table.nodup_remove hinv.entries
  · intro item hitem e he
    rw [hlines] at hitem
    rw [hkeep item hitem e he]
    exact hinv.source item hitem e he
  · intro e
    rw [timesBilled, hlines]
    exact hok.once e
  · intro item hitem
    rw [hlines] at hitem
    exact (lineOk_congr (hkeep item hitem) (hinvoices _)).mpr (hok.lines item hitem)

/-! Creating an invoice. -/

/-- What `create_invoice` does to an entry it bills. -/
def markInvoiced (ids : List Uuid) (invoiceId : Uuid) (e : TimeEntry) : TimeEntry :=
  if e.id ∈ ids then { e with invoiceId := some invoiceId } else e

theorem markInvoiced_id (ids : List Uuid) (invoiceId : Uuid) (e : TimeEntry) :
    (markInvoiced ids invoiceId e).id = e.id := by
  unfold markInvoiced
  split_ifs <;> rfl

theorem markInvoiced_columns (ids : List Uuid) (invoiceId : Uuid) (e : TimeEntry) :
    (markInvoiced ids invoiceId e).billable = e.billable ∧
      (markInvoiced ids invoiceId e).matterId = e.matterId := by
  unfold markInvoiced
  split_ifs <;> exact ⟨rfl, rfl⟩

theorem markInvoiced_isSome {ids : List Uuid} {invoiceId : Uuid} {e : TimeEntry}
    (h : e.id ∈ ids ∨ e.invoiceId.isSome = true) :
    (markInvoiced ids invoiceId e).invoiceId.isSome = true := by
  unfold markInvoiced
  split_ifs with hmem
  · rfl
  · exact h.resolve_left hmem

/-- Everything `create_invoice` changes. -/
structure Invoiced (db : Db) (data : InvoiceCreate) (invoiceId : Uuid)
    (lineItemId : Uuid → Uuid) (invoice : Invoice) (db' : Db) : Prop where
  fresh : ∀ i ∈ db.invoices, i.id ≠ invoiceId
  id : invoice.id = invoiceId
  matter : invoice.matterId = data.matterId
  invoices : db'.invoices = db.invoices++[invoice]
  lineItems : db'.lineItems = db.lineItems++(selectedEntries db data.timeEntryIds).map
    (fun e => lineItem invoiceId (lineItemId e.id) e)
  timeEntries : db'.timeEntries = db.timeEntries.map (markInvoiced data.timeEntryIds invoiceId)

theorem createInvoice_ok {db db' : Db} {data : InvoiceCreate} {invoiceId : Uuid}
    {lineItemId : Uuid → Uuid} {invoice : Invoice}
    (h : createInvoice db data invoiceId lineItemId = .ok (invoice, db')) :
    Invoiced db data invoiceId lineItemId invoice db' := by
  simp only [createInvoice, List.any_eq_true, decide_eq_true_eq] at h
  split_ifs at h with hany
  obtain ⟨rfl, rfl⟩ := Prod.mk.inj (Except.ok.inj h)
  exact ⟨fun i hi heq => hany ⟨i, hi, heq⟩, rfl, rfl, rfl, rfl, rfl⟩

theorem getTimeEntry_of_selected {db : Db} (hinv : BillingInv db) {ids : List Uuid}
    {entry : TimeEntry} (h : entry ∈ selectedEntries db ids) :
    getTimeEntry db entry.id = some entry ∧ entry.id ∈ ids := by
  obtain ⟨hmem, hid⟩ := List.mem_filter.mp h
  exact ⟨(Table.find_eq_some_iff hinv.entries).mpr ⟨hmem, rfl⟩, of_decide_eq_true hid⟩

theorem nodup_selected {db : Db} (hinv : BillingInv db) (ids : List Uuid) :
    ((selectedEntries db ids).map TimeEntry.id).Nodup :=
  hinv.entries.sublist (List.filter_sublist.map _)

namespace Invoiced

variable {db db' : Db} {data : InvoiceCreate} {invoiceId : Uuid} {lineItemId : Uuid → Uuid}
  {invoice : Invoice}

theorem getTimeEntry_eq (h : Invoiced db data invoiceId lineItemId invoice db') (e : Uuid) :
    getTimeEntry db' e = (getTimeEntry db e).map (markInvoiced data.timeEntryIds invoiceId) := by
  rw [getTimeEntry, h.timeEntries, Table.find_map (markInvoiced_id _ _)]
  rfl

theorem getInvoice_old (h : Invoiced db data invoiceId lineItemId invoice db') {i : Uuid}
    {old : Invoice} (hold : getInvoice db i = some old) : getInvoice db' i = some old := by
  have hfind : Table.find Invoice.id i db.invoices = some old := hold
  rw [getInvoice, h.invoices, Table.find_append, hfind]
  rfl

theorem getInvoice_new (h : Invoiced db data invoiceId lineItemId invoice db') :
    getInvoice db' invoiceId = some invoice := by
  have hnone : Table.find Invoice.id invoiceId db.invoices = none :=
    Table.find_eq_none_iff.mpr h.fresh
  rw [getInvoice, h.invoices, Table.find_append, hnone]
  simp [Table.find, h.id]

theorem timesBilled_eq (h : Invoiced db data invoiceId lineItemId invoice db') (e : Uuid) :
    timesBilled db' e = timesBilled db e+
      ((selectedEntries db data.timeEntryIds).map TimeEntry.id).count e := by
  have hsource : ((selectedEntries db data.timeEntryIds).map
      (fun x => lineItem invoiceId (lineItemId x.id) x)).map InvoiceLineItem.timeEntryId =
      ((selectedEntries db data.timeEntryIds).map TimeEntry.id).map some := by
    simp only [List.map_map]
    rfl
  rw [timesBilled, h.lineItems, List.map_append, List.count_append, hsource,
    List.count_map_of_injective _ _ (Option.some_injective _)]
  rfl

/-- A line is an old one or bills one of the selected entries. -/
theorem mem_lineItems (h : Invoiced db data invoiceId lineItemId invoice db')
    {item : InvoiceLineItem} : item ∈ db'.lineItems ↔ item ∈ db.lineItems ∨
      ∃ entry ∈ selectedEntries db data.timeEntryIds,
        lineItem invoiceId (lineItemId entry.id) entry = item := by
  rw [h.lineItems, List.mem_append, List.mem_map]

theorem getTimeEntry_marked (h : Invoiced db data invoiceId lineItemId invoice db') {e : Uuid}
    {entry : TimeEntry} (hentry : getTimeEntry db e = some entry) :
    getTimeEntry db' e = some (markInvoiced data.timeEntryIds invoiceId entry) := by
  rw [h.getTimeEntry_eq, hentry]
  rfl

theorem billingInv (h : Invoiced db data invoiceId lineItemId invoice db') (hinv : BillingInv db) :
    BillingInv db' := by
  refine ⟨?_, fun item hitem e he => ?_⟩
  · have hids : TimeEntry.id ∘ markInvoiced data.timeEntryIds invoiceId = TimeEntry.id :=
      funext (markInvoiced_id _ _)
    rw [h.timeEntries, List.map_map, hids]
    exact hinv.entries
  · rcases h.mem_lineItems.mp hitem with hitem | ⟨entry, hentry, rfl⟩
    · obtain ⟨found, hfound, hbilled⟩ := hinv.source item hitem e he
      exact ⟨_, h.getTimeEntry_marked hfound, markInvoiced_isSome (Or.inr hbilled)⟩
    · obtain rfl := Option.some.inj he
      obtain ⟨hfound, hid⟩ := getTimeEntry_of_selected hinv hentry
      exact ⟨_, h.getTimeEntry_marked hfound, markInvoiced_isSome (Or.inl hid)⟩

/-- When the invoice is right, each entry it selected could be billed before. -/
theorem billsFresh (h : Invoiced db data invoiceId lineItemId invoice db') (hinv : BillingInv db)
    (hok' : NoDoubleBilling db') : BillsFresh db (.createInvoice data invoiceId lineItemId) := by
  intro _ entry hentry
  obtain ⟨hfound, hid⟩ := getTimeEntry_of_selected hinv hentry
  obtain ⟨marked, hmarked, hbillable, inv, hinv', hmatter⟩ :=
    hok'.lines _ (h.mem_lineItems.mpr (Or.inr ⟨entry, hentry, rfl⟩)) entry.id rfl
  obtain rfl := Option.some.inj ((h.getTimeEntry_marked hfound).symm.trans hmarked)
  obtain rfl := Option.some.inj (h.getInvoice_new.symm.trans hinv')
  obtain ⟨hb, hm⟩ := markInvoiced_columns data.timeEntryIds invoiceId entry
  refine ⟨hb.symm.trans hbillable, ?_, ?_⟩
  · rw [← hm, ← hmatter, h.matter]
  · -- the new line counts once already
    have honce := hok'.once entry.id
    have hcount : 0 < ((selectedEntries db data.timeEntryIds).map TimeEntry.id).count entry.id :=
      List.count_pos_iff.mpr (List.mem_map_of_mem hentry)
    rw [h.timesBilled_eq] at honce
    omega

theorem noDoubleBilling (h : Invoiced db data invoiceId lineItemId invoice db')
    (hinv : BillingInv db) (hok : NoDoubleBilling db)
    (hfresh : BillsFresh db (.createInvoice data invoiceId lineItemId)) : NoDoubleBilling db' := by
  -- old lines find their entries again; new lines are covered by the condition
  have hbills := hfresh h.fresh
  refine ⟨fun e => ?_, fun item hitem e he => ?_⟩
  · rw [h.timesBilled_eq]
    -- a repeated id in the request still selects its entry once
    have hcount := List.nodup_iff_count_le_one.mp (nodup_selected hinv data.timeEntryIds) e
    by_cases hmem : e ∈ (selectedEntries db data.timeEntryIds).map TimeEntry.id
    · obtain ⟨entry, hentry, rfl⟩ := List.mem_map.mp hmem
      rw [(hbills entry hentry).2.2]
      omega
    · rw [List.count_eq_zero_of_not_mem hmem]
      exact hok.once e
  · rcases h.mem_lineItems.mp hitem with hitem | ⟨entry, hentry, rfl⟩
    · obtain ⟨found, hfound, hbillable, inv, hinv', hmatter⟩ := hok.lines item hitem e he
      obtain ⟨hb, hm⟩ := markInvoiced_columns data.timeEntryIds invoiceId found
      exact ⟨_, h.getTimeEntry_marked hfound, hb.trans hbillable, inv,
        h.getInvoice_old hinv', hmatter.trans hm.symm⟩
    · obtain rfl := Option.some.inj he
      obtain ⟨hfound, -⟩ := getTimeEntry_of_selected hinv hentry
      obtain ⟨hbillable, hmatter, -⟩ := hbills entry hentry
      obtain ⟨hb, hm⟩ := markInvoiced_columns data.timeEntryIds invoiceId entry
      exact ⟨_, h.getTimeEntry_marked hfound, hb.trans hbillable, invoice,
        h.getInvoice_new, h.matter.trans (hmatter.symm.trans hm.symm)⟩

end Invoiced

theorem BillingInv.createInvoice {db db' : Db} {data : InvoiceCreate} {invoiceId : Uuid}
    {lineItemId : Uuid → Uuid} {invoice : Invoice} (hinv : BillingInv db)
    (h : createInvoice db data invoiceId lineItemId = .ok (invoice, db')) :
    BillingInv db' ∧ (NoDoubleBilling db →
      (NoDoubleBilling db' ↔ BillsFresh db (.createInvoice data invoiceId lineItemId))) := by
  have hstep := createInvoice_ok h
  exact ⟨hstep.billingInv hinv,
    fun hok => ⟨hstep.billsFresh hinv, hstep.noDoubleBilling hinv hok⟩⟩

/-! Runs of requests. -/

theorem billingStep_spec {db : Db} (r : BillingRequest) (hinv : BillingInv db) :
    BillingInv (billingStep db r) ∧ (NoDoubleBilling db →
      (NoDoubleBilling (billingStep db r) ↔ BillsFresh db r)) := by
  cases r with
  | createTimeEntry data userId entryId =>
    cases h : createTimeEntry db data userId entryId with
    | error e =>
      simp only [billingStep, handle, h]
      exact ⟨hinv, fun hok => iff_of_true hok trivial⟩
    | ok db' =>
      simp only [billingStep, handle, h]
      obtain ⟨hinv', hok'⟩ := hinv.createTimeEntry h
      exact ⟨hinv', fun hok => iff_of_true (hok' hok) trivial⟩
  | updateTimeEntry currentUser entryId data =>
    cases h : updateExistingTimeEntry db currentUser entryId data with
    | error e =>
      simp only [billingStep, handle, h]
      refine ⟨hinv, fun hok => iff_of_true hok ?_⟩
      -- an update that is allowed and fits is not refused
      intro entry hentry hmay hsome
      obtain ⟨updated, hupd⟩ := Option.isSome_iff_exists.mp hsome
      simp [updateExistingTimeEntry, hentry, hmay, hupd] at h
    | ok db' =>
      simp only [billingStep, handle, h]
      exact hinv.updateTimeEntry h
  | deleteTimeEntry currentUser entryId =>
    cases h : deleteExistingTimeEntry db currentUser entryId with
    | error e =>
      simp only [billingStep, handle, h]
      exact ⟨hinv, fun hok => iff_of_true hok trivial⟩
    | ok db' =>
      simp only [billingStep, handle, h]
      obtain ⟨hinv', hok'⟩ := hinv.deleteTimeEntry h
      exact ⟨hinv', fun hok => iff_of_true (hok' hok) trivial⟩
  | createInvoice data invoiceId lineItemId =>
    cases h : createInvoice db data invoiceId lineItemId with
    | error e =>
      simp only [billingStep, handle, h, Except.map]
      refine ⟨hinv, fun hok => iff_of_true hok ?_⟩
      -- with a new key the request is not refused
      intro hfresh
      have hany : db.invoices.any (fun i => i.id = invoiceId) = false := by
        simpa using hfresh
      simp [createInvoice, hany] at h
    | ok out =>
      simp only [billingStep, handle, h, Except.map]
      exact hinv.createInvoice h

theorem billingInv_empty : BillingInv Db.empty :=
  ⟨List.nodup_nil, fun _ h => absurd h List.not_mem_nil⟩

theorem noDoubleBilling_empty : NoDoubleBilling Db.empty :=
  ⟨fun _ => Nat.zero_le 1, fun _ h => absurd h List.not_mem_nil⟩

/-- From empty tables on, no entry is billed twice and every line bills a billable
entry of its matter, exactly as long as every request meets `BillsFresh`. -/
theorem noDoubleBilling_throughout_iff (rs : List BillingRequest) :
    Throughout (total billingStep) NoDoubleBilling Db.empty rs ↔
      Along (total billingStep) (fun db r _ => BillsFresh db r) Db.empty rs := by
  have hkeep : ∀ db r db', BillingInv db → total billingStep db r = some db' → BillingInv db' :=
    fun db r db' hinv hstep => Option.some.inj hstep ▸ (billingStep_spec r hinv).1
  have hiff := throughout_iff_along (P := NoDoubleBilling) (C := BillsFresh) hkeep
    (fun db r db' hinv hok hstep => Option.some.inj hstep ▸ (billingStep_spec r hinv).2 hok)
    billingInv_empty rs
  rw [hiff]
  exact and_iff_right noDoubleBilling_empty

/-- One hour, created once and billed by two invoices. -/
def billedTwice : List BillingRequest :=
  [.createTimeEntry ⟨5, 0, 60, "call", true, 30000, by decide, by decide, by decide⟩ 2 7,
   .createInvoice { clientId := 4, matterId := 5, timeEntryIds := [7] } 11 (fun _ => 21),
   .createInvoice { clientId := 4, matterId := 5, timeEntryIds := [7] } 12 (fun _ => 22)]

theorem not_noDoubleBilling_billedTwice :
    ¬Throughout (total billingStep) NoDoubleBilling Db.empty billedTwice := by
  intro h
  have hrun : exec (total billingStep) Db.empty billedTwice =
      some (billedTwice.foldl billingStep Db.empty) := exec_total _ _ _
  have honce := (h.final hrun).once 7
  have htwice : timesBilled (billedTwice.foldl billingStep Db.empty) 7 = 2 := by rfl
  omega

end LegalForge.Billing
