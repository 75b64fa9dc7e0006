import LegalForge.BillingModels
import LegalForge.DoubleArithmetic

/-! Time entries, invoices and payments: the service functions behind the
billing routes. A request that fails leaves the tables as they were. -/
namespace LegalForge.Billing

structure TimeEntryCreate where
  matterId : Uuid
  date : Date
  durationMinutes : ℤ
  description : String
  billable : Bool := true
  rateCents : ℤ
  duration_ge : 1 ≤ durationMinutes
  description_min : 1 ≤ description.length
  rate_ge : 0 ≤ rateCents

/-- The fields that were sent; `some none` is an explicit null. The class body
binds `date` to `None` before it reads the annotation `Optional[date]`, so that
null is all the schema admits for `date`. -/
structure TimeEntryUpdate where
  date : Option Unit := none
  durationMinutes : Option (Option ℤ) := none
  description : Option (Option String) := none
  billable : Option (Option Bool) := none
  rateCents : Option (Option ℤ) := none
  duration_ge : ∀ v, durationMinutes = some (some v) → 1 ≤ v
  description_min : ∀ v, description = some (some v) → 1 ≤ v.length
  rate_ge : ∀ v, rateCents = some (some v) → 0 ≤ v

structure InvoiceCreate where
  clientId : Uuid
  matterId : Uuid
  issuedDate : Option Date := none
  dueDate : Option Date := none
  notes : Option String := none
  timeEntryIds : List Uuid := []

structure PaymentCreate where
  invoiceId : Uuid
  amountCents : ℤ
  paymentDate : Date
  method : PaymentMethod
  referenceNumber : Option String := none
  notes : Option String := none
  amount_ge : 1 ≤ amountCents

/-- What the routes read of the signed-in user. -/
structure CurrentUser where
  id : Uuid
  isAdmin : Bool

def getTimeEntry (db : Db) (entryId : Uuid) : Option TimeEntry :=
  Table.find TimeEntry.id entryId db.timeEntries

def createTimeEntry (db : Db) (data : TimeEntryCreate) (userId entryId : Uuid) :
    Except HttpError Db :=
  if db.timeEntries.any (fun e => e.id = entryId) then .error .internal
  else
    let entry : TimeEntry :=
      { id := entryId
        matterId := data.matterId
        userId := userId
        date := data.date
        durationMinutes := data.durationMinutes
        description := data.description
        billable := data.billable
        rateCents := data.rateCents
        invoiceId := none }
    .ok { db with timeEntries := db.timeEntries++[entry] }

/-- The value of a NOT NULL column after `setattr`. -/
def setColumn {α : Type*} (sent : Option (Option α)) (old : α) : Option α :=
  sent.getD (some old)

/-- `update_time_entry`. A null in any column violates its NOT NULL constraint. -/
def updateTimeEntry (entry : TimeEntry) (data : TimeEntryUpdate) : Option TimeEntry :=
  match data.date, setColumn data.durationMinutes entry.durationMinutes,
    setColumn data.description entry.description, setColumn data.billable entry.billable,
    setColumn data.rateCents entry.rateCents with
  | none, some durationMinutes, some description, some billable, some rateCents =>
    some { entry with
      durationMinutes := durationMinutes
      description := description
      billable := billable
      rateCents := rateCents }
  | _, _, _, _, _ => none

/-- Others than administrators may touch their own entries only. -/
def mayEdit (currentUser : CurrentUser) (entry : TimeEntry) : Bool :=
  currentUser.isAdmin || entry.userId = currentUser.id

def updateExistingTimeEntry (db : Db) (currentUser : CurrentUser) (entryId : Uuid)
    (data : TimeEntryUpdate) : Except HttpError Db :=
  match getTimeEntry db entryId with
  | none => .error ⟨404, "Time entry not found"⟩
  | some entry =>
    if !mayEdit currentUser entry then .error ⟨403, "Can only edit your own time entries"⟩
    else
      match updateTimeEntry entry data with
      | none => .error .internal
      | some updated =>
        .ok { db with
          timeEntries := Table.alter TimeEntry.id entryId (fun _ => updated) db.timeEntries }

/-- The foreign key of the line items backs the check of `invoice_id`. -/
def deleteExistingTimeEntry (db : Db) (currentUser : CurrentUser) (entryId : Uuid) :
    Except HttpError Db :=
  match getTimeEntry db entryId with
  | none => .error ⟨404, "Time entry not found"⟩
  | some entry =>
    if !mayEdit currentUser entry then .error ⟨403, "Can only delete your own time entries"⟩
    else if entry.invoiceId.isSome then .error ⟨409, "Cannot delete invoiced time entry"⟩
    else if db.lineItems.any (fun item => item.timeEntryId = some entryId) then .error .internal
    else .ok { db with timeEntries := Table.remove TimeEntry.id entryId db.timeEntries }

/-- `int(hours * entry.rate_cents)` with `hours = entry.duration_minutes / 60`. -/
def lineAmount (entry : TimeEntry) : ℤ :=
  Double.trunc (Double.mul (Double.div entry.durationMinutes 60) entry.rateCents)

def lineItem (invoiceId lineItemId : Uuid) (entry : TimeEntry) : InvoiceLineItem where
  id := lineItemId
  invoiceId := invoiceId
  timeEntryId := some entry.id
  description := entry.description
  quantity := entry.durationMinutes
  rateCents := entry.rateCents
  amountCents := lineAmount entry

/-- `coalesce(max(invoice_number), 1000)` -/
def maxInvoiceNumber (invoices : List Invoice) : ℤ :=
  ((invoices.filterMap (fun i => i.invoiceNumber)).max?).getD 1000

/-- The rows `TimeEntry.id.in_(ids)` selects. A repeated id selects its row once. -/
def selectedEntries (db : Db) (ids : List Uuid) : List TimeEntry :=
  db.timeEntries.filter (fun e => e.id ∈ ids)

/-- `create_invoice`. The new line item of an entry gets the key `lineItemId` gives it. -/
def createInvoice (db : Db) (data : InvoiceCreate) (invoiceId : Uuid) (lineItemId : Uuid → Uuid) :
    Except HttpError (Invoice × Db) :=
  if db.invoices.any (fun i => i.id = invoiceId) then .error .internal
  else
    -- the loop looks at neither the matter, nor `billable`, nor `invoice_id`
    let entries := selectedEntries db data.timeEntryIds
    let subtotal := (entries.map lineAmount).sum
    let taxCents : ℤ := 0
    let invoice : Invoice :=
      { id := invoiceId
        invoiceNumber := some (maxInvoiceNumber db.invoices+1)
        clientId := data.clientId
        matterId := data.matterId
        issuedDate := data.issuedDate
        dueDate := data.dueDate
        subtotalCents := subtotal
        taxCents := taxCents
        totalCents := subtotal+taxCents
        notes := data.notes }
    .ok (invoice, { db with
      invoices := db.invoices++[invoice]
      lineItems := db.lineItems++entries.map (fun e => lineItem invoiceId (lineItemId e.id) e)
      timeEntries := db.timeEntries.map
        (fun e => if e.id ∈ data.timeEntryIds then { e with invoiceId := some invoiceId } else e) })

/-- The row `create_payment` adds. -/
def payment (data : PaymentCreate) (paymentId : Uuid) : Payment where
  id := paymentId
  invoiceId := data.invoiceId
  amountCents := data.amountCents
  paymentDate := data.paymentDate
  method := data.method
  referenceNumber := data.referenceNumber
  notes := data.notes
  settles := none

/-- The comparison both payment paths make. The query flushes the pending row
first, so `payments` holds it already, and its amount is added again. -/
def coversInvoice (payments : List Payment) (amountCents : ℤ) (invoice : Invoice) : Bool :=
  paidSum payments invoice.id+amountCents ≥ invoice.totalCents

/-- The rows after a payment was added and its invoice compared with the sum. -/
def recordPayment (db : Db) (p : Payment) (invoice : Invoice) : Db :=
  let flushed := { db with payments := db.payments++[p] }
  if coversInvoice flushed.payments p.amountCents invoice then
    flushed.setInvoiceStatus invoice.id .paid
  else flushed

/-- `create_payment`. The first query flushes the row, which fails on its foreign
key when there is no such invoice. -/
def createPayment (db : Db) (data : PaymentCreate) (paymentId : Uuid) :
    Except HttpError (Payment × Db) :=
  match getInvoice db data.invoiceId with
  | none => .error .internal
  | some invoice => .ok (payment data paymentId, recordPayment db (payment data paymentId) invoice)

end LegalForge.Billing
