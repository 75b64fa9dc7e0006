import LegalForge.BaseModels
import LegalForge.Json
import LegalForge.KeyedTable

/-! The tables of billing and of online payments. -/
namespace LegalForge.Billing

inductive InvoiceStatus where
  | draft
  | sent
  | paid
  | overdue
  | void
  deriving DecidableEq

inductive PaymentMethod where
  | check
  | ach
  | creditCard
  | cash
  | other
  deriving DecidableEq

structure TimeEntry where
  id : Uuid
  matterId : Uuid
  userId : Uuid
  date : Date
  durationMinutes : ℤ
  description : String
  billable : Bool
  rateCents : ℤ
  invoiceId : Option Uuid
  deriving DecidableEq

structure Invoice where
  id : Uuid
  invoiceNumber : Option ℤ
  clientId : Uuid
  matterId : Uuid
  issuedDate : Option Date
  dueDate : Option Date
  subtotalCents : ℤ := 0
  taxCents : ℤ := 0
  totalCents : ℤ := 0
  status : InvoiceStatus := .draft
  notes : Option String
  deriving DecidableEq

structure InvoiceLineItem where
  id : Uuid
  invoiceId : Uuid
  timeEntryId : Option Uuid
  description : String
  quantity : ℤ
  rateCents : ℤ
  amountCents : ℤ
  deriving DecidableEq

inductive PaymentProcessor where
  | stripe
  | lawpay
  | manual
  deriving DecidableEq

def PaymentProcessor.value : PaymentProcessor → String
  | .stripe => "stripe"
  | .lawpay => "lawpay"
  | .manual => "manual"

inductive PaymentLinkStatus where
  | active
  | paid
  | expired
  | cancelled
  deriving DecidableEq

def PaymentLinkStatus.value : PaymentLinkStatus → String
  | .active => "active"
  | .paid => "paid"
  | .expired => "expired"
  | .cancelled => "cancelled"

/-- The payment link a payment settles, and the webhook delivery that did it. -/
structure Settlement where
  link : Uuid
  delivery : Option (PaymentProcessor × Option String)
  deriving DecidableEq

structure Payment where
  id : Uuid
  invoiceId : Uuid
  amountCents : ℤ
  paymentDate : Date
  method : PaymentMethod
  referenceNumber : Option String
  notes : Option String
  /-- Not a column: it records where the row comes from. -/
  settles : Option Settlement
  deriving DecidableEq

structure PaymentLink where
  id : Uuid
  invoiceId : Uuid
  clientId : Uuid
  matterId : Option Uuid
  createdBy : Uuid
  amountCents : ℤ
  description : Option String
  status : PaymentLinkStatus := .active
  accessToken : String
  processor : PaymentProcessor
  processorSessionId : Option String
  expiresAt : Option Datetime
  paidAt : Option Datetime
  paidAmountCents : Option ℤ
  surchargeCents : ℤ := 0
  processorFeeCents : ℤ := 0
  payerEmail : Option String
  payerName : Option String
  processorReference : Option String
  deriving DecidableEq

structure WebhookEvent where
  id : Uuid
  processor : PaymentProcessor
  eventType : String
  eventId : Option String
  payload : Option Json
  processed : Bool := false
  errorMessage : Option String

structure Db where
  timeEntries : List TimeEntry
  invoices : List Invoice
  lineItems : List InvoiceLineItem
  payments : List Payment
  links : List PaymentLink
  events : List WebhookEvent

def Db.empty : Db := ⟨[], [], [], [], [], []⟩

def getInvoice (db : Db) (invoiceId : Uuid) : Option Invoice :=
  Table.find Invoice.id invoiceId db.invoices

/-- `invoice.status = status` and its UPDATE. -/
def Db.setInvoiceStatus (db : Db) (invoiceId : Uuid) (status : InvoiceStatus) : Db :=
  { db with
    invoices := Table.alter Invoice.id invoiceId (fun i => { i with status := status }) db.invoices }

/-- `coalesce(sum(amount_cents), 0)` over the payments of one invoice. -/
def paidSum (payments : List Payment) (invoiceId : Uuid) : ℤ :=
  ((payments.filter (fun p => p.invoiceId = invoiceId)).map (fun p => p.amountCents)).sum

theorem paidSum_concat (payments : List Payment) (p : Payment) (invoiceId : Uuid) :
    paidSum (payments++[p]) invoiceId =
      paidSum payments invoiceId + if p.invoiceId = invoiceId then p.amountCents else 0 := by
  by_cases h : p.invoiceId = invoiceId <;> simp [paidSum, List.filter_append, h]

theorem getInvoice_setInvoiceStatus_self (db : Db) (i : Uuid) (status : InvoiceStatus) :
    getInvoice (db.setInvoiceStatus i status) i =
      (getInvoice db i).map (fun inv => { inv with status := status }) :=
  Table.find_alter_self (by intro inv h; exact h) db.invoices

theorem getInvoice_setInvoiceStatus_of_ne (db : Db) {i j : Uuid} (status : InvoiceStatus)
    (h : j ≠ i) : getInvoice (db.setInvoiceStatus i status) j = getInvoice db j :=
  Table.find_alter_of_ne (by intro inv h; exact h) h db.invoices

end LegalForge.Billing
