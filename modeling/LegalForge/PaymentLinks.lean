import LegalForge.Billing

/-! Payment links: `mark_payment_link_paid` and the checks the other entry
points share with it. -/
namespace LegalForge.Payments
open Billing

structure CompletePaymentRequest where
  payerEmail : Option String := none
  payerName : Option String := none
  processorReference : Option String := none
  paidAmountCents : Option ℤ := none

inductive PaymentError where
  | linkNotFound
  | linkNotActive (status : PaymentLinkStatus)
  | linkExpired
  /-- The payment names an invoice that does not exist. -/
  | foreignKey
  deriving DecidableEq

def PaymentError.message : PaymentError → String
  | .linkNotFound => "Payment link not found"
  | .linkNotActive status => "Payment link is not active (status: "++status.value++")"
  | .linkExpired => "Payment link has expired"
  | .foreignKey => "Internal Server Error"

def getPaymentLink (db : Db) (linkId : Uuid) : Option PaymentLink :=
  Table.find PaymentLink.id linkId db.links

def getPaymentLinkByToken (db : Db) (accessToken : String) : Option PaymentLink :=
  Table.find PaymentLink.accessToken accessToken db.links

/-- The UPDATE of one link row. -/
def setLink (db : Db) (link : PaymentLink) : Db :=
  { db with links := Table.alter PaymentLink.id link.id (fun _ => link) db.links }

def isExpired (link : PaymentLink) (now : Datetime) : Bool :=
  match link.expiresAt with
  | none => false
  | some expires => expires < now

/-- `amount or default` for an optional amount: zero counts as missing. -/
def orAmount (amount : Option ℤ) (default : ℤ) : ℤ :=
  match amount with
  | none => default
  | some a => if a = 0 then default else a

def paidLink (link : PaymentLink) (data : CompletePaymentRequest) (now : Datetime) : PaymentLink :=
  { link with
    status := .paid
    paidAt := some now
    paidAmountCents := some (orAmount data.paidAmountCents (link.amountCents+link.surchargeCents))
    payerEmail := data.payerEmail
    payerName := data.payerName
    processorReference := data.processorReference }

def expiredLink (link : PaymentLink) : PaymentLink :=
  { link with status := .expired }

def cancelledLink (link : PaymentLink) : PaymentLink :=
  { link with status := .cancelled }

def methodMap : PaymentProcessor → PaymentMethod
  | .stripe => .creditCard
  | .lawpay => .creditCard
  | .manual => .other

/-- `reference or f"PL-{token[:8]}"` -/
def referenceOr (reference : Option String) (accessToken : String) : String :=
  match reference with
  | none => "PL-"++String.ofList (accessToken.toList.take 8)
  | some r => if r = "" then "PL-"++String.ofList (accessToken.toList.take 8) else r

/-- The row `mark_payment_link_paid` adds to the payments of the invoice. -/
def linkPayment (link : PaymentLink) (data : CompletePaymentRequest) (today : Date)
    (paymentId : Uuid) (delivery : Option (PaymentProcessor × Option String)) : Payment where
  id := paymentId
  invoiceId := link.invoiceId
  amountCents := link.amountCents
  paymentDate := today
  method := methodMap link.processor
  referenceNumber := some (referenceOr data.processorReference link.accessToken)
  notes := some ("Online payment via "++link.processor.value)
  settles := some ⟨link.id, delivery⟩

/-- `mark_payment_link_paid` with nothing running beside it: its result, and the
tables as its session sees them then. It raises after it has flushed the
expired status; whether that is kept is up to the caller. -/
def markPaymentLinkPaid (db : Db) (accessToken : String) (data : CompletePaymentRequest)
    (now : Datetime) (today : Date) (paymentId : Uuid)
    (delivery : Option (PaymentProcessor × Option String)) : Except PaymentError PaymentLink × Db :=
  match getPaymentLinkByToken db accessToken with
  | none => (.error .linkNotFound, db)
  | some link =>
    if link.status ≠ .active then (.error (.linkNotActive link.status), db)
    -- the expired status is flushed before the exception is raised
    else if isExpired link now then (.error .linkExpired, setLink db (expiredLink link))
    else
      match getInvoice db link.invoiceId with
      | none => (.error .foreignKey, db)
      | some invoice =>
        (.ok (paidLink link data now),
          recordPayment (setLink db (paidLink link data now))
            (linkPayment link data today paymentId delivery) invoice)

end LegalForge.Payments
