import LegalForge.PaymentLinks
import LegalForge.ReadCommitted

/-! Completion, webhook, cancellation and expiry requests as the statements that
concurrent sessions interleave. Each request reads its link once, without a
lock, and writes what follows from that reading later. -/
namespace LegalForge.Payments
open Billing Transition ReadCommitted

/-- What a session is going to commit. -/
structure Writes where
  event : Option WebhookEvent := none
  /-- The link as it was loaded, and as the session changed it. -/
  link : Option (PaymentLink × PaymentLink) := none
  payment : Option Payment := none
  /-- The invoice that gets the status paid. -/
  paidInvoice : Option Uuid := none

inductive Session where
  | idle
  /-- `process_webhook` found no duplicate and entered its `try` block. -/
  | accepted (event : WebhookEvent)
  /-- The link is read and decided on; nothing is flushed. -/
  | writing (w : Writes)
  /-- The link and the payment are flushed; the invoice is not looked at yet. -/
  | flushed (w : Writes)
  /-- Only COMMIT is left. -/
  | ready (w : Writes)
  | finished
  | raised

inductive RequestStatement where
  /-- `POST /pay/{access_token}/complete` -/
  | complete (accessToken : String) (data : CompletePaymentRequest) (now : Datetime) (today : Date)
      (paymentId : Uuid)
  /-- `POST /webhooks/{processor}`, up to the `try` block -/
  | webhook (processor : PaymentProcessor) (eventType : String) (eventId : Option String)
      (payload : Option Json) (eventRowId : Uuid)
  /-- `POST /links/{link_id}/cancel` -/
  | cancel (linkId : Uuid)
  /-- `GET /pay/{access_token}` -/
  | publicInfo (accessToken : String) (now : Datetime)
  /-- `_process_payment_webhook` finds its link. -/
  | lookup (now : Datetime) (today : Date) (paymentId : Uuid)
  /-- An exception inside the `try` block, raised by the driver or by the schema. -/
  | caught (message : String)
  | flush
  /-- The queries for the invoice and the sum of its payments. -/
  | settle

inductive LockRow where
  | link (id : Uuid)
  | invoice (id : Uuid)
  deriving DecidableEq

def paymentEvents : List String :=
  ["payment_intent.succeeded", "checkout.session.completed", "charge.succeeded",
   "transaction.completed"]

/-- `if event_id:` -/
def truthyText (text : Option String) : Bool :=
  match text with
  | none => false
  | some s => s ≠ ""

/-- The stored events the duplicate check finds. -/
def duplicates (db : Db) (processor : PaymentProcessor) (eventId : Option String) :
    List WebhookEvent :=
  if truthyText eventId then
    db.events.filter (fun e => e.eventId = eventId ∧ e.processor = processor)
  else []

/-- `payload.get("id") or payload.get("session_id")` -/
def sessionIdOf (payload : Json) : Json :=
  (payload.get "id").or (payload.get "session_id")

/-- The active links of a processor session. A value that is no string matches none. -/
def linksOfSession (db : Db) : Json → List PaymentLink
  | .str sessionId => db.links.filter
      (fun l => l.processorSessionId = some sessionId ∧ l.status = .active)
  | _ => []

/-- The request `_process_payment_webhook` builds, if the schema accepts its fields. -/
def completeData (payload : Json) : Option CompletePaymentRequest := do
  let processorReference ← (sessionIdOf payload).optStr
  let payerEmail ← (payload.get "customer_email").optStr
  let payerName ← (payload.get "customer_name").optStr
  some { processorReference := processorReference, payerEmail := payerEmail, payerName := payerName }

/-- The delivery an event row stands for. -/
def deliveryOf (event : WebhookEvent) : PaymentProcessor × Option String :=
  (event.processor, event.eventId)

/-- `mark_payment_link_paid` on a link that was active when it was loaded, called
from a webhook. The expired status is kept, because the exception is caught. -/
def webhookWrites (event : WebhookEvent) (link : PaymentLink) (data : CompletePaymentRequest)
    (now : Datetime) (today : Date) (paymentId : Uuid) : Writes :=
  if isExpired link now then
    { event := some { event with errorMessage := some PaymentError.linkExpired.message }
      link := some (link, expiredLink link) }
  else
    { event := some { event with processed := true }
      link := some (link, paidLink link data now)
      payment := some (linkPayment link data today paymentId (some (deliveryOf event))) }

def lookupLink (db : Db) (event : WebhookEvent) (now : Datetime) (today : Date) (paymentId : Uuid) :
    Option Session :=
  let payload := event.payload.getD .null
  if !(sessionIdOf payload).truthy then some (.ready { event := some { event with processed := true } })
  else
    match linksOfSession db (sessionIdOf payload) with
    | [] => some (.ready { event := some { event with processed := true } })
    | [link] =>
      (completeData payload).map fun data =>
        .writing (webhookWrites event link data now today paymentId)
    | _ => some (.ready { event := some { event with
        errorMessage := some "Multiple rows were found when one or none was required" } })

/-- Whether the payment of a flushed session marks its invoice as paid. -/
def settledInvoice (db : Db) (p : Payment) : Option Uuid :=
  match getInvoice db p.invoiceId with
  | none => none
  | some invoice =>
    if coversInvoice (db.payments++[p]) p.amountCents invoice then some invoice.id else none

def requestStmt (db : Db) : Session → RequestStatement → Option Session
  | .idle, .complete accessToken data now today paymentId =>
    match getPaymentLinkByToken db accessToken with
    | none => some .raised
    | some link =>
      -- the route rolls back what `mark_payment_link_paid` flushed before it raised
      if link.status ≠ .active ∨ isExpired link now = true then some .raised
      else some (.writing
        { link := some (link, paidLink link data now)
          payment := some (linkPayment link data today paymentId none) })
  | .idle, .webhook processor eventType eventId payload eventRowId =>
    -- two stored rows make `scalar_one_or_none` raise
    match duplicates db processor eventId with
    | [] =>
      let event : WebhookEvent :=
        { id := eventRowId, processor := processor, eventType := eventType, eventId := eventId
          payload := payload, errorMessage := none }
      if eventType ∈ paymentEvents ∧ (payload.getD .null).truthy = true then some (.accepted event)
      else some (.ready { event := some event })
    | [_] => some (.ready {})
    | _ => some .raised
  | .idle, .cancel linkId =>
    match getPaymentLink db linkId with
    | none => some .raised
    | some link =>
      -- what is written follows from the status read here, whatever it is at the flush
      if link.status ≠ .active then some .raised
      else some (.writing { link := some (link, cancelledLink link) })
  | .idle, .publicInfo accessToken now =>
    match getPaymentLinkByToken db accessToken with
    | none => some .raised
    | some link =>
      if isExpired link now = true ∧ link.status = .active then
        some (.writing { link := some (link, expiredLink link) })
      else some (.ready {})
  | .accepted event, .lookup now today paymentId => lookupLink db event now today paymentId
  | .accepted event, .caught message =>
    some (.ready { event := some { event with errorMessage := some message } })
  | .writing w, .flush =>
    match w.payment with
    | none => some (.ready w)
    | some p => if (getInvoice db p.invoiceId).isSome then some (.flushed w) else some .raised
  | .flushed w, .settle =>
    some (.ready { w with paidInvoice := w.payment.bind (settledInvoice db) })
  | _, _ => none

/-- The value of a column after the UPDATE of a session: only columns the session
changed are written. -/
def changedColumn {α : Type*} [DecidableEq α] (loaded changed current : α) : α :=
  if changed = loaded then current else changed

def ormUpdate (loaded changed current : PaymentLink) : PaymentLink :=
  { current with
    status := changedColumn loaded.status changed.status current.status
    paidAt := changedColumn loaded.paidAt changed.paidAt current.paidAt
    paidAmountCents :=
      changedColumn loaded.paidAmountCents changed.paidAmountCents current.paidAmountCents
    payerEmail := changedColumn loaded.payerEmail changed.payerEmail current.payerEmail
    payerName := changedColumn loaded.payerName changed.payerName current.payerName
    processorReference :=
      changedColumn loaded.processorReference changed.processorReference current.processorReference }

def updatedLinks (links : List PaymentLink) : Option (PaymentLink × PaymentLink) → List PaymentLink
  | none => links
  | some (loaded, changed) => Table.alter PaymentLink.id loaded.id (ormUpdate loaded changed) links

def paidInvoices (invoices : List Invoice) : Option Uuid → List Invoice
  | none => invoices
  | some i => Table.alter Invoice.id i (fun inv => { inv with status := .paid }) invoices

def applyWrites (db : Db) (w : Writes) : Db :=
  { db with
    links := updatedLinks db.links w.link
    payments := db.payments++w.payment.toList
    invoices := paidInvoices db.invoices w.paidInvoice
    events := db.events++w.event.toList }

def requestLocks (db : Db) : Session → RequestStatement → List LockRow
  | .writing w, .flush => (w.link.map (fun l => LockRow.link l.1.id)).toList
  | .flushed w, .settle =>
    ((w.payment.bind (settledInvoice db)).map LockRow.invoice).toList
  | _, _ => []

def paymentProgram : Program Db Session RequestStatement LockRow where
  locks := requestLocks
  stmt := requestStmt
  publish db m :=
    match m with
    | .ready w => some (applyWrites db w, .finished)
    | _ => none
  abort m :=
    match m with
    | .idle => .idle
    | .finished => .finished
    | _ => .raised

abbrev PaymentState (Tx : Type*) := State Db Session LockRow Tx
abbrev PaymentLabel (Tx : Type*) := Label RequestStatement Tx

/-! A request with nothing running beside it. -/

theorem changedColumn_loaded {α : Type*} [DecidableEq α] (loaded changed : α) :
    changedColumn loaded changed loaded = changed := by
  unfold changedColumn
  split_ifs with h
  · exact h.symm
  · rfl

theorem ormUpdate_paidLink (link : PaymentLink) (data : CompletePaymentRequest) (now : Datetime) :
    ormUpdate link (paidLink link data now) link = paidLink link data now := by
  simp only [ormUpdate, changedColumn_loaded]
  rfl

/-- On the row it was computed from, the UPDATE writes the changed row. -/
theorem updatedLinks_loaded {db : Db} {loaded changed : PaymentLink}
    (hids : (db.links.map PaymentLink.id).Nodup) (hmem : loaded ∈ db.links)
    (hid : changed.id = loaded.id) (hself : ormUpdate loaded changed loaded = changed) :
    updatedLinks db.links (some (loaded, changed)) = (setLink db changed).links := by
  simp only [updatedLinks, setLink, Table.alter, hid]
  refine List.map_congr_left fun row hrow => ?_
  split_ifs with h
  · have hsame : row = loaded := List.inj_on_of_nodup_map hids hrow hmem h
    rw [hsame, hself]
  · rfl

/-- What a paying session writes is what `mark_payment_link_paid` does. -/
theorem applyWrites_paid {db : Db} {link : PaymentLink} {invoice : Invoice}
    (hids : (db.links.map PaymentLink.id).Nodup) (hmem : link ∈ db.links)
    (hinvoice : getInvoice db link.invoiceId = some invoice) (data : CompletePaymentRequest)
    (now : Datetime) (today : Date) (paymentId : Uuid)
    (delivery : Option (PaymentProcessor × Option String)) :
    applyWrites db
        { link := some (link, paidLink link data now)
          payment := some (linkPayment link data today paymentId delivery)
          paidInvoice := settledInvoice db (linkPayment link data today paymentId delivery) } =
      recordPayment (setLink db (paidLink link data now))
        (linkPayment link data today paymentId delivery) invoice := by
  have hlinks : updatedLinks db.links (some (link, paidLink link data now)) =
      (setLink db (paidLink link data now)).links :=
    updatedLinks_loaded hids hmem rfl (ormUpdate_paidLink link data now)
  have hfound : getInvoice db (linkPayment link data today paymentId delivery).invoiceId =
      some invoice := hinvoice
  simp only [applyWrites, recordPayment, settledInvoice, hfound, hlinks]
  -- both sides make the same comparison
  split_ifs with hcovers hcovers' hcovers'
  · simp [paidInvoices, setLink, Db.setInvoiceStatus]
  · exact absurd hcovers hcovers'
  · exact absurd hcovers' hcovers
  · simp [paidInvoices, setLink]

variable {Tx : Type*} [DecidableEq Tx]

/-- The statements of a completion run one after the other leave the tables as
`mark_payment_link_paid` leaves them. -/
theorem exec_complete {s : PaymentState Tx} {t : Tx} {link : PaymentLink} {invoice : Invoice}
    {accessToken : String} {data : CompletePaymentRequest} {now : Datetime} {today : Date}
    {paymentId : Uuid} (hidle : s.session t = .idle) (hfree : Alone s t)
    (hids : (s.committed.links.map PaymentLink.id).Nodup)
    (hlink : getPaymentLinkByToken s.committed accessToken = some link)
    (hactive : link.status = .active) (hexp : isExpired link now = false)
    (hinvoice : getInvoice s.committed link.invoiceId = some invoice) :
    ∃ s', exec (step paymentProgram) s
        [.stmt t (.complete accessToken data now today paymentId), .stmt t .flush,
         .stmt t .settle, .commit t] = some s' ∧
      s'.committed = (markPaymentLinkPaid s.committed accessToken data now today paymentId none).2 := by
  have hresult : (markPaymentLinkPaid s.committed accessToken data now today paymentId none).2 =
      recordPayment (setLink s.committed (paidLink link data now))
        (linkPayment link data today paymentId none) invoice := by
    simp only [markPaymentLinkPaid, hlink, hactive, hexp, hinvoice]
    rfl
  have hmem : link ∈ s.committed.links := Table.mem_of_find hlink
  rw [hresult, ← applyWrites_paid hids hmem hinvoice data now today paymentId none]
  -- the three statements, each on what the one before has left
  have hread : requestStmt s.committed (s.session t)
      (.complete accessToken data now today paymentId) = some (.writing
        { link := some (link, paidLink link data now)
          payment := some (linkPayment link data today paymentId none) }) := by
    simp [hidle, requestStmt, hlink, hactive, hexp]
  obtain ⟨s₁, hs₁, hdb₁, hm₁, hfree₁⟩ := hfree.stmt (P := paymentProgram) hread
  have hflush : requestStmt s₁.committed (s₁.session t) .flush = some (.flushed
      { link := some (link, paidLink link data now)
        payment := some (linkPayment link data today paymentId none) }) := by
    have hfound : (getInvoice s.committed (linkPayment link data today paymentId none).invoiceId).isSome
        = true := by
      rw [show (linkPayment link data today paymentId none).invoiceId = link.invoiceId from rfl,
        hinvoice]
      rfl
    simp only [hm₁, hdb₁, requestStmt, if_pos hfound]
  obtain ⟨s₂, hs₂, hdb₂, hm₂, hfree₂⟩ := hfree₁.stmt (P := paymentProgram) hflush
  have hsettle : requestStmt s₂.committed (s₂.session t) .settle = some (.ready
      { link := some (link, paidLink link data now)
        payment := some (linkPayment link data today paymentId none)
        paidInvoice := settledInvoice s.committed (linkPayment link data today paymentId none) }) := by
    simp only [hm₂, hdb₂, hdb₁, requestStmt, Option.bind_some]
  obtain ⟨s₃, hs₃, hdb₃, hm₃, -⟩ := hfree₂.stmt (P := paymentProgram) hsettle
  obtain ⟨s₄, hs₄, hdb₄, -⟩ := step_commit_of_publish (P := paymentProgram) (s := s₃) (t := t)
    (by rw [hm₃]; rfl)
  refine ⟨s₄, ?_, ?_⟩
  · exact exec_cons_eq_some.mpr ⟨s₁, hs₁, exec_cons_eq_some.mpr ⟨s₂, hs₂,
      exec_cons_eq_some.mpr ⟨s₃, hs₃, exec_cons_eq_some.mpr ⟨s₄, hs₄, rfl⟩⟩⟩⟩
  · rw [hdb₄, hdb₃, hdb₂, hdb₁]

end LegalForge.Payments
