import LegalForge.AuthModels
import LegalForge.PaymentRequests
import LegalForge.InvoicePaid
import LegalForge.UnitOfWork

/-! The routes that open and settle payment links, one request after the other:
`create_payment_link`, the public completion, the webhooks, and `create_payment` beside them. -/
namespace LegalForge.Payments
open Billing Transition UnitOfWork

/-- What opening a link reads of the stored settings. -/
structure PaymentSettings where
  processor : PaymentProcessor
  isActive : Bool
  surchargeEnabled : Bool
  /-- A double. -/
  surchargeRate : ℚ
  rate_mem : 0 ≤ surchargeRate ∧ surchargeRate ≤ 1

structure CreatePaymentLinkRequest where
  invoiceId : Uuid
  description : Option String := none
  expiresInDays : Option ℕ := none
  description_max : ∀ v, description = some v → v.length ≤ 500
  days_mem : ∀ v, expiresInDays = some v → 1 ≤ v ∧ v ≤ 365

/-- The clock, the keys a request draws, and the text of an exception of the driver or the
schema. -/
structure Environment where
  now : Datetime
  today : Date
  rowId : Uuid
  accessToken : String
  message : String

theorem daysInMonth_pos (year month : ℕ) : 1 ≤ daysInMonth year month := by
  unfold daysInMonth
  split_ifs <;> omega

/-- The same time of the next day, nothing for an `OverflowError`. -/
def nextDay (d : Datetime) : Option Datetime :=
  if hday : d.day+1 ≤ daysInMonth d.year d.month then
    some { d with day := d.day+1, day_mem := ⟨by omega, hday⟩ }
  else if hmonth : d.month+1 ≤ 12 then
    some { d with
      month := d.month+1
      day := 1
      month_mem := ⟨by omega, hmonth⟩
      day_mem := ⟨le_rfl, daysInMonth_pos _ _⟩ }
  else if hyear : d.year+1 ≤ 9999 then
    some { d with
      year := d.year+1
      month := 1
      day := 1
      year_mem := ⟨by omega, hyear⟩
      month_mem := ⟨le_rfl, by omega⟩
      day_mem := ⟨le_rfl, daysInMonth_pos _ _⟩ }
  else none

/-- `now+timedelta(days=days)` -/
def addDays (d : Datetime) : ℕ → Option Datetime
  | 0 => some d
  | days+1 => (addDays d days).bind nextDay

/-- `int(total*rate)` when a surcharge is switched on. -/
def surchargeOf (settings : Option PaymentSettings) (totalCents : ℤ) : ℤ :=
  match settings with
  | none => 0
  | some ps =>
    if ps.surchargeEnabled ∧ 0 < ps.surchargeRate then
      Double.trunc (Double.mul (Double.round totalCents) ps.surchargeRate)
    else 0

def processorOf (settings : Option PaymentSettings) : PaymentProcessor :=
  match settings with
  | none => .manual
  | some ps => if ps.isActive then ps.processor else .manual

/-- No expiry unless a number of days is sent. -/
def expiryOf (env : Environment) (expiresInDays : Option ℕ) : Option (Option Datetime) :=
  match expiresInDays with
  | none => some none
  | some days => (addDays env.now days).map some

/-- The row `create_payment_link` adds. -/
def openedLink (env : Environment) (settings : Option PaymentSettings)
    (data : CreatePaymentLinkRequest) (userId : Uuid) (invoice : Invoice)
    (expiresAt : Option Datetime) : PaymentLink where
  id := env.rowId
  invoiceId := invoice.id
  clientId := invoice.clientId
  matterId := some invoice.matterId
  createdBy := userId
  amountCents := invoice.totalCents
  description := data.description
  accessToken := env.accessToken
  processor := processorOf settings
  processorSessionId := none
  expiresAt := expiresAt
  paidAt := none
  paidAmountCents := none
  surchargeCents := surchargeOf settings invoice.totalCents
  payerEmail := none
  payerName := none
  processorReference := none

/-- `POST /links`. The keys of the new row are unique, or its INSERT fails. -/
def createPaymentLink (env : Environment) (settings : Option PaymentSettings)
    (data : CreatePaymentLinkRequest) (userId : Uuid) (db : Db) : Except HttpError PaymentLink × Db :=
  match getInvoice db data.invoiceId with
  | none => (.error ⟨400, "Invoice not found"⟩, db)
  | some invoice =>
    if invoice.status = .paid then (.error ⟨400, "Invoice is already paid"⟩, db)
    else if invoice.status = .void then
      (.error ⟨400, "Cannot create payment link for a voided invoice"⟩, db)
    else
      match expiryOf env data.expiresInDays, data.description.all (fun v => !v.contains '\x00') with
      | some expiresAt, true =>
        let link := openedLink env settings data userId invoice expiresAt
        if link.id ∈ db.links.map PaymentLink.id ∨
            link.accessToken ∈ db.links.map PaymentLink.accessToken then (.error .internal, db)
        else (.ok link, { db with links := db.links++[link] })
      | _, _ => (.error .internal, db)

/-- What a column `String(limit)` takes, if the value is not null. -/
def fitsText (limit : ℕ) (text : Option String) : Bool :=
  text.all (fun t => (Auth.varchar limit t).isSome)

/-- The columns of the link and of the payment can hold the values of the request. -/
def storable (data : CompletePaymentRequest) : Bool :=
  fitsText 255 data.payerEmail && fitsText 255 data.payerName &&
    -- the reference is also stored with the payment, in a shorter column
    fitsText 255 data.processorReference &&
    data.paidAmountCents.all (fun n => -9223372036854775808 ≤ n ∧ n ≤ 9223372036854775807)

/-- The columns of a payment can hold what `create_payment` was sent. -/
def recordable (data : PaymentCreate) : Bool :=
  data.amountCents ≤ 9223372036854775807 && fitsText 255 data.referenceNumber &&
    data.notes.all (fun t => !t.contains '\x00')

def paymentError : PaymentError → HttpError
  | .foreignKey => .internal
  | error => ⟨400, error.message⟩

/-- `POST /pay/{access_token}/complete` -/
def completePayment (env : Environment) (accessToken : String) (data : CompletePaymentRequest)
    (db : Db) : Except HttpError PaymentLink × Db :=
  match markPaymentLinkPaid db accessToken data env.now env.today env.rowId none with
  | (.error error, db') => (.error (paymentError error), db')
  | (.ok link, db') => if storable data then (.ok link, db') else (.error .internal, db')

/-- `_process_payment_webhook` inside the `try` block of `process_webhook`, on a session id
that was found. An exception is caught and written down, unless it comes from a flush: then
the session is of no more use. -/
def processPaymentWebhook (env : Environment) (event : WebhookEvent) (payload : Json)
    (sessionId : String) (db : Db) : Except HttpError (WebhookEvent × Db) :=
  match linksOfSession db (.str sessionId) with
  | [] => .ok ({ event with processed := true }, db)
  | [link] =>
    match completeData payload with
    | none => .ok ({ event with errorMessage := some env.message }, db)
    | some data =>
      match markPaymentLinkPaid db link.accessToken data env.now env.today env.rowId
          (some (deliveryOf event)) with
      | (.error .foreignKey, _) => .error .internal
      | (.error error, db') => .ok ({ event with errorMessage := some error.message }, db')
      | (.ok _, db') =>
        if storable data then .ok ({ event with processed := true }, db') else .error .internal
  | _ => .ok ({ event with
      errorMessage := some "Multiple rows were found when one or none was required" }, db)

/-- The event after the `try` block, and the tables with it. -/
def handleEvent (env : Environment) (event : WebhookEvent) (payload : Json) (db : Db) :
    Except HttpError (WebhookEvent × Db) :=
  if event.eventType ∈ paymentEvents ∧ payload.truthy = true then
    if (sessionIdOf payload).truthy then
      match sessionIdOf payload with
      | .str sessionId =>
        if sessionId.contains '\x00' then .error .internal
        else processPaymentWebhook env event payload sessionId db
      -- the driver refuses a value that is no string
      | _ => .ok ({ event with errorMessage := some env.message }, db)
    else .ok ({ event with processed := true }, db)
  else .ok (event, db)

inductive WebhookAnswer where
  | received (eventId : Uuid)
  | duplicate (message : String)
  deriving DecidableEq

/-- `process_webhook`, for an event type and an event id that the columns can hold. -/
def processWebhook (env : Environment) (processor : PaymentProcessor) (eventType : String)
    (eventId : Option String) (payload : Json) (db : Db) : Except HttpError WebhookAnswer × Db :=
  match duplicates db processor eventId with
  | [] =>
    let event : WebhookEvent :=
      { id := env.rowId, processor := processor, eventType := eventType, eventId := eventId
        payload := some payload, errorMessage := none }
    match handleEvent env event payload db with
    | .error error => (.error error, db)
    | .ok (stored, db') =>
      (.ok (.received stored.id), { db' with events := db'.events++[stored] })
  | [_] => (.ok (.duplicate ("Duplicate webhook event: "++eventId.getD "")), db)
  -- two stored rows make `scalar_one_or_none` raise
  | _ => (.error .internal, db)

/-- `PaymentProcessor(value)` -/
def processorOfValue (value : String) : Option PaymentProcessor :=
  if value = "stripe" then some .stripe
  else if value = "lawpay" then some .lawpay
  else if value = "manual" then some .manual
  else none

/-- `body.get("type", "unknown")` -/
def eventTypeOf (body : Json) : Json :=
  if body.has "type" then body.get "type" else .str "unknown"

/-- The event type and id of a body that is an object, if the columns can hold them. -/
def deliveredEvent (body : Json) : Option (String × Option String) :=
  match body, eventTypeOf body, (body.get "id").optStr with
  | .obj _, .str eventType, some eventId =>
    if fitsText 255 (some eventType) ∧ fitsText 500 eventId then some (eventType, eventId) else none
  | _, _, _ => none

/-- `POST /webhooks/{processor}`. A body that cannot be read counts as empty. -/
def receiveWebhook (env : Environment) (processor : String) (body : Option Json) (db : Db) :
    Except HttpError WebhookAnswer × Db :=
  match processorOfValue processor with
  | none => (.error ⟨400, "Unknown processor: "++processor⟩, db)
  | some proc =>
    match deliveredEvent (body.getD (.obj [])) with
    | none => (.error .internal, db)
    | some (eventType, eventId) =>
      processWebhook env proc eventType eventId (body.getD (.obj [])) db

inductive PaymentRequest where
  | createPayment (data : PaymentCreate)
  | createLink (settings : Option PaymentSettings) (data : CreatePaymentLinkRequest) (userId : Uuid)
  | complete (accessToken : String) (data : CompletePaymentRequest)
  | webhook (processor : String) (body : Option Json)

inductive PaymentAnswer where
  | payment (p : Payment)
  | link (link : PaymentLink)
  | webhook (answer : WebhookAnswer)

/-- A request in its own session, with what it reads of its environment. -/
def handle (env : Environment) (request : PaymentRequest) : Handler Db HttpError PaymentAnswer :=
  fun db => match request with
  | .createPayment data =>
    match createPayment db data env.rowId with
    | .error error => (.error error, db)
    | .ok (p, db') =>
      if recordable data then (.ok (.payment p), db') else (.error .internal, db)
  | .createLink settings data userId =>
    let (result, db') := createPaymentLink env settings data userId db
    (result.map .link, db')
  | .complete accessToken data =>
    let (result, db') := completePayment env accessToken data db
    (result.map .link, db')
  | .webhook processor body =>
    let (result, db') := receiveWebhook env processor body db
    (result.map .webhook, db')

/-! Which link a request settles. -/

/-- The link of a token, if a completion with these values goes through. -/
def payable (env : Environment) (db : Db) (accessToken : String) (data : CompletePaymentRequest) :
    Option PaymentLink :=
  (getPaymentLinkByToken db accessToken).filter (fun link =>
    link.status = .active ∧ isExpired link env.now = false ∧
      (getInvoice db link.invoiceId).isSome ∧ storable data = true)

/-- The token and the values with which a webhook completes a payment. -/
def webhookCompletion (db : Db) (processor : String) (body : Json) :
    Option (String × CompletePaymentRequest) :=
  match processorOfValue processor, deliveredEvent body, sessionIdOf body with
  | some proc, some (eventType, eventId), .str sessionId =>
    if duplicates db proc eventId = [] ∧ eventType ∈ paymentEvents ∧ sessionId ≠ "" ∧
        sessionId.contains '\x00' = false then
      match linksOfSession db (.str sessionId) with
      | [link] => (completeData body).map (fun data => (link.accessToken, data))
      | _ => none
    else none
  | _, _, _ => none

/-- The link that a request settles, and the values it settles it with. -/
def settles (env : Environment) (db : Db) :
    PaymentRequest → Option (PaymentLink × CompletePaymentRequest)
  | .complete accessToken data => (payable env db accessToken data).map (fun link => (link, data))
  | .webhook processor body =>
    match webhookCompletion db processor (body.getD (.obj [])) with
    | none => none
    | some (accessToken, data) => (payable env db accessToken data).map (fun link => (link, data))
  | .createPayment _ => none
  | .createLink _ _ _ => none

/-- The tables after a link is settled. -/
def settledDb (env : Environment) (db : Db) (link : PaymentLink) (data : CompletePaymentRequest)
    (delivery : Option (PaymentProcessor × Option String)) (invoice : Invoice) : Db :=
  recordPayment (setLink db (paidLink link data env.now))
    (linkPayment link data env.today env.rowId delivery) invoice

theorem payments_settledDb (env : Environment) (db : Db) (link : PaymentLink)
    (data : CompletePaymentRequest) (delivery : Option (PaymentProcessor × Option String))
    (invoice : Invoice) : (settledDb env db link data delivery invoice).payments =
      db.payments++[linkPayment link data env.today env.rowId delivery] :=
  payments_recordPayment _ _ _

theorem links_settledDb (env : Environment) (db : Db) (link : PaymentLink)
    (data : CompletePaymentRequest) (delivery : Option (PaymentProcessor × Option String))
    (invoice : Invoice) : (settledDb env db link data delivery invoice).links =
      (setLink db (paidLink link data env.now)).links :=
  links_recordPayment _ _ _

/-- All that a request which is answered can do to the tables. -/
inductive Step (env : Environment) (db : Db) (request : PaymentRequest) : Db → Prop where
  | manual {data : PaymentCreate} {invoice : Invoice} (hnone : settles env db request = none)
      (hinvoice : getInvoice db data.invoiceId = some invoice) :
      Step env db request (recordPayment db (payment data env.rowId) invoice)
  | opened {settings : Option PaymentSettings} {data : CreatePaymentLinkRequest} {userId : Uuid}
      {invoice : Invoice} {expiresAt : Option Datetime} (hnone : settles env db request = none)
      (hinvoice : getInvoice db data.invoiceId = some invoice)
      (hid : env.rowId ∉ db.links.map PaymentLink.id)
      (htoken : env.accessToken ∉ db.links.map PaymentLink.accessToken) :
      Step env db request { db with links := db.links++[openedLink env settings data userId invoice expiresAt] }
  | settled {link : PaymentLink} {data : CompletePaymentRequest} {invoice : Invoice}
      {delivery : Option (PaymentProcessor × Option String)} {events : List WebhookEvent}
      (hsettles : settles env db request = some (link, data)) (hmem : link ∈ db.links)
      (hactive : link.status = .active) (hinvoice : getInvoice db link.invoiceId = some invoice) :
      Step env db request { settledDb env db link data delivery invoice with events := events }
  | expired {link : PaymentLink} {events : List WebhookEvent} (hnone : settles env db request = none)
      (hmem : link ∈ db.links) (hactive : link.status = .active) :
      Step env db request { setLink db (expiredLink link) with events := events }
  | kept {events : List WebhookEvent} (hnone : settles env db request = none) :
      Step env db request { db with events := events }

theorem payable_eq_some_iff {env : Environment} {db : Db} {accessToken : String}
    {data : CompletePaymentRequest} {link : PaymentLink} :
    payable env db accessToken data = some link ↔
      getPaymentLinkByToken db accessToken = some link ∧ link.status = .active ∧
        isExpired link env.now = false ∧ (getInvoice db link.invoiceId).isSome ∧
          storable data = true := by
  rw [payable, Option.filter_eq_some_iff, decide_eq_true_iff]

/-- What `mark_payment_link_paid` returns with. -/
theorem markPaymentLinkPaid_ok {env : Environment} {db db' : Db} {accessToken : String}
    {data : CompletePaymentRequest} {delivery : Option (PaymentProcessor × Option String)}
    {result : PaymentLink} (h : markPaymentLinkPaid db accessToken data env.now env.today env.rowId
      delivery = (.ok result, db')) (hstorable : storable data = true) :
    ∃ link invoice, payable env db accessToken data = some link ∧
      getInvoice db link.invoiceId = some invoice ∧
        db' = settledDb env db link data delivery invoice := by
  unfold markPaymentLinkPaid at h
  split at h
  · cases (Prod.mk.inj h).1
  · rename_i link hlink
    split_ifs at h with hactive hexpired
    · cases (Prod.mk.inj h).1
    · cases (Prod.mk.inj h).1
    · split at h
      · cases (Prod.mk.inj h).1
      · rename_i invoice hinvoice
        obtain ⟨-, rfl⟩ := Prod.mk.inj h
        refine ⟨link, invoice, payable_eq_some_iff.mpr ?_, hinvoice, rfl⟩
        rw [hinvoice]
        exact ⟨hlink, not_not.mp hactive, Bool.eq_false_iff.mpr hexpired, rfl, hstorable⟩

/-- What it leaves behind when it raises. -/
theorem markPaymentLinkPaid_error {env : Environment} {db db' : Db} {accessToken : String}
    {data : CompletePaymentRequest} {delivery : Option (PaymentProcessor × Option String)}
    {error : PaymentError} (h : markPaymentLinkPaid db accessToken data env.now env.today env.rowId
      delivery = (.error error, db')) : payable env db accessToken data = none ∧
      (db' = db ∨ ∃ link ∈ db.links, link.status = .active ∧ db' = setLink db (expiredLink link)) := by
  unfold markPaymentLinkPaid at h
  rw [Option.eq_none_iff_forall_ne_some]
  split at h
  -- there is no such link
  · rename_i hlink
    obtain ⟨-, rfl⟩ := Prod.mk.inj h
    refine ⟨fun link hpayable => ?_, Or.inl rfl⟩
    rw [(payable_eq_some_iff.mp hpayable).1] at hlink
    cases hlink
  · rename_i link hlink
    have hsame : ∀ found, payable env db accessToken data = some found → found = link := by
      intro found hpayable
      exact Option.some.inj ((payable_eq_some_iff.mp hpayable).1.symm.trans hlink)
    split_ifs at h with hactive hexpired
    -- it is not active
    · obtain ⟨-, rfl⟩ := Prod.mk.inj h
      refine ⟨fun found hpayable => ?_, Or.inl rfl⟩
      obtain rfl := hsame found hpayable
      exact hactive (payable_eq_some_iff.mp hpayable).2.1
    -- it has expired, which is written down
    · obtain ⟨-, rfl⟩ := Prod.mk.inj h
      refine ⟨fun found hpayable => ?_, Or.inr ⟨link, Table.mem_of_find hlink, not_not.mp hactive, rfl⟩⟩
      obtain rfl := hsame found hpayable
      rw [(payable_eq_some_iff.mp hpayable).2.2.1] at hexpired
      cases hexpired
    · split at h
      -- its invoice is missing
      · rename_i hinvoice
        obtain ⟨-, rfl⟩ := Prod.mk.inj h
        refine ⟨fun found hpayable => ?_, Or.inl rfl⟩
        obtain rfl := hsame found hpayable
        have hsome := (payable_eq_some_iff.mp hpayable).2.2.2.1
        rw [hinvoice] at hsome
        cases hsome
      · cases (Prod.mk.inj h).1

/-- A token and values that settle a link, with the event rows as they may be. -/
theorem step_settled {env : Environment} {db : Db} {request : PaymentRequest} {link : PaymentLink}
    {accessToken : String} {data : CompletePaymentRequest} {invoice : Invoice}
    {delivery : Option (PaymentProcessor × Option String)} (events : List WebhookEvent)
    (hpayable : payable env db accessToken data = some link)
    (hinvoice : getInvoice db link.invoiceId = some invoice)
    (hsettles : settles env db request = some (link, data)) :
    Step env db request { settledDb env db link data delivery invoice with events := events } := by
  have hlink := payable_eq_some_iff.mp hpayable
  exact .settled hsettles (Table.mem_of_find hlink.1) hlink.2.1 hinvoice

theorem step_createPayment {env : Environment} {db db' : Db} {data : PaymentCreate}
    {answer : PaymentAnswer}
    (h : handle env (.createPayment data) db = (.ok answer, db')) :
    Step env db (.createPayment data) db' := by
  simp only [handle, createPayment] at h
  split at h
  · cases (Prod.mk.inj h).1
  · rename_i p out hout
    split_ifs at h with hrecordable
    · obtain ⟨-, rfl⟩ := Prod.mk.inj h
      split at hout
      · cases hout
      · rename_i invoice hinvoice
        obtain ⟨rfl, rfl⟩ := Prod.mk.inj (Except.ok.inj hout)
        exact .manual rfl hinvoice
    · cases (Prod.mk.inj h).1

theorem map_eq_ok {α β : Type} {out : Except HttpError α × Db} {f : α → β} {answer : β} {db' : Db}
    (h : (out.1.map f, out.2) = (.ok answer, db')) : ∃ a, out = (.ok a, db') := by
  obtain ⟨result, db₁⟩ := out
  obtain ⟨hresult, rfl⟩ := Prod.mk.inj h
  cases result with
  | error error => cases hresult
  | ok a => exact ⟨a, rfl⟩

theorem createPaymentLink_ok {env : Environment} {db db' : Db} {settings : Option PaymentSettings}
    {data : CreatePaymentLinkRequest} {userId : Uuid} {link : PaymentLink}
    (h : createPaymentLink env settings data userId db = (.ok link, db')) :
    ∃ invoice expiresAt, getInvoice db data.invoiceId = some invoice ∧
      env.rowId ∉ db.links.map PaymentLink.id ∧ env.accessToken ∉ db.links.map PaymentLink.accessToken ∧
        db' = { db with links := db.links++[openedLink env settings data userId invoice expiresAt] } := by
  unfold createPaymentLink at h
  split at h
  · cases (Prod.mk.inj h).1
  · rename_i invoice hinvoice
    split_ifs at h with hpaid hvoid
    · cases (Prod.mk.inj h).1
    · cases (Prod.mk.inj h).1
    · split at h
      · rename_i expiresAt _ _
        dsimp only at h
        split_ifs at h with htaken
        · cases (Prod.mk.inj h).1
        · obtain ⟨-, rfl⟩ := Prod.mk.inj h
          obtain ⟨hid, htoken⟩ := not_or.mp htaken
          exact ⟨invoice, expiresAt, hinvoice, hid, htoken, rfl⟩
      · cases (Prod.mk.inj h).1

theorem completePayment_ok {env : Environment} {db db' : Db} {accessToken : String}
    {data : CompletePaymentRequest} {result : PaymentLink}
    (h : completePayment env accessToken data db = (.ok result, db')) :
    ∃ link invoice, payable env db accessToken data = some link ∧
      getInvoice db link.invoiceId = some invoice ∧
        db' = settledDb env db link data none invoice := by
  unfold completePayment at h
  split at h
  · cases (Prod.mk.inj h).1
  · rename_i paid db₁ hpaid
    split_ifs at h with hstorable
    · obtain ⟨-, rfl⟩ := Prod.mk.inj h
      exact markPaymentLinkPaid_ok hpaid hstorable
    · cases (Prod.mk.inj h).1

/-- What the `try` block does, for a session id that finds one link, or several, or none. -/
theorem processPaymentWebhook_ok {env : Environment} {db db' : Db} {event stored : WebhookEvent}
    {payload : Json} {sessionId : String}
    (h : processPaymentWebhook env event payload sessionId db = .ok (stored, db')) :
    (∃ found data link delivery invoice, linksOfSession db (.str sessionId) = [found] ∧
      completeData payload = some data ∧ payable env db found.accessToken data = some link ∧
      getInvoice db link.invoiceId = some invoice ∧
        db' = settledDb env db link data delivery invoice) ∨
    ((∀ found data, linksOfSession db (.str sessionId) = [found] → completeData payload = some data →
      payable env db found.accessToken data = none) ∧
      (db' = db ∨ ∃ link ∈ db.links, link.status = .active ∧ db' = setLink db (expiredLink link))) := by
  unfold processPaymentWebhook at h
  split at h
  -- no link has the session
  · rename_i hlinks
    obtain ⟨-, rfl⟩ := Prod.mk.inj (Except.ok.inj h)
    refine Or.inr ⟨fun found data hfound => ?_, Or.inl rfl⟩
    rw [hlinks] at hfound
    cases hfound
  · rename_i found hlinks
    split at h
    -- the payload has no data of a payment
    · rename_i hdata
      obtain ⟨-, rfl⟩ := Prod.mk.inj (Except.ok.inj h)
      refine Or.inr ⟨fun found' data _ hsome => ?_, Or.inl rfl⟩
      rw [hdata] at hsome
      cases hsome
    · rename_i data hdata
      split at h
      · cases h
      -- the link cannot be paid
      · rename_i error db₁ _ herror
        obtain ⟨-, rfl⟩ := Prod.mk.inj (Except.ok.inj h)
        obtain ⟨hnot, hleft⟩ := markPaymentLinkPaid_error herror
        refine Or.inr ⟨fun found' data' hfound hsome => ?_, hleft⟩
        rw [hlinks] at hfound
        obtain rfl := (List.cons.inj hfound).1
        obtain rfl := Option.some.inj (hdata.symm.trans hsome)
        exact hnot
      · rename_i paid db₁ hpaid
        split_ifs at h with hstorable
        obtain ⟨-, rfl⟩ := Prod.mk.inj (Except.ok.inj h)
        obtain ⟨link, invoice, hpayable, hinvoice, rfl⟩ := markPaymentLinkPaid_ok hpaid hstorable
        exact Or.inl ⟨found, data, link, _, invoice, hlinks, hdata, hpayable, hinvoice, rfl⟩
  -- several links have the session
  · rename_i links hnone hone
    obtain ⟨-, rfl⟩ := Prod.mk.inj (Except.ok.inj h)
    exact Or.inr ⟨fun found data hfound => absurd hfound (hone found), Or.inl rfl⟩

/-- A webhook that completes a payment. -/
structure Completes (db : Db) (proc : PaymentProcessor) (eventType : String)
    (eventId : Option String) (body : Json) (sessionId : String) (found : PaymentLink)
    (data : CompletePaymentRequest) : Prop where
  fresh : duplicates db proc eventId = []
  event : eventType ∈ paymentEvents
  session : sessionIdOf body = .str sessionId
  nonempty : sessionId ≠ ""
  clean : sessionId.contains '\x00' = false
  links : linksOfSession db (.str sessionId) = [found]
  data : completeData body = some data

theorem webhookCompletion_eq_some_iff {db : Db} {processor eventType : String}
    {proc : PaymentProcessor} {eventId : Option String} {body : Json} {accessToken : String}
    {data : CompletePaymentRequest} (hproc : processorOfValue processor = some proc)
    (hdelivered : deliveredEvent body = some (eventType, eventId)) :
    webhookCompletion db processor body = some (accessToken, data) ↔
      ∃ sessionId found, Completes db proc eventType eventId body sessionId found data ∧
        found.accessToken = accessToken := by
  rw [webhookCompletion, hproc, hdelivered]
  constructor
  · intro h
    split at h
    · rename_i sessionId hp hd hsession
      obtain rfl := Option.some.inj hp
      obtain ⟨rfl, rfl⟩ := Prod.mk.inj (Option.some.inj hd)
      split_ifs at h with hguard
      split at h
      · rename_i found hlinks
        obtain ⟨data', hdata, hpair⟩ := Option.map_eq_some_iff.mp h
        obtain ⟨htoken, rfl⟩ := Prod.mk.inj hpair
        exact ⟨sessionId, found, ⟨hguard.1, hguard.2.1, hsession, hguard.2.2.1, hguard.2.2.2, hlinks,
          hdata⟩, htoken⟩
      · cases h
    · cases h
  · rintro ⟨sessionId, found, h, rfl⟩
    have hguard : duplicates db proc eventId = [] ∧ eventType ∈ paymentEvents ∧ sessionId ≠ "" ∧
        sessionId.contains '\x00' = false := ⟨h.fresh, h.event, h.nonempty, h.clean⟩
    simp only [h.session, hguard, h.links, h.data, ne_eq, not_false_eq_true, and_self, if_true,
      Option.map_some]

/-- Only a body with fields has a session id. -/
theorem truthy_of_sessionId {body : Json} {sessionId : String}
    (h : sessionIdOf body = .str sessionId) : body.truthy = true := by
  cases body with
  | obj fields =>
    cases fields with
    | nil => simp [sessionIdOf, Json.get, Json.or, Json.truthy] at h
    | cons x fields => rfl
  | _ => simp [sessionIdOf, Json.get, Json.or, Json.truthy] at h

theorem handleEvent_ok {env : Environment} {db db' : Db} {event stored : WebhookEvent}
    {payload : Json} (h : handleEvent env event payload db = .ok (stored, db')) :
    (∃ sessionId, sessionIdOf payload = .str sessionId ∧ event.eventType ∈ paymentEvents ∧
      sessionId ≠ "" ∧ sessionId.contains '\x00' = false ∧
        processPaymentWebhook env event payload sessionId db = .ok (stored, db')) ∨
    (db' = db ∧ ¬∃ sessionId, sessionIdOf payload = .str sessionId ∧
      event.eventType ∈ paymentEvents ∧ sessionId ≠ "") := by
  unfold handleEvent at h
  split_ifs at h with hevent hsession
  · split at h
    · rename_i sessionId hstr
      split_ifs at h with hnul
      rw [hstr] at hsession
      exact Or.inl ⟨sessionId, hstr, hevent.1, of_decide_eq_true hsession,
        Bool.eq_false_iff.mpr hnul, h⟩
    · rename_i hstr
      obtain ⟨-, rfl⟩ := Prod.mk.inj (Except.ok.inj h)
      exact Or.inr ⟨rfl, fun ⟨sessionId, hsome, _⟩ => hstr sessionId hsome⟩
  · obtain ⟨-, rfl⟩ := Prod.mk.inj (Except.ok.inj h)
    refine Or.inr ⟨rfl, fun ⟨sessionId, hsome, _, hne⟩ => hsession ?_⟩
    rw [hsome]
    exact decide_eq_true hne
  · obtain ⟨-, rfl⟩ := Prod.mk.inj (Except.ok.inj h)
    exact Or.inr ⟨rfl, fun ⟨sessionId, hsome, htype, _⟩ => hevent ⟨htype, truthy_of_sessionId hsome⟩⟩

theorem receiveWebhook_ok {env : Environment} {db db' : Db} {processor : String} {body : Option Json}
    {answer : WebhookAnswer} (h : receiveWebhook env processor body db = (.ok answer, db')) :
    ∃ proc eventType eventId, processorOfValue processor = some proc ∧
      deliveredEvent (body.getD (.obj [])) = some (eventType, eventId) ∧
        processWebhook env proc eventType eventId (body.getD (.obj [])) db = (.ok answer, db') := by
  unfold receiveWebhook at h
  split at h
  · cases (Prod.mk.inj h).1
  · rename_i proc hproc
    split at h
    · cases (Prod.mk.inj h).1
    · rename_i eventType eventId hdelivered
      exact ⟨proc, eventType, eventId, hproc, hdelivered, h⟩

theorem settles_webhook {env : Environment} {db : Db} {processor : String} {body : Option Json}
    {accessToken : String} {data : CompletePaymentRequest}
    (h : webhookCompletion db processor (body.getD (.obj [])) = some (accessToken, data)) :
    settles env db (.webhook processor body) =
      (payable env db accessToken data).map (fun link => (link, data)) := by
  rw [settles, h]

/-- A webhook whose completion, if it has one, does not go through. -/
theorem settles_webhook_eq_none {env : Environment} {db : Db} {processor : String}
    {body : Option Json}
    (h : ∀ accessToken data, webhookCompletion db processor (body.getD (.obj [])) =
      some (accessToken, data) → payable env db accessToken data = none) :
    settles env db (.webhook processor body) = none := by
  cases hcompletion : webhookCompletion db processor (body.getD (.obj [])) with
  | none => rw [settles, hcompletion]
  | some completion =>
    obtain ⟨accessToken, data⟩ := completion
    rw [settles_webhook hcompletion, h accessToken data hcompletion]
    rfl

theorem step_webhook {env : Environment} {db db' : Db} {processor : String} {body : Option Json}
    {answer : PaymentAnswer}
    (h : handle env (.webhook processor body) db = (.ok answer, db')) :
    Step env db (.webhook processor body) db' := by
  obtain ⟨received, hok⟩ := map_eq_ok h
  obtain ⟨proc, eventType, eventId, hproc, hdelivered, hprocess⟩ := receiveWebhook_ok hok
  unfold processWebhook at hprocess
  split at hprocess
  -- an event that has not come before
  · rename_i hfresh
    dsimp only at hprocess
    split at hprocess
    · cases (Prod.mk.inj hprocess).1
    · rename_i stored db₁ hevent
      obtain ⟨-, rfl⟩ := Prod.mk.inj hprocess
      rcases handleEvent_ok hevent with ⟨sessionId, hsession, htype, hne, hclean, hpay⟩ | ⟨rfl, hnot⟩
      · rcases processPaymentWebhook_ok hpay with
          ⟨found, data, link, delivery, invoice, hlinks, hdata, hpayable, hinvoice, rfl⟩ | ⟨hnot, hleft⟩
        · have hcompletion : webhookCompletion db processor (body.getD (.obj [])) =
              some (found.accessToken, data) :=
            (webhookCompletion_eq_some_iff hproc hdelivered).mpr
              ⟨sessionId, found, ⟨hfresh, htype, hsession, hne, hclean, hlinks, hdata⟩, rfl⟩
          apply step_settled _ hpayable hinvoice
          rw [settles_webhook hcompletion, hpayable]
          rfl
        · have hnone : settles env db (.webhook processor body) = none := by
            apply settles_webhook_eq_none
            intro accessToken data hcompletion
            obtain ⟨sessionId', found, hc, rfl⟩ :=
              (webhookCompletion_eq_some_iff hproc hdelivered).mp hcompletion
            obtain rfl : sessionId' = sessionId := Json.str.inj (hc.session.symm.trans hsession)
            exact hnot found data hc.links hc.data
          rcases hleft with rfl | ⟨link, hmem, hactive, rfl⟩
          · exact .kept hnone
          · exact .expired hnone hmem hactive
      · refine .kept (settles_webhook_eq_none fun accessToken data hcompletion => ?_)
        obtain ⟨sessionId, found, hc, -⟩ :=
          (webhookCompletion_eq_some_iff hproc hdelivered).mp hcompletion
        exact absurd ⟨sessionId, hc.session, hc.event, hc.nonempty⟩ hnot
  -- a duplicate is answered without being processed
  · rename_i duplicate hduplicate
    obtain ⟨-, rfl⟩ := Prod.mk.inj hprocess
    have hnone : settles env db (.webhook processor body) = none := by
      apply settles_webhook_eq_none
      intro accessToken data hcompletion
      obtain ⟨sessionId, found, hc, -⟩ :=
        (webhookCompletion_eq_some_iff hproc hdelivered).mp hcompletion
      rw [hc.fresh] at hduplicate
      cases hduplicate
    have hkept : Step env db (.webhook processor body) { db with events := db.events } := .kept hnone
    exact hkept
  · cases (Prod.mk.inj hprocess).1

/-- What an answered request has done. -/
theorem step_of_handle {env : Environment} {request : PaymentRequest} {db db' : Db}
    {answer : PaymentAnswer} (h : handle env request db = (.ok answer, db')) :
    Step env db request db' := by
  cases request with
  | createPayment data => exact step_createPayment h
  | createLink settings data userId =>
    obtain ⟨link, hok⟩ := map_eq_ok h
    obtain ⟨invoice, expiresAt, hinvoice, hid, htoken, rfl⟩ := createPaymentLink_ok hok
    exact .opened rfl hinvoice hid htoken
  | complete accessToken data =>
    obtain ⟨paid, hok⟩ := map_eq_ok h
    obtain ⟨link, invoice, hpayable, hinvoice, rfl⟩ := completePayment_ok hok
    apply step_settled (settledDb env db link data none invoice).events hpayable hinvoice
    rw [settles, hpayable]
    rfl
  | webhook processor body => exact step_webhook h

/-! A request that settles a link is answered. -/

theorem markPaymentLinkPaid_of_payable {env : Environment} {db : Db} {accessToken : String}
    {data : CompletePaymentRequest} {link : PaymentLink}
    (h : payable env db accessToken data = some link)
    (delivery : Option (PaymentProcessor × Option String)) :
    ∃ invoice, getInvoice db link.invoiceId = some invoice ∧
      markPaymentLinkPaid db accessToken data env.now env.today env.rowId delivery =
        (.ok (paidLink link data env.now), settledDb env db link data delivery invoice) := by
  obtain ⟨hlink, hactive, hexpired, hsome, -⟩ := payable_eq_some_iff.mp h
  obtain ⟨invoice, hinvoice⟩ := Option.isSome_iff_exists.mp hsome
  refine ⟨invoice, hinvoice, ?_⟩
  simp only [markPaymentLinkPaid, hlink, hactive, hexpired, hinvoice, ne_eq, not_true_eq_false,
    if_false, Bool.false_eq_true]
  rfl

theorem completePayment_of_payable {env : Environment} {db : Db} {accessToken : String}
    {data : CompletePaymentRequest} {link : PaymentLink}
    (h : payable env db accessToken data = some link) :
    ∃ paid db', completePayment env accessToken data db = (.ok paid, db') := by
  obtain ⟨invoice, -, hpaid⟩ := markPaymentLinkPaid_of_payable h none
  have hstorable := (payable_eq_some_iff.mp h).2.2.2.2
  simp only [completePayment, hpaid, hstorable, if_true]
  exact ⟨_, _, rfl⟩

theorem receiveWebhook_of_payable {env : Environment} {db : Db} {processor accessToken : String}
    {body : Option Json} {data : CompletePaymentRequest} {link : PaymentLink}
    (hcompletion : webhookCompletion db processor (body.getD (.obj [])) = some (accessToken, data))
    (h : payable env db accessToken data = some link) :
    ∃ answer db', receiveWebhook env processor body db = (.ok answer, db') := by
  have hunfolded := hcompletion
  unfold webhookCompletion at hunfolded
  split at hunfolded
  · rename_i proc eventType eventId sessionId hproc hdelivered hsession
    obtain ⟨sessionId', found, hc, rfl⟩ :=
      (webhookCompletion_eq_some_iff hproc hdelivered).mp hcompletion
    have htruthy := truthy_of_sessionId hc.session
    have hvalue : (Json.str sessionId').truthy = true := decide_eq_true hc.nonempty
    have hstorable := (payable_eq_some_iff.mp h).2.2.2.2
    obtain ⟨invoice, -, hpaid⟩ := markPaymentLinkPaid_of_payable h (some (proc, eventId))
    simp only [receiveWebhook, hproc, hdelivered, processWebhook, hc.fresh, handleEvent, hc.event,
      htruthy, and_self, if_true, hvalue, hc.session, hc.clean, Bool.false_eq_true, if_false,
      processPaymentWebhook, hc.links, hc.data, deliveryOf, hpaid, hstorable]
    exact ⟨_, _, rfl⟩
  · cases hunfolded

theorem handle_of_settles {env : Environment} {db : Db} {request : PaymentRequest}
    {link : PaymentLink} {data : CompletePaymentRequest}
    (h : settles env db request = some (link, data)) :
    ∃ answer db', handle env request db = (.ok answer, db') := by
  cases request with
  | createPayment data => cases h
  | createLink settings data userId => cases h
  | complete accessToken data =>
    obtain ⟨link', hpayable, -⟩ := Option.map_eq_some_iff.mp h
    obtain ⟨paid, db', hok⟩ := completePayment_of_payable hpayable
    refine ⟨.link paid, db', ?_⟩
    rw [handle, hok]
    rfl
  | webhook processor body =>
    cases hcompletion : webhookCompletion db processor (body.getD (.obj [])) with
    | none =>
      rw [settles, hcompletion] at h
      cases h
    | some completion =>
      obtain ⟨accessToken, data'⟩ := completion
      rw [settles_webhook hcompletion] at h
      obtain ⟨link', hpayable, -⟩ := Option.map_eq_some_iff.mp h
      obtain ⟨answer, db', hok⟩ := receiveWebhook_of_payable hcompletion hpayable
      refine ⟨.webhook answer, db', ?_⟩
      rw [handle, hok]
      rfl

/-- Requests one after the other. -/
abbrev payments : Db → Environment × PaymentRequest → Option Db :=
  serve fun r => handle r.1 r.2

/-- One request of a run: it does what `Step` says, or it fails and settles nothing. -/
theorem payments_cases {db db' : Db} {r : Environment × PaymentRequest}
    (h : payments db r = some db') :
    (db' = db ∧ settles r.1 db r.2 = none) ∨ Step r.1 db r.2 db' := by
  have hdb : committed (handle r.1 r.2) db = db' := Option.some.inj h
  rcases committed_cases (handle r.1 r.2) db with ⟨error, db₁, herror, hsame⟩ | ⟨answer, db₁, hok, hnew⟩
  · refine Or.inl ⟨hdb.symm.trans hsame, ?_⟩
    cases hsettles : settles r.1 db r.2 with
    | none => rfl
    | some out =>
      obtain ⟨answer, db₂, hok⟩ := handle_of_settles hsettles
      cases (Prod.mk.inj (herror.symm.trans hok)).1
  · rw [← hdb, hnew]
    exact Or.inr (step_of_handle hok)

end LegalForge.Payments
