import LegalForge.PaymentLinks
import LegalForge.TransitionRun

/-! When an invoice is marked as paid. Both payment paths add the new amount to a
sum that holds it already. -/
namespace LegalForge.Payments
open Billing Transition

/-- A call that may record a payment. -/
inductive PaymentCall where
  | createPayment (data : PaymentCreate) (paymentId : Uuid)
  /-- `kept` says whether the caller commits when the call raises, as the webhook does. -/
  | markPaymentLinkPaid (accessToken : String) (data : CompletePaymentRequest) (now : Datetime)
      (today : Date) (paymentId : Uuid) (delivery : Option (PaymentProcessor × Option String))
      (kept : Bool)

def paymentStep (db : Db) : PaymentCall → Db
  | .createPayment data paymentId =>
    match createPayment db data paymentId with
    | .ok out => out.2
    | .error _ => db
  | .markPaymentLinkPaid accessToken data now today paymentId delivery kept =>
    match markPaymentLinkPaid db accessToken data now today paymentId delivery with
    | (.ok _, db') => db'
    | (.error _, db') => if kept then db' else db

/-- The payment a call records, if its link can be paid and its invoice exists. -/
def recordedPayment (db : Db) : PaymentCall → Option Payment
  | .createPayment data paymentId =>
    if (getInvoice db data.invoiceId).isSome then some (payment data paymentId) else none
  | .markPaymentLinkPaid accessToken data now today paymentId delivery _ =>
    match getPaymentLinkByToken db accessToken with
    | none => none
    | some link =>
      if link.status = .active ∧ isExpired link now = false ∧
          (getInvoice db link.invoiceId).isSome then
        some (linkPayment link data today paymentId delivery)
      else none

/-- The invoice is paid exactly when its payments cover its total. -/
def PaidIffCovered (i : Uuid) (db : Db) : Prop :=
  ∀ invoice, getInvoice db i = some invoice →
    (invoice.status = .paid ↔ invoice.totalCents ≤ paidSum db.payments i)

/-- If the recorded payment leaves the invoice short of its total, then counting
it twice does so too. -/
def NotCoveredTwice (i : Uuid) (db : Db) (call : PaymentCall) : Prop :=
  ∀ p invoice, recordedPayment db call = some p → p.invoiceId = i → getInvoice db i = some invoice →
    paidSum db.payments i+p.amountCents < invoice.totalCents →
    paidSum db.payments i+p.amountCents+p.amountCents < invoice.totalCents

theorem getInvoice_recordPayment_of_ne (db : Db) (p : Payment) (invoice : Invoice) {i : Uuid}
    (h : i ≠ invoice.id) : getInvoice (recordPayment db p invoice) i = getInvoice db i := by
  simp only [recordPayment]
  split_ifs
  · exact getInvoice_setInvoiceStatus_of_ne _ _ h
  · rfl

theorem payments_recordPayment (db : Db) (p : Payment) (invoice : Invoice) :
    (recordPayment db p invoice).payments = db.payments++[p] := by
  simp only [recordPayment]
  split_ifs <;> rfl

theorem links_recordPayment (db : Db) (p : Payment) (invoice : Invoice) :
    (recordPayment db p invoice).links = db.links := by
  simp only [recordPayment]
  split_ifs <;> rfl

/-- The invoice of the payment afterwards. -/
theorem getInvoice_recordPayment_self {db : Db} {p : Payment} {invoice : Invoice} {i : Uuid}
    (h : getInvoice db i = some invoice) (hp : p.invoiceId = i) :
    ∃ invoice', getInvoice (recordPayment db p invoice) i = some invoice' ∧
      invoice'.totalCents = invoice.totalCents ∧
      (invoice'.status = .paid ↔ invoice.status = .paid ∨
        invoice.totalCents ≤ paidSum db.payments i+p.amountCents+p.amountCents) := by
  obtain rfl : invoice.id = i := Table.key_of_find h
  -- the sum includes the flushed payment, and the comparison adds it again
  have hcovers : coversInvoice (db.payments++[p]) p.amountCents invoice = true ↔
      invoice.totalCents ≤ paidSum db.payments invoice.id+p.amountCents+p.amountCents := by
    rw [coversInvoice, decide_eq_true_iff, paidSum_concat, if_pos hp]
  simp only [recordPayment]
  split_ifs with hc
  · have hsum := hcovers.mp hc
    refine ⟨{ invoice with status := .paid }, ?_, rfl, iff_of_true rfl (Or.inr hsum)⟩
    rw [getInvoice_setInvoiceStatus_self]
    exact congrArg (Option.map _) h
  · have hsum := mt hcovers.mpr hc
    exact ⟨invoice, h, rfl, (or_iff_left hsum).symm⟩

/-- A recorded payment keeps the invoice right exactly when it is not what covers
it only if counted twice. -/
theorem paidIffCovered_recordPayment {db : Db} {p : Payment} {invoice : Invoice} {i : Uuid}
    (h : getInvoice db i = some invoice) (hp : p.invoiceId = i) (hpos : 0 < p.amountCents)
    (hok : PaidIffCovered i db) : PaidIffCovered i (recordPayment db p invoice) ↔
      (paidSum db.payments i+p.amountCents < invoice.totalCents →
        paidSum db.payments i+p.amountCents+p.amountCents < invoice.totalCents) := by
  obtain ⟨invoice', h', htotal, hstatus⟩ := getInvoice_recordPayment_self h hp
  have hbefore := hok invoice h
  have hafter : PaidIffCovered i (recordPayment db p invoice) ↔
      (invoice'.status = .paid ↔
        invoice.totalCents ≤ paidSum db.payments i+p.amountCents) := by
    simp only [PaidIffCovered, h', Option.some.injEq, forall_eq', payments_recordPayment,
      paidSum_concat, if_pos hp, htotal]
  rw [hafter, hstatus, hbefore]
  omega

/-! One call. -/

/-- Tables that differ in one link at most, which keeps its key, invoice and amount. -/
structure LinkChanged (db db' : Db) : Prop where
  invoices : db'.invoices = db.invoices
  payments : db'.payments = db.payments
  links : db'.links = db.links ∨ ∃ link ∈ db.links, ∃ link' : PaymentLink,
    link'.id = link.id ∧ link'.invoiceId = link.invoiceId ∧
    link'.amountCents = link.amountCents ∧ db' = setLink db link'

theorem LinkChanged.refl (db : Db) : LinkChanged db db := ⟨rfl, rfl, Or.inl rfl⟩

theorem LinkChanged.set {db : Db} {link link' : PaymentLink} (hmem : link ∈ db.links)
    (hid : link'.id = link.id) (hinvoice : link'.invoiceId = link.invoiceId)
    (hamount : link'.amountCents = link.amountCents) : LinkChanged db (setLink db link') :=
  ⟨rfl, rfl, Or.inr ⟨link, hmem, link', hid, hinvoice, hamount, rfl⟩⟩

theorem LinkChanged.getInvoice_eq {db db' : Db} (h : LinkChanged db db') (i : Uuid) :
    getInvoice db' i = getInvoice db i := by
  rw [getInvoice, h.invoices]
  rfl

theorem LinkChanged.paidIffCovered_iff {db db' : Db} (h : LinkChanged db db') (i : Uuid) :
    PaidIffCovered i db' ↔ PaidIffCovered i db := by
  simp only [PaidIffCovered, h.getInvoice_eq, h.payments]

/-- What a call changes: it records its payment, on tables whose links it may have
updated, or it leaves payments and invoices alone. -/
def Effect (db : Db) (call : PaymentCall) : Prop :=
  ∃ db', LinkChanged db db' ∧
    match recordedPayment db call with
    | none => paymentStep db call = db'
    | some p => ∃ invoice, getInvoice db p.invoiceId = some invoice ∧
        paymentStep db call = recordPayment db' p invoice

theorem effect_createPayment (db : Db) (data : PaymentCreate) (paymentId : Uuid) :
    Effect db (.createPayment data paymentId) := by
  refine ⟨db, LinkChanged.refl db, ?_⟩
  cases hinv : getInvoice db data.invoiceId with
  | none => simp [recordedPayment, paymentStep, createPayment, hinv]
  | some invoice =>
    simp only [recordedPayment, paymentStep, createPayment, hinv, Option.isSome_some, if_true]
    exact ⟨invoice, hinv, rfl⟩

theorem effect_markPaymentLinkPaid (db : Db) (token : String) (data : CompletePaymentRequest)
    (now : Datetime) (today : Date) (paymentId : Uuid)
    (delivery : Option (PaymentProcessor × Option String)) (kept : Bool) :
    Effect db (.markPaymentLinkPaid token data now today paymentId delivery kept) := by
  cases hlink : getPaymentLinkByToken db token with
  | none =>
    refine ⟨db, LinkChanged.refl db, ?_⟩
    simp [recordedPayment, paymentStep, markPaymentLinkPaid, hlink]
  | some link =>
    have hmem : link ∈ db.links := Table.mem_of_find hlink
    by_cases hactive : link.status = .active
    · cases hexp : isExpired link now with
      | true =>
        cases kept with
        | true =>
          -- the webhook caught the exception, so the expired status is committed
          refine ⟨setLink db (expiredLink link), LinkChanged.set hmem rfl rfl rfl, ?_⟩
          simp [recordedPayment, paymentStep, markPaymentLinkPaid, hlink, hactive, hexp]
        | false =>
          refine ⟨db, LinkChanged.refl db, ?_⟩
          simp [recordedPayment, paymentStep, markPaymentLinkPaid, hlink, hactive, hexp]
      | false =>
        cases hinv : getInvoice db link.invoiceId with
        | none =>
          refine ⟨db, LinkChanged.refl db, ?_⟩
          simp [recordedPayment, paymentStep, markPaymentLinkPaid, hlink, hactive, hexp, hinv]
        | some invoice =>
          refine ⟨setLink db (paidLink link data now), LinkChanged.set hmem rfl rfl rfl, ?_⟩
          simp only [recordedPayment, paymentStep, markPaymentLinkPaid, hlink, hactive, hexp,
            hinv, Option.isSome_some, and_self, if_true, ne_eq, not_true_eq_false, if_false,
            Bool.false_eq_true]
          exact ⟨invoice, hinv, rfl⟩
    · refine ⟨db, LinkChanged.refl db, ?_⟩
      simp [recordedPayment, paymentStep, markPaymentLinkPaid, hlink, hactive]

theorem paymentStep_effect (db : Db) (call : PaymentCall) : Effect db call := by
  cases call with
  | createPayment data paymentId => exact effect_createPayment db data paymentId
  | markPaymentLinkPaid token data now today paymentId delivery kept =>
    exact effect_markPaymentLinkPaid db token data now today paymentId delivery kept

/-- Every link on the invoice asks for a positive amount. -/
def LinksPositive (i : Uuid) (db : Db) : Prop :=
  ∀ link ∈ db.links, link.invoiceId = i → 0 < link.amountCents

theorem recordedPayment_pos {db : Db} {call : PaymentCall} {p : Payment} {i : Uuid}
    (hlinks : LinksPositive i db) (h : recordedPayment db call = some p) (hp : p.invoiceId = i) :
    0 < p.amountCents := by
  cases call with
  | createPayment data paymentId =>
    simp only [recordedPayment, Option.ite_none_right_eq_some, Option.some.injEq] at h
    rw [← h.2]
    exact data.amount_ge
  | markPaymentLinkPaid token data now today paymentId delivery kept =>
    cases hlink : getPaymentLinkByToken db token with
    | none => simp [recordedPayment, hlink] at h
    | some link =>
      simp only [recordedPayment, hlink, Option.ite_none_right_eq_some, Option.some.injEq] at h
      rw [← h.2] at hp ⊢
      exact hlinks link (Table.mem_of_find hlink) hp

theorem linksPositive_step {db : Db} (call : PaymentCall) {i : Uuid} (h : LinksPositive i db) :
    LinksPositive i (paymentStep db call) := by
  obtain ⟨db', ⟨-, -, hlinks⟩, hstep⟩ := paymentStep_effect db call
  have hdb' : LinksPositive i db' := by
    rcases hlinks with hsame | ⟨link, hmem, link', -, hinvoice, hamount, hset⟩
    · rw [LinksPositive, hsame]
      exact h
    · rw [hset]
      intro l hl hli
      obtain ⟨old, hold, rfl⟩ := Table.mem_alter.mp hl
      split_ifs at hli ⊢
      · rw [hamount]
        exact h link hmem (hinvoice ▸ hli)
      · exact h old hold hli
  cases hrec : recordedPayment db call with
  | none =>
    rw [hrec] at hstep
    rw [hstep]
    exact hdb'
  | some p =>
    rw [hrec] at hstep
    obtain ⟨invoice, -, hdb⟩ := hstep
    rw [hdb, LinksPositive, links_recordPayment]
    exact hdb'

/-- A call that records no payment on the invoice covers it by nothing. -/
theorem notCoveredTwice_of_ne {db : Db} {call : PaymentCall} {i : Uuid}
    (h : ∀ p, recordedPayment db call = some p → p.invoiceId ≠ i) : NotCoveredTwice i db call :=
  fun p _ hp hpi => absurd hpi (h p hp)

theorem notCoveredTwice_iff {db : Db} {call : PaymentCall} {i : Uuid} {p : Payment}
    {invoice : Invoice} (hrec : recordedPayment db call = some p) (hp : p.invoiceId = i)
    (h : getInvoice db i = some invoice) : NotCoveredTwice i db call ↔
      (paidSum db.payments i+p.amountCents < invoice.totalCents →
        paidSum db.payments i+p.amountCents+p.amountCents < invoice.totalCents) := by
  constructor
  · exact fun hcall => hcall p invoice hrec hp h
  · intro hshort q inv hq _ hinv
    obtain rfl := Option.some.inj (hrec.symm.trans hq)
    obtain rfl := Option.some.inj (h.symm.trans hinv)
    exact hshort

/-- The invoice stays, with its total, and is right after the call exactly when
the call does not cover it by counting a payment twice. -/
theorem paymentStep_spec {db : Db} (call : PaymentCall) {i : Uuid} {invoice : Invoice}
    (h : getInvoice db i = some invoice) (hlinks : LinksPositive i db) :
    (∃ invoice', getInvoice (paymentStep db call) i = some invoice' ∧
      invoice'.totalCents = invoice.totalCents) ∧
    (PaidIffCovered i db →
      (PaidIffCovered i (paymentStep db call) ↔ NotCoveredTwice i db call)) := by
  obtain ⟨db', hchanged, hstep⟩ := paymentStep_effect db call
  have hget := hchanged.getInvoice_eq i
  have hsame := hchanged.paidIffCovered_iff i
  cases hrec : recordedPayment db call with
  | none =>
    rw [hrec] at hstep
    rw [hstep]
    refine ⟨⟨invoice, hget.trans h, rfl⟩, fun hok => iff_of_true (hsame.mpr hok) ?_⟩
    apply notCoveredTwice_of_ne
    intro p hp
    rw [hrec] at hp
    cases hp
  | some p =>
    rw [hrec] at hstep
    obtain ⟨inv, hinv, hdb⟩ := hstep
    rw [hdb]
    by_cases hp : p.invoiceId = i
    · rw [hp] at hinv
      obtain rfl := Option.some.inj (h.symm.trans hinv)
      have hinv' : getInvoice db' i = some invoice := hget.trans h
      obtain ⟨invoice', h', htotal, -⟩ := getInvoice_recordPayment_self hinv' hp
      refine ⟨⟨invoice', h', htotal⟩, fun hok => ?_⟩
      rw [paidIffCovered_recordPayment hinv' hp (recordedPayment_pos hlinks hrec hp)
        (hsame.mpr hok), hchanged.payments, notCoveredTwice_iff hrec hp h]
    · -- the payment is on another invoice
      have hne : i ≠ inv.id := fun heq => hp ((Table.key_of_find hinv).symm.trans heq.symm)
      have hget' : getInvoice (recordPayment db' p inv) i = getInvoice db i := by
        rw [getInvoice_recordPayment_of_ne db' p inv hne, hget]
      refine ⟨⟨invoice, hget'.trans h, rfl⟩, fun hok => iff_of_true ?_ ?_⟩
      · intro inv' hinv'
        rw [payments_recordPayment, paidSum_concat, if_neg hp, add_zero, hchanged.payments]
        exact hok inv' (hget'.symm.trans hinv')
      · apply notCoveredTwice_of_ne
        intro q hq
        obtain rfl := Option.some.inj (hrec.symm.trans hq)
        exact hp

/-- On an invoice that starts as sent, the status is paid exactly when the payments
cover the total, after every call of a run, if and only if they do not cover it
at the start and no call covers it by counting its payment twice. -/
theorem paidIffCovered_throughout_iff {db : Db} {i : Uuid} {invoice : Invoice}
    (h : getInvoice db i = some invoice) (hsent : invoice.status = .sent)
    (hlinks : LinksPositive i db) (calls : List PaymentCall) :
    Throughout (total paymentStep) (PaidIffCovered i) db calls ↔
      paidSum db.payments i < invoice.totalCents ∧
        Along (total paymentStep) (fun db call _ => NotCoveredTwice i db call) db calls := by
  have hkeep : ∀ db call db', ((∃ inv, getInvoice db i = some inv) ∧ LinksPositive i db) →
      total paymentStep db call = some db' →
      (∃ inv, getInvoice db' i = some inv) ∧ LinksPositive i db' := by
    rintro db call db' ⟨⟨inv, hinv⟩, hpos⟩ hstep
    obtain rfl := Option.some.inj hstep
    obtain ⟨⟨inv', hinv', -⟩, -⟩ := paymentStep_spec call hinv hpos
    exact ⟨⟨inv', hinv'⟩, linksPositive_step call hpos⟩
  have hiff := throughout_iff_along (P := PaidIffCovered i) (C := NotCoveredTwice i) hkeep
    (fun db call db' hI hok hstep => by
      obtain ⟨⟨inv, hinv⟩, hpos⟩ := hI
      obtain rfl := Option.some.inj hstep
      exact (paymentStep_spec call hinv hpos).2 hok) ⟨⟨invoice, h⟩, hlinks⟩ calls
  have hstart : PaidIffCovered i db ↔ paidSum db.payments i < invoice.totalCents := by
    simp only [PaidIffCovered, h, Option.some.injEq, forall_eq', hsent, reduceCtorEq, false_iff,
      not_le]
  rw [hiff, hstart]

/-- An invoice over 100.00 that was sent. -/
def sentInvoice : Invoice :=
  { id := 1, invoiceNumber := some 1001, clientId := 4, matterId := 5, issuedDate := none
    dueDate := none, subtotalCents := 10000, totalCents := 10000, status := .sent, notes := none }

def sentDb : Db := { Db.empty with invoices := [sentInvoice] }

/-- A payment of half the total. -/
def halfPayment : PaymentCall :=
  .createPayment ⟨1, 5000, 0, .check, none, none, by decide⟩ 9

theorem paidIffCovered_throughout_halfPayment :
    Throughout (total paymentStep) (PaidIffCovered 1) sentDb [halfPayment] ↔
      paidSum sentDb.payments 1 < sentInvoice.totalCents ∧
        Along (total paymentStep) (fun db call _ => NotCoveredTwice 1 db call) sentDb
          [halfPayment] :=
  have hsent : getInvoice sentDb 1 = some sentInvoice := rfl
  paidIffCovered_throughout_iff hsent rfl (fun _ h => absurd h List.not_mem_nil) [halfPayment]

/-- The half payment marks the whole invoice as paid. -/
theorem not_paidIffCovered_halfPayment :
    ¬Throughout (total paymentStep) (PaidIffCovered 1) sentDb [halfPayment] := by
  intro h
  have hrun : exec (total paymentStep) sentDb [halfPayment] =
      some (paymentStep sentDb halfPayment) := rfl
  have hpaid : getInvoice (paymentStep sentDb halfPayment) 1 =
      some { sentInvoice with status := .paid } := by rfl
  have hcovered := (h.final hrun _ hpaid).mp rfl
  revert hcovered
  decide

end LegalForge.Payments
