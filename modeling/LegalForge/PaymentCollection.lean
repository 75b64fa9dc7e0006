import LegalForge.PaymentRoutes
import LegalForge.PaymentSettlement

/-! What the settlement of links collects. A link asks for the whole total of its invoice, from
the moment it is opened; what has been paid meanwhile is not looked at. -/
namespace LegalForge.Payments
open Billing Transition UnitOfWork

def totalOf (db : Db) (i : Uuid) : Option ℤ :=
  (getInvoice db i).map Invoice.totalCents

/-- The rows of a run that starts without links and payments. -/
structure Books (db : Db) : Prop where
  total_nonneg : ∀ i n, totalOf db i = some n → 0 ≤ n
  /-- An active link asks for the total of its invoice. -/
  link_amount : ∀ link ∈ db.links, link.status = .active →
    ∀ n, totalOf db link.invoiceId = some n → link.amountCents = n
  payment_nonneg : ∀ p ∈ db.payments, 0 ≤ p.amountCents
  /-- Nothing is paid by a payment of nothing, unless nothing is asked. -/
  payment_pos : ∀ p ∈ db.payments, ∀ n, totalOf db p.invoiceId = some n → 0 < n →
    0 < p.amountCents

/-- The payments a request has added. -/
def newPayments (db db' : Db) : List Payment :=
  db'.payments.drop db.payments.length

/-- A link payment finds its invoice neither void nor covered, and is at most what is
outstanding. -/
def NeverOverCollects (db db' : Db) : Prop :=
  ∀ p ∈ newPayments db db', p.settles.isSome → ∃ invoice,
    getInvoice db p.invoiceId = some invoice ∧ invoice.status ≠ .void ∧
      paidSum db.payments invoice.id < invoice.totalCents ∧
        p.amountCents ≤ invoice.totalCents-paidSum db.payments invoice.id

/-- The link that is settled is the first thing paid on its invoice. -/
def SettlesFirst (env : Environment) (db : Db) (request : PaymentRequest) : Prop :=
  ∀ link data invoice, settles env db request = some (link, data) →
    getInvoice db link.invoiceId = some invoice →
      invoice.status ≠ .void ∧ 0 < invoice.totalCents ∧ ∀ p ∈ db.payments, p.invoiceId ≠ invoice.id

theorem books_of_fresh {db : Db} (htotal : ∀ invoice ∈ db.invoices, 0 ≤ invoice.totalCents)
    (hlinks : db.links = []) (hpayments : db.payments = []) : Books db where
  total_nonneg := by
    intro i n h
    obtain ⟨invoice, hinvoice, rfl⟩ := Option.map_eq_some_iff.mp h
    exact htotal invoice (Table.mem_of_find hinvoice)
  link_amount := by
    rw [hlinks]
    exact fun link hlink => absurd hlink List.not_mem_nil
  payment_nonneg := by
    rw [hpayments]
    exact fun p hp => absurd hp List.not_mem_nil
  payment_pos := by
    rw [hpayments]
    exact fun p hp => absurd hp List.not_mem_nil

/-- A payment may mark its invoice as paid; the totals stay. -/
theorem totalOf_recordPayment (db : Db) (p : Payment) (invoice : Invoice) :
    totalOf (recordPayment db p invoice) = totalOf db := by
  have hstatus : ∀ (db : Db) (j : Uuid), totalOf (db.setInvoiceStatus j .paid) = totalOf db := by
    intro db j
    funext i
    by_cases hij : i = j
    · rw [totalOf, totalOf, hij, getInvoice_setInvoiceStatus_self, Option.map_map]
      rfl
    · rw [totalOf, totalOf, getInvoice_setInvoiceStatus_of_ne _ _ hij]
  simp only [recordPayment]
  split_ifs
  · rw [hstatus]
    rfl
  · rfl

/-- The books after a row was added here or there. -/
theorem Books.of_rows {db db' : Db} (h : Books db) (htotal : totalOf db' = totalOf db)
    (hlinks : ∀ link ∈ db'.links, link.status = .active → link ∈ db.links ∨
      ∀ n, totalOf db link.invoiceId = some n → link.amountCents = n)
    (hpayments : ∀ p ∈ db'.payments, p ∈ db.payments ∨ (0 ≤ p.amountCents ∧
      ∀ n, totalOf db p.invoiceId = some n → 0 < n → 0 < p.amountCents)) : Books db' where
  total_nonneg := by
    rw [htotal]
    exact h.total_nonneg
  link_amount := by
    rw [htotal]
    intro link hlink hactive
    rcases hlinks link hlink hactive with hold | hnew
    · exact h.link_amount link hold hactive
    · exact hnew
  payment_nonneg := by
    intro p hp
    rcases hpayments p hp with hold | hnew
    · exact h.payment_nonneg p hold
    · exact hnew.1
  payment_pos := by
    rw [htotal]
    intro p hp
    rcases hpayments p hp with hold | hnew
    · exact h.payment_pos p hold
    · exact hnew.2

/-- A link that is written is no longer active; the others are as they were. -/
theorem active_of_setLink {db : Db} {link changed : PaymentLink} (hstatus : changed.status ≠ .active)
    (hmem : link ∈ (setLink db changed).links) (hactive : link.status = .active) :
    link ∈ db.links ∧ link.id ≠ changed.id := by
  obtain ⟨old, hold, hrow⟩ := Table.mem_alter.mp hmem
  split_ifs at hrow with hid
  · rw [← hrow] at hactive
    exact absurd hactive hstatus
  · obtain rfl := hrow
    exact ⟨hold, hid⟩

/-- A link that is settled is no longer active. -/
theorem active_of_settled {env : Environment} {db : Db} {link l : PaymentLink}
    {data : CompletePaymentRequest} {delivery : Option (PaymentProcessor × Option String)}
    {invoice : Invoice} (hmem : l ∈ (settledDb env db link data delivery invoice).links)
    (hactive : l.status = .active) : l ∈ db.links ∧ l.id ≠ link.id := by
  have hpaid : (paidLink link data env.now).status ≠ .active := fun hpaid => by cases hpaid
  rw [links_settledDb] at hmem
  have hother := active_of_setLink hpaid hmem hactive
  exact hother

/-- Nor is one that has expired. -/
theorem active_of_expired {db : Db} {link l : PaymentLink}
    (hmem : l ∈ (setLink db (expiredLink link)).links) (hactive : l.status = .active) :
    l ∈ db.links ∧ l.id ≠ link.id := by
  have hexpired : (expiredLink link).status ≠ .active := fun hexpired => by cases hexpired
  have hother := active_of_setLink hexpired hmem hactive
  exact hother

/-- Every request that is answered keeps the books. -/
theorem Books.step {env : Environment} {db db' : Db} {request : PaymentRequest} (h : Books db)
    (hstep : Step env db request db') : Books db' := by
  cases hstep with
  | @manual data invoice _ _ =>
    have hpos : 0 < (payment data env.rowId).amountCents := data.amount_ge
    refine h.of_rows (totalOf_recordPayment _ _ _) ?_ ?_
    · intro link hlink _
      rw [links_recordPayment] at hlink
      exact Or.inl hlink
    · intro p hp
      rw [payments_recordPayment] at hp
      rcases List.mem_append.mp hp with hold | hnew
      · exact Or.inl hold
      · rw [List.mem_singleton.mp hnew]
        exact Or.inr ⟨hpos.le, fun _ _ _ => hpos⟩
  | @opened settings data userId invoice expiresAt _ hinvoice _ _ =>
    refine h.of_rows rfl ?_ ?_
    · intro link hlink _
      rcases List.mem_append.mp hlink with hold | hnew
      · exact Or.inl hold
      · rw [List.mem_singleton.mp hnew]
        refine Or.inr fun n htotal => ?_
        have hid : invoice.id = data.invoiceId := Table.key_of_find hinvoice
        have hfound : getInvoice db invoice.id = some invoice := hid ▸ hinvoice
        obtain ⟨found, hsome, rfl⟩ := Option.map_eq_some_iff.mp htotal
        obtain rfl := Option.some.inj (hfound.symm.trans hsome)
        rfl
    · exact fun p hp => Or.inl hp
  | @settled link data invoice delivery events _ hmem hactive hinvoice =>
    have hamount : link.amountCents = invoice.totalCents :=
      h.link_amount link hmem hactive _ (congrArg (Option.map Invoice.totalCents) hinvoice)
    have htotal := h.total_nonneg link.invoiceId invoice.totalCents
      (congrArg (Option.map Invoice.totalCents) hinvoice)
    have hsame : totalOf (settledDb env db link data delivery invoice) = totalOf db :=
      totalOf_recordPayment _ _ _
    refine h.of_rows hsame ?_ ?_
    · exact fun l hl hl' => Or.inl (active_of_settled hl hl').1
    · intro p hp
      have hrows : p ∈ (settledDb env db link data delivery invoice).payments := hp
      rw [payments_settledDb] at hrows
      rcases List.mem_append.mp hrows with hold | hnew
      · exact Or.inl hold
      · obtain rfl := List.mem_singleton.mp hnew
        refine Or.inr ⟨?_, fun n hn hpos => ?_⟩
        · exact (hamount.trans_ge htotal)
        · have hsame : invoice.totalCents = n :=
            Option.some.inj ((congrArg (Option.map Invoice.totalCents) hinvoice).symm.trans hn)
          exact (hamount.trans hsame).trans_gt hpos
  | @expired link events _ _ _ =>
    refine h.of_rows rfl ?_ ?_
    · exact fun l hl hl' => Or.inl (active_of_expired hl hl').1
    · exact fun p hp => Or.inl hp
  | kept _ => exact h.of_rows rfl (fun l hl _ => Or.inl hl) (fun p hp => Or.inl hp)

theorem paidSum_nonneg {ps : List Payment} (h : ∀ p ∈ ps, 0 ≤ p.amountCents) (i : Uuid) :
    0 ≤ paidSum ps i := by
  apply List.sum_nonneg
  intro x hx
  obtain ⟨p, hp, rfl⟩ := List.mem_map.mp hx
  exact h p (List.mem_of_mem_filter hp)

/-- One payment of the invoice is at most what has been paid on it. -/
theorem amount_le_paidSum {ps : List Payment} (h : ∀ p ∈ ps, 0 ≤ p.amountCents) {p : Payment}
    (hp : p ∈ ps) : p.amountCents ≤ paidSum ps p.invoiceId := by
  apply List.single_le_sum
  · intro x hx
    obtain ⟨q, hq, rfl⟩ := List.mem_map.mp hx
    exact h q (List.mem_of_mem_filter hq)
  · exact List.mem_map_of_mem (List.mem_filter.mpr ⟨hp, decide_eq_true rfl⟩)

theorem paidSum_eq_zero {ps : List Payment} {i : Uuid} (h : ∀ p ∈ ps, p.invoiceId ≠ i) :
    paidSum ps i = 0 := by
  have hnone : ps.filter (fun p => p.invoiceId = i) = [] :=
    List.filter_eq_nil_iff.mpr fun p hp => by simpa using h p hp
  rw [paidSum, hnone]
  rfl

/-- A link that asks for the whole total may be settled exactly as the first payment. -/
theorem mayCollect_iff {db : Db} (h : Books db) {invoice : Invoice}
    (hinvoice : getInvoice db invoice.id = some invoice) :
    (paidSum db.payments invoice.id < invoice.totalCents ∧
        invoice.totalCents ≤ invoice.totalCents-paidSum db.payments invoice.id) ↔
      0 < invoice.totalCents ∧ ∀ p ∈ db.payments, p.invoiceId ≠ invoice.id := by
  have hsum := paidSum_nonneg h.payment_nonneg invoice.id
  constructor
  · rintro ⟨hlt, hle⟩
    have htotal : 0 < invoice.totalCents := by omega
    refine ⟨htotal, fun p hp hid => ?_⟩
    have hpos : 0 < p.amountCents := by
      apply h.payment_pos p hp invoice.totalCents _ htotal
      rw [hid, totalOf, hinvoice]
      rfl
    have hpaid := amount_le_paidSum h.payment_nonneg hp
    rw [hid] at hpaid
    omega
  · rintro ⟨htotal, hnone⟩
    rw [paidSum_eq_zero hnone]
    omega

theorem newPayments_append {db db' : Db} {ps : List Payment}
    (h : db'.payments = db.payments++ps) : newPayments db db' = ps := by
  rw [newPayments, h, List.drop_left]

/-- A request that adds no payment collects nothing. -/
theorem neverOverCollects_of_same {db db' : Db} (h : db'.payments = db.payments) :
    NeverOverCollects db db' := by
  have hnone : newPayments db db' = [] := newPayments_append (h.trans (List.append_nil _).symm)
  intro p hp
  rw [hnone] at hp
  cases hp

/-- One answered request. -/
theorem neverOverCollects_step_iff {env : Environment} {db db' : Db} {request : PaymentRequest}
    (h : Books db) (hstep : Step env db request db') :
    NeverOverCollects db db' ↔ SettlesFirst env db request := by
  have hvacuous : settles env db request = none → SettlesFirst env db request := by
    intro hnone link data invoice hsettles
    rw [hnone] at hsettles
    cases hsettles
  cases hstep with
  | @manual data invoice hnone _ =>
    refine iff_of_true (fun p hp hsome => ?_) (hvacuous hnone)
    rw [newPayments_append (payments_recordPayment _ _ _)] at hp
    rw [List.mem_singleton.mp hp] at hsome
    cases hsome
  | opened hnone _ _ _ => exact iff_of_true (neverOverCollects_of_same rfl) (hvacuous hnone)
  | expired hnone _ _ => exact iff_of_true (neverOverCollects_of_same rfl) (hvacuous hnone)
  | kept hnone => exact iff_of_true (neverOverCollects_of_same rfl) (hvacuous hnone)
  | @settled link data invoice delivery events hsettles hmem hactive hinvoice =>
    have hid : invoice.id = link.invoiceId := Table.key_of_find hinvoice
    have hamount : link.amountCents = invoice.totalCents :=
      h.link_amount link hmem hactive _ (congrArg (Option.map Invoice.totalCents) hinvoice)
    -- the one new payment is as large as its link
    have hmay := mayCollect_iff h (hid ▸ hinvoice)
    have hnew : newPayments db { settledDb env db link data delivery invoice with events := events } =
        [linkPayment link data env.today env.rowId delivery] :=
      newPayments_append (payments_settledDb env db link data delivery invoice)
    constructor
    · intro hcollects link' data' invoice' hsettles' hinvoice'
      obtain rfl := (Prod.mk.inj (Option.some.inj (hsettles.symm.trans hsettles'))).1
      obtain rfl := Option.some.inj (hinvoice.symm.trans hinvoice')
      obtain ⟨found, hfound, hvoid, hlt, hle⟩ := hcollects _ (hnew ▸ List.mem_singleton_self _) rfl
      obtain rfl := Option.some.inj (hinvoice.symm.trans hfound)
      exact ⟨hvoid, hmay.mp ⟨hlt, hamount ▸ hle⟩⟩
    · intro hfirst p hp _
      rw [hnew] at hp
      obtain rfl := List.mem_singleton.mp hp
      obtain ⟨hvoid, hfree⟩ := hfirst link data invoice hsettles hinvoice
      obtain ⟨hlt, hle⟩ := hmay.mpr hfree
      exact ⟨invoice, hinvoice, hvoid, hlt, hamount.trans_le hle⟩

/-- Along any run of requests, no link collects too much exactly when every link that is settled
is the first thing paid on its invoice. -/
theorem neverOverCollects_along_iff {db : Db} (h : Books db) (rs : List (Environment × PaymentRequest)) :
    Along payments (fun s _ s' => NeverOverCollects s s') db rs ↔
      Along payments (fun s r _ => SettlesFirst r.1 s r.2) db rs := by
  apply along_congr (I := Books)
  · intro s r s' hs hstep _
    rcases payments_cases hstep with ⟨rfl, -⟩ | hstep
    · exact hs
    · exact hs.step hstep
  · intro s r s' hs hstep
    rcases payments_cases hstep with ⟨rfl, hnone⟩ | hstep
    · refine iff_of_true (neverOverCollects_of_same rfl) fun _ _ _ hsettles _ => ?_
      rw [hnone] at hsettles
      cases hsettles
    · exact neverOverCollects_step_iff hs hstep
  · exact h

theorem books_sentDb : Books sentDb :=
  books_of_fresh (by decide) rfl rfl

def linkRequest : CreatePaymentLinkRequest where
  invoiceId := 1
  description_max := fun _ h => by cases h
  days_mem := fun _ h => by cases h

/-- Opening two links on one invoice and settling both. -/
def twoLinksRun : List (Environment × PaymentRequest) :=
  [(⟨morning, 0, 21, "a7", ""⟩, .createLink none linkRequest 8),
   (⟨morning, 0, 22, "b8", ""⟩, .createLink none linkRequest 8),
   (⟨morning, 0, 23, "", ""⟩, .complete "a7" {}), (⟨morning, 0, 24, "", ""⟩, .complete "b8" {})]

theorem neverOverCollects_along_twoLinksRun :
    Along payments (fun s _ s' => NeverOverCollects s s') sentDb twoLinksRun ↔
      Along payments (fun s r _ => SettlesFirst r.1 s r.2) sentDb twoLinksRun :=
  neverOverCollects_along_iff books_sentDb twoLinksRun

/-- The second link pays the invoice once more. -/
theorem not_neverOverCollects_twoLinksRun :
    ¬Along payments (fun s _ s' => NeverOverCollects s s') sentDb twoLinksRun := by
  intro h
  obtain ⟨-, h⟩ := h _ rfl
  obtain ⟨-, h⟩ := h _ rfl
  obtain ⟨-, h⟩ := h _ rfl
  obtain ⟨hcollects, -⟩ := h _ rfl
  obtain ⟨invoice, hinvoice, -, hlt, -⟩ := hcollects _ List.mem_cons_self rfl
  rw [← Option.some.inj hinvoice] at hlt
  revert hlt
  decide

end LegalForge.Payments
