import LegalForge.PaymentRequests

/-! How often a payment link is settled, over every interleaving of the requests
that touch it. -/
namespace LegalForge.Payments
open Billing Transition ReadCommitted

/-- A session writes to links that were active when it read them, and it records
a payment exactly when it pays one. -/
structure WritesOk (w : Writes) : Prop where
  link : ∀ loaded changed, w.link = some (loaded, changed) →
    loaded.status = .active ∧ changed.status ≠ .active
  paid : ∀ loaded changed, w.link = some (loaded, changed) → changed.status = .paid →
    w.payment.isSome = true
  payment : ∀ p, w.payment = some p → ∃ loaded changed, w.link = some (loaded, changed) ∧
    changed.status = .paid ∧ p.settles = some ⟨loaded.id, w.event.map deliveryOf⟩

def SessionOk : Session → Prop
  | .writing w => WritesOk w
  | .flushed w => WritesOk w
  | .ready w => WritesOk w
  | _ => True

theorem writesOk_event (event : Option WebhookEvent) : WritesOk { event := event } := by
  refine ⟨?_, ?_, ?_⟩
  · intro loaded changed h
    cases h
  · intro loaded changed h
    cases h
  · intro p h
    cases h

/-- Writing a status other than paid, without a payment. -/
theorem writesOk_unpaid {event : Option WebhookEvent} {loaded changed : PaymentLink}
    (hactive : loaded.status = .active) (hstatus : changed.status ≠ .active)
    (hpaid : changed.status ≠ .paid) : WritesOk { event := event, link := some (loaded, changed) } := by
  refine ⟨fun l c h => ?_, fun l c h hc => ?_, fun _ h => by cases h⟩
  · cases h
    exact ⟨hactive, hstatus⟩
  · cases h
    exact absurd hc hpaid

/-- Paying a link. -/
theorem writesOk_paid {event : Option WebhookEvent} {link : PaymentLink}
    (hactive : link.status = .active) (data : CompletePaymentRequest) (now : Datetime)
    (today : Date) (paymentId : Uuid) :
    WritesOk { event := event, link := some (link, paidLink link data now)
               payment := some (linkPayment link data today paymentId (event.map deliveryOf)) } := by
  refine ⟨fun l c h => ?_, fun _ _ _ _ => rfl, fun p h => ?_⟩
  · cases h
    exact ⟨hactive, nofun⟩
  · cases h
    exact ⟨link, _, rfl, rfl, rfl⟩

theorem writesOk_webhookWrites {event : WebhookEvent} {link : PaymentLink}
    (hactive : link.status = .active) (data : CompletePaymentRequest) (now : Datetime)
    (today : Date) (paymentId : Uuid) :
    WritesOk (webhookWrites event link data now today paymentId) := by
  unfold webhookWrites
  split_ifs
  · exact writesOk_unpaid hactive nofun nofun
  · exact writesOk_paid hactive data now today paymentId

theorem active_of_linksOfSession {db : Db} {sessionId : Json} {link : PaymentLink}
    (h : link ∈ linksOfSession db sessionId) : link.status = .active := by
  cases sessionId with
  | str s => exact (of_decide_eq_true (List.mem_filter.mp h).2).2
  | _ => cases h

theorem sessionOk_lookupLink {db : Db} {event : WebhookEvent} {now : Datetime} {today : Date}
    {paymentId : Uuid} {m : Session} (h : lookupLink db event now today paymentId = some m) :
    SessionOk m := by
  simp only [lookupLink] at h
  split at h
  · obtain rfl := Option.some.inj h
    exact writesOk_event _
  · split at h
    · obtain rfl := Option.some.inj h
      exact writesOk_event _
    · rename_i link hlink
      obtain ⟨data, -, rfl⟩ := Option.map_eq_some_iff.mp h
      have hmem : link ∈ linksOfSession db (sessionIdOf (event.payload.getD .null)) := by
        rw [hlink]
        exact List.mem_cons_self
      exact writesOk_webhookWrites (active_of_linksOfSession hmem) data now today paymentId
    · obtain rfl := Option.some.inj h
      exact writesOk_event _

theorem sessionOk_complete {db : Db} {m : Session} {accessToken : String}
    {data : CompletePaymentRequest} {now : Datetime} {today : Date} {paymentId : Uuid}
    (h : requestStmt db .idle (.complete accessToken data now today paymentId) = some m) :
    SessionOk m := by
  simp only [requestStmt] at h
  split at h
  · obtain rfl := Option.some.inj h
    trivial
  · split_ifs at h with hbad
    · obtain rfl := Option.some.inj h
      trivial
    · obtain rfl := Option.some.inj h
      exact writesOk_paid (not_not.mp (not_or.mp hbad).1) data now today paymentId

/-- Up to its `try` block a webhook writes no link. -/
theorem sessionOk_webhook {db : Db} {m : Session} {processor : PaymentProcessor}
    {eventType : String} {eventId : Option String} {payload : Option Json} {eventRowId : Uuid}
    (h : requestStmt db .idle (.webhook processor eventType eventId payload eventRowId) = some m) :
    SessionOk m := by
  simp only [requestStmt] at h
  split at h
  · split_ifs at h
    · obtain rfl := Option.some.inj h
      trivial
    · obtain rfl := Option.some.inj h
      exact writesOk_event _
  · obtain rfl := Option.some.inj h
    exact writesOk_event none
  · obtain rfl := Option.some.inj h
    trivial

theorem sessionOk_cancel {db : Db} {m : Session} {linkId : Uuid}
    (h : requestStmt db .idle (.cancel linkId) = some m) : SessionOk m := by
  simp only [requestStmt] at h
  split at h
  · obtain rfl := Option.some.inj h
    trivial
  · split_ifs at h with hbad
    · obtain rfl := Option.some.inj h
      trivial
    · obtain rfl := Option.some.inj h
      exact writesOk_unpaid (not_not.mp hbad) (fun h => by cases h) (fun h => by cases h)

theorem sessionOk_publicInfo {db : Db} {m : Session} {accessToken : String} {now : Datetime}
    (h : requestStmt db .idle (.publicInfo accessToken now) = some m) : SessionOk m := by
  simp only [requestStmt] at h
  split at h
  · obtain rfl := Option.some.inj h
    trivial
  · split_ifs at h with hexp
    · obtain rfl := Option.some.inj h
      exact writesOk_unpaid hexp.2 (fun h => by cases h) (fun h => by cases h)
    · obtain rfl := Option.some.inj h
      exact writesOk_event none

/-- The flush sends what the session has gathered and gathers nothing. -/
theorem sessionOk_flush {db : Db} {w : Writes} {m : Session} (hw : WritesOk w)
    (h : requestStmt db (.writing w) .flush = some m) : SessionOk m := by
  simp only [requestStmt] at h
  split at h
  · obtain rfl := Option.some.inj h
    exact hw
  · split_ifs at h
    · obtain rfl := Option.some.inj h
      exact hw
    · obtain rfl := Option.some.inj h
      trivial

/-- Every statement leaves its session in order. -/
theorem sessionOk_stmt {db : Db} {m m' : Session} {a : RequestStatement} (hm : SessionOk m)
    (h : requestStmt db m a = some m') : SessionOk m' := by
  cases m with
  | idle =>
    cases a with
    | complete accessToken data now today paymentId => exact sessionOk_complete h
    | webhook processor eventType eventId payload eventRowId => exact sessionOk_webhook h
    | cancel linkId => exact sessionOk_cancel h
    | publicInfo accessToken now => exact sessionOk_publicInfo h
    | _ => cases h
  | accepted event =>
    cases a with
    | lookup now today paymentId => exact sessionOk_lookupLink h
    | caught message =>
      obtain rfl := Option.some.inj h
      exact writesOk_event _
    | _ => cases h
  | writing w =>
    cases a with
    | flush => exact sessionOk_flush hm h
    | _ => cases h
  | flushed w =>
    cases a with
    | settle =>
      -- the invoice is marked; link and payment stay as they were flushed
      obtain rfl := Option.some.inj h
      exact ⟨hm.link, hm.paid, hm.payment⟩
    | _ => cases h
  | _ => cases h

/-- Sessions stay in order whatever the others do. -/
theorem paymentOutline : Outline paymentProgram (fun _ => True) (fun _ _ m => SessionOk m) where
  stmt := fun _ hK h => sessionOk_stmt hK h
  commit := by
    intro db rows m db' m' _ _ hpub
    cases m with
    | ready w =>
      obtain ⟨-, rfl⟩ := Prod.mk.inj (Option.some.inj hpub)
      exact ⟨trivial, trivial⟩
    | _ => cases hpub
  abort := by
    intro db rows m _ _
    cases m <;> trivial
  stable := fun _ _ _ _ h => h

/-! One link. -/

def linkStatus (db : Db) (linkId : Uuid) : Option PaymentLinkStatus :=
  (getPaymentLink db linkId).map (fun l => l.status)

/-- How many payments the link has. -/
def timesSettled (db : Db) (linkId : Uuid) : ℕ :=
  (db.payments.filter (fun p => p.settles.map Settlement.link = some linkId)).length

/-- The status the session writes to the link. -/
def writtenStatus (w : Writes) (linkId : Uuid) : Option PaymentLinkStatus :=
  match w.link with
  | some (loaded, changed) => if loaded.id = linkId then some changed.status else none
  | none => none

theorem linkStatus_applyWrites {w : Writes} (hw : WritesOk w) (db : Db) (linkId : Uuid) :
    linkStatus (applyWrites db w) linkId =
      (linkStatus db linkId).map (fun old => (writtenStatus w linkId).getD old) := by
  cases hlink : w.link with
  | none =>
    simp [linkStatus, getPaymentLink, applyWrites, updatedLinks, hlink, writtenStatus,
      Function.comp_def]
  | some pair =>
    obtain ⟨loaded, changed⟩ := pair
    -- the session changed the status, so its UPDATE writes that column
    obtain ⟨hactive, hne⟩ := hw.link loaded changed hlink
    have hstatus : ∀ current : PaymentLink, (ormUpdate loaded changed current).status =
        changed.status := by
      intro current
      have hdiff : changed.status ≠ loaded.status := hactive ▸ hne
      simp only [ormUpdate, changedColumn, if_neg hdiff]
    simp only [linkStatus, getPaymentLink, applyWrites, updatedLinks, hlink, writtenStatus]
    by_cases hid : loaded.id = linkId
    · subst hid
      rw [Table.find_alter_self (by intro x h; exact h), Option.map_map, Option.map_map]
      refine Option.map_congr fun current _ => ?_
      simp [hstatus]
    · rw [Table.find_alter_of_ne (by intro x h; exact h) (Ne.symm hid)]
      simp [hid, Function.comp_def]

theorem timesSettled_applyWrites {w : Writes} (hw : WritesOk w) (db : Db) (linkId : Uuid) :
    timesSettled (applyWrites db w) linkId =
      timesSettled db linkId + if writtenStatus w linkId = some .paid then 1 else 0 := by
  cases hpay : w.payment with
  | none =>
    have hwritten : writtenStatus w linkId ≠ some .paid := by
      unfold writtenStatus
      split
      · rename_i loaded changed hlink
        split_ifs
        · intro hpaid
          have hsome := hw.paid loaded changed hlink (Option.some.inj hpaid)
          rw [hpay] at hsome
          cases hsome
        · exact nofun
      · exact nofun
    simp [timesSettled, applyWrites, hpay, hwritten]
  | some p =>
    obtain ⟨loaded, changed, hlink, hpaid, hsettles⟩ := hw.payment p hpay
    by_cases hid : loaded.id = linkId <;>
      simp [timesSettled, applyWrites, hpay, hlink, hpaid, hsettles, hid, writtenStatus,
        List.filter_append]

/-- The link exists, with no payment while it is active and with one when it is paid. -/
structure LinkSound (linkId : Uuid) (db : Db) : Prop where
  found : ∃ status, linkStatus db linkId = some status
  unsettled : linkStatus db linkId = some .active → timesSettled db linkId = 0
  settled : linkStatus db linkId = some .paid → timesSettled db linkId = 1
  once : timesSettled db linkId ≤ 1

/-- A link that was just created. -/
theorem linkSound_of_new {db : Db} {linkId : Uuid} (hactive : linkStatus db linkId = some .active)
    (hnone : timesSettled db linkId = 0) : LinkSound linkId db where
  found := ⟨.active, hactive⟩
  unsettled := fun _ => hnone
  settled := fun h => by
    rw [hactive] at h
    cases h
  once := by omega

/-- A paid, expired or cancelled link stays as it is, and no link gets two payments. -/
def SettlesOnce (linkId : Uuid) (db db' : Db) : Prop :=
  (∀ status, linkStatus db linkId = some status → status ≠ .active →
    linkStatus db' linkId = some status) ∧ timesSettled db' linkId ≤ 1

/-- The link is active still, or expired or cancelled as the session wants it. -/
def Untouched (linkId : Uuid) (db : Db) (w : Writes) : Prop :=
  ∀ status, writtenStatus w linkId = some status →
    linkStatus db linkId = some .active ∨ (linkStatus db linkId = some status ∧ status ≠ .paid)

/-- A commit on an active link changes its status and adds the payment if that
status is paid. -/
theorem settlesOnce_of_active {linkId : Uuid} {db : Db} {w : Writes} (hw : WritesOk w)
    (hactive : linkStatus db linkId = some .active) (hnone : timesSettled db linkId = 0) :
    SettlesOnce linkId db (applyWrites db w) := by
  constructor
  · intro status hstatus hne
    rw [hactive] at hstatus
    exact absurd (Option.some.inj hstatus).symm hne
  · rw [timesSettled_applyWrites hw, hnone]
    split_ifs <;> omega

theorem settlesOnce_of_unwritten {linkId : Uuid} {db : Db} {w : Writes}
    (hsound : LinkSound linkId db) (hw : WritesOk w) (hnone : writtenStatus w linkId = none) :
    SettlesOnce linkId db (applyWrites db w) := by
  have hstatus := linkStatus_applyWrites hw db linkId
  have htimes := timesSettled_applyWrites hw db linkId
  rw [hnone] at hstatus htimes
  refine ⟨fun status h _ => ?_, ?_⟩
  · rw [hstatus, h]
    rfl
  · rw [htimes, if_neg nofun]
    exact hsound.once

/-- On a link that is not active any more, a commit may only write the status that
is there, and not the status paid. -/
theorem settlesOnce_of_closed_iff {linkId : Uuid} {db : Db} {w : Writes}
    (hsound : LinkSound linkId db) (hw : WritesOk w) {old new : PaymentLinkStatus}
    (hold : linkStatus db linkId = some old) (hclosed : old ≠ .active)
    (hwritten : writtenStatus w linkId = some new) :
    SettlesOnce linkId db (applyWrites db w) ↔ old = new ∧ new ≠ .paid := by
  have hstatus : linkStatus (applyWrites db w) linkId = some new := by
    rw [linkStatus_applyWrites hw, hold, hwritten]
    rfl
  have htimes := timesSettled_applyWrites hw db linkId
  rw [hwritten] at htimes
  constructor
  · rintro ⟨habsorb, honce⟩
    have hkept := habsorb old hold hclosed
    have hsame : old = new := Option.some.inj (hkept.symm.trans hstatus)
    refine ⟨hsame, fun hpaid => ?_⟩
    -- the second payment of a link that was paid already
    have hone : timesSettled db linkId = 1 := hsound.settled (by rw [hold, hsame, hpaid])
    rw [htimes, hpaid, if_pos rfl] at honce
    omega
  · rintro ⟨rfl, hne⟩
    refine ⟨fun status h _ => ?_, ?_⟩
    · rw [hstatus, ← h, hold]
    · rw [htimes, if_neg (fun hpaid => hne (Option.some.inj hpaid))]
      exact hsound.once

theorem settlesOnce_applyWrites_iff {linkId : Uuid} {db : Db} {w : Writes}
    (hsound : LinkSound linkId db) (hw : WritesOk w) :
    SettlesOnce linkId db (applyWrites db w) ↔ Untouched linkId db w := by
  obtain ⟨old, hold⟩ := hsound.found
  cases hwritten : writtenStatus w linkId with
  | none =>
    refine iff_of_true (settlesOnce_of_unwritten hsound hw hwritten) (fun _ h => ?_)
    rw [hwritten] at h
    cases h
  | some new =>
    have huntouched : Untouched linkId db w ↔ old = .active ∨ (old = new ∧ new ≠ .paid) := by
      simp [Untouched, hwritten, hold]
    rw [huntouched]
    by_cases hactive : old = .active
    · subst hactive
      exact iff_of_true (settlesOnce_of_active hw hold (hsound.unsettled hold)) (Or.inl rfl)
    · rw [settlesOnce_of_closed_iff hsound hw hold hactive hwritten, or_iff_right hactive]

/-- The link stays sound when a commit settles it once. -/
theorem linkSound_applyWrites {linkId : Uuid} {db : Db} {w : Writes}
    (hsound : LinkSound linkId db) (hw : WritesOk w)
    (honce : SettlesOnce linkId db (applyWrites db w)) : LinkSound linkId (applyWrites db w) := by
  obtain ⟨old, hold⟩ := hsound.found
  have hstatus := linkStatus_applyWrites hw db linkId
  have htimes := timesSettled_applyWrites hw db linkId
  rw [hold, Option.map_some] at hstatus
  refine ⟨⟨_, hstatus⟩, fun hactive => ?_, fun hpaid => ?_, honce.2⟩
  · -- no session writes the status active, so the link was active before
    have hwritten : writtenStatus w linkId ≠ some .paid := by
      intro h
      rw [hstatus, h] at hactive
      cases hactive
    have hbefore : old = .active := by
      by_contra hne
      have hkept := honce.1 old hold hne
      exact hne (Option.some.inj (hkept.symm.trans hactive))
    rw [htimes, if_neg hwritten, hsound.unsettled (hbefore ▸ hold)]
  · by_cases hbefore : old = .active
    · have hwritten : writtenStatus w linkId = some .paid := by
        rw [hstatus, hbefore] at hpaid
        cases hwrote : writtenStatus w linkId with
        | none =>
          rw [hwrote] at hpaid
          cases hpaid
        | some new =>
          rw [hwrote] at hpaid
          exact hpaid
      rw [htimes, if_pos hwritten, hsound.unsettled (hbefore ▸ hold)]
    · have hkept := honce.1 old hold hbefore
      have hold' : linkStatus db linkId = some .paid := by
        rw [hold, ← hkept, hpaid]
      have hone := hsound.settled hold'
      have hle := honce.2
      rw [htimes] at hle ⊢
      omega

variable {Tx : Type*} [DecidableEq Tx]

/-- A session that commits a status for the link finds the link untouched. -/
def FindsUntouched (linkId : Uuid) (s : PaymentState Tx) : PaymentLabel Tx → Prop
  | .commit t =>
    match s.session t with
    | .ready w => Untouched linkId s.committed w
    | _ => True
  | .stmt _ _ => True
  | .rollback _ => True

structure LinkInv (linkId : Uuid) (s : PaymentState Tx) : Prop where
  sessions : ∀ t, SessionOk (s.session t)
  sound : LinkSound linkId s.committed

theorem sessionOk_step {s s' : PaymentState Tx} {l : PaymentLabel Tx}
    (h : ∀ t, SessionOk (s.session t)) (hstep : step paymentProgram s l = some s') :
    ∀ t, SessionOk (s'.session t) :=
  (paymentOutline.holds_step ⟨trivial, h⟩ hstep).2

/-- A commit of a session publishes what the session holds. -/
theorem commit_cases {s s' : PaymentState Tx} {t : Tx}
    (hstep : step paymentProgram s (.commit t) = some s') :
    ∃ w, s.session t = .ready w ∧ s'.committed = applyWrites s.committed w := by
  obtain ⟨db, m, hpub, rfl⟩ := step_commit_eq_some.mp hstep
  cases hsess : s.session t with
  | ready w =>
    rw [hsess] at hpub
    obtain ⟨rfl, rfl⟩ := Prod.mk.inj (Option.some.inj hpub)
    exact ⟨w, rfl, rfl⟩
  | _ => rw [hsess] at hpub; cases hpub

omit [DecidableEq Tx] in
theorem writesOk_of_ready {s : PaymentState Tx} {t : Tx} {w : Writes}
    (h : ∀ t, SessionOk (s.session t)) (hsess : s.session t = .ready w) : WritesOk w := by
  have hok := h t
  rwa [hsess] at hok

theorem settlesOnce_refl {linkId : Uuid} {db : Db} (h : LinkSound linkId db) :
    SettlesOnce linkId db db :=
  ⟨fun _ hstatus _ => hstatus, h.once⟩

/-- One step settles the link once exactly when it finds it untouched. -/
theorem settlesOnce_step_iff {linkId : Uuid} {s s' : PaymentState Tx} {l : PaymentLabel Tx}
    (h : LinkInv linkId s) (hstep : step paymentProgram s l = some s') :
    SettlesOnce linkId s.committed s'.committed ↔ FindsUntouched linkId s l := by
  cases l with
  | commit t =>
    obtain ⟨w, hsess, hdb⟩ := commit_cases hstep
    rw [hdb, settlesOnce_applyWrites_iff h.sound (writesOk_of_ready h.sessions hsess)]
    simp only [FindsUntouched, hsess]
  | stmt t a =>
    rw [step_committed_eq hstep nofun]
    exact iff_of_true (settlesOnce_refl h.sound) trivial
  | rollback t =>
    rw [step_committed_eq hstep nofun]
    exact iff_of_true (settlesOnce_refl h.sound) trivial

theorem linkInv_step {linkId : Uuid} {s s' : PaymentState Tx} {l : PaymentLabel Tx}
    (h : LinkInv linkId s) (hstep : step paymentProgram s l = some s')
    (honce : SettlesOnce linkId s.committed s'.committed) : LinkInv linkId s' := by
  refine ⟨sessionOk_step h.sessions hstep, ?_⟩
  cases l with
  | commit t =>
    obtain ⟨w, hsess, hdb⟩ := commit_cases hstep
    rw [hdb] at honce ⊢
    exact linkSound_applyWrites h.sound (writesOk_of_ready h.sessions hsess) honce
  | stmt t a =>
    rw [step_committed_eq hstep nofun]
    exact h.sound
  | rollback t =>
    rw [step_committed_eq hstep nofun]
    exact h.sound

/-- Along any interleaving of requests a link is paid at most once and keeps its
final status, exactly when every session that commits a status for it finds it
as active as it was when the session read it. -/
theorem settlesOnce_along_iff {db : Db} {linkId : Uuid} (hsound : LinkSound linkId db)
    (ls : List (PaymentLabel Tx)) :
    Along (step paymentProgram) (fun s _ s' => SettlesOnce linkId s.committed s'.committed)
        (start db .idle) ls ↔
      Along (step paymentProgram) (fun s l _ => FindsUntouched linkId s l) (start db .idle) ls := by
  have hstart : LinkInv linkId (start db .idle : PaymentState Tx) :=
    ⟨fun _ => trivial, hsound⟩
  exact along_congr (I := fun s : PaymentState Tx => LinkInv linkId s)
    (fun _ _ _ h hstep honce => linkInv_step h hstep honce)
    (fun _ _ _ h hstep => settlesOnce_step_iff h hstep) hstart

/-- An invoice over 100.00 with an active link. -/
def linkedInvoice : Invoice :=
  { id := 1, invoiceNumber := some 1001, clientId := 4, matterId := 5, issuedDate := none
    dueDate := none, subtotalCents := 10000, totalCents := 10000, status := .sent, notes := none }

def openLink : PaymentLink :=
  { id := 2, invoiceId := 1, clientId := 4, matterId := some 5, createdBy := 9
    amountCents := 10000, description := none, accessToken := "5f0c", processor := .manual
    processorSessionId := some "cs_1", expiresAt := none, paidAt := none, paidAmountCents := none
    payerEmail := none, payerName := none, processorReference := none }

def linkedDb : Db := { Db.empty with invoices := [linkedInvoice], links := [openLink] }

def morning : Datetime :=
  { year := 2025, month := 11, day := 3, hour := 9, minute := 30, second := 15, microsecond := 200
    year_mem := by decide, month_mem := by decide, day_mem := by decide, hour_lt := by decide
    minute_lt := by decide, second_lt := by decide, microsecond_lt := by decide }

/-- Two requests that both read the link before either commits. -/
def twoPayers : List (PaymentLabel ℕ) :=
  [.stmt 0 (.complete "5f0c" {} morning 0 10), .stmt 1 (.complete "5f0c" {} morning 0 11),
   .stmt 0 .flush, .stmt 0 .settle, .commit 0, .stmt 1 .flush, .stmt 1 .settle, .commit 1]

theorem settlesOnce_along_twoPayers :
    Along (step paymentProgram) (fun s _ s' => SettlesOnce 2 s.committed s'.committed)
        (start linkedDb .idle) twoPayers ↔
      Along (step paymentProgram) (fun s l _ => FindsUntouched 2 s l) (start linkedDb .idle)
        twoPayers :=
  settlesOnce_along_iff (linkSound_of_new rfl rfl) twoPayers

/-- The link gets two payments. -/
theorem not_settlesOnce_twoPayers :
    ¬Along (step paymentProgram) (fun s _ s' => SettlesOnce 2 s.committed s'.committed)
      (start linkedDb .idle) twoPayers := by
  intro h
  have hlast := along_iff_prefix.mp h (twoPayers.take 7) (.commit 1) [] _ _ rfl rfl rfl
  have htimes := hlast.2
  revert htimes
  decide

end LegalForge.Payments
