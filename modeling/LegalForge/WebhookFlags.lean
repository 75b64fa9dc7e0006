import LegalForge.PaymentRoutes
import LegalForge.PaymentSettlement

/-! The flag `processed` of a stored webhook event, against what the delivery has done. It is set
when `_process_payment_webhook` returns, whichever way. -/
namespace LegalForge.Payments
open Billing Transition UnitOfWork

/-- A link that was opened under the session id of the delivery. -/
def MatchedBy (payload : Json) (link : PaymentLink) : Prop :=
  ∃ sessionId, sessionIdOf payload = .str sessionId ∧ sessionId ≠ "" ∧
    link.processorSessionId = some sessionId

/-- The flag of the stored event says what has become of the links and invoices. -/
structure FlagHonest (db db' : Db) (payload : Json) (stored : WebhookEvent) : Prop where
  processed : stored.processed = true → ∃ link ∈ db'.links, MatchedBy payload link ∧ link.status = .paid
  unprocessed : stored.processed = false → db'.links = db.links ∧ db'.invoices = db.invoices

/-- So it does for a delivery, if the delivery is stored. -/
def DeliveryHonest (env : Environment) (db : Db) (processor : String) (body : Option Json) : Prop :=
  ∀ answer stored db', receiveWebhook env processor body db = (.ok answer, db') →
    db'.events = db.events++[stored] → FlagHonest db db' (body.getD (.obj [])) stored

/-- With no active link of the session there has to be a paid one, and the one active link has not
expired. Several active links, and fields the schema refuses, are written down as errors. -/
def SessionSettles (env : Environment) (db : Db) (payload : Json) (sessionId : String) : Prop :=
  (linksOfSession db (.str sessionId) = [] →
    ∃ link ∈ db.links, link.processorSessionId = some sessionId ∧ link.status = .paid) ∧
  ∀ link, linksOfSession db (.str sessionId) = [link] → (completeData payload).isSome →
    isExpired link env.now = false

/-- A payment event has a session id, and a link to settle or one that is settled. -/
def EventSettles (env : Environment) (db : Db) (eventType : String) (payload : Json) : Prop :=
  eventType ∈ paymentEvents → payload.truthy = true → (sessionIdOf payload).truthy = true ∧
    ∀ sessionId, sessionIdOf payload = .str sessionId → sessionId.contains '\x00' = false →
      SessionSettles env db payload sessionId

/-- A delivery that is accepted, and no duplicate, settles a link if it is a payment event. -/
def DeliverySettles (env : Environment) (db : Db) (processor : String) (payload : Json) : Prop :=
  ∀ proc eventType eventId, processorOfValue processor = some proc →
    deliveredEvent payload = some (eventType, eventId) → duplicates db proc eventId = [] →
      EventSettles env db eventType payload

section
variable {env : Environment} {db db' : Db} {payload : Json} {event stored : WebhookEvent}
  {sessionId : String} {link : PaymentLink}

/-- Nothing has been written, and the flag is not set. -/
theorem flagHonest_unchanged (h : stored.processed = false) : FlagHonest db db payload stored where
  processed hset := by
    rw [h] at hset
    cases hset
  unprocessed _ := ⟨rfl, rfl⟩

theorem mem_linksOfSession_iff : link ∈ linksOfSession db (.str sessionId) ↔
    link ∈ db.links ∧ link.processorSessionId = some sessionId ∧ link.status = .active := by
  rw [linksOfSession, List.mem_filter, decide_eq_true_eq]

theorem mem_setLink_self (hmem : link ∈ db.links) {changed : PaymentLink}
    (hid : changed.id = link.id) : changed ∈ (setLink db changed).links :=
  Table.mem_alter.mpr ⟨link, hmem, if_pos hid.symm⟩

/-- An active link that expires is a change. -/
theorem setLink_expired_ne (hmem : link ∈ db.links) (hactive : link.status = .active) :
    (setLink db (expiredLink link)).links ≠ db.links := by
  intro hsame
  have hwritten : link ∈ (setLink db (expiredLink link)).links := by
    rw [hsame]
    exact hmem
  obtain ⟨l, -, hl⟩ := Table.mem_alter.mp hwritten
  split_ifs at hl with hid
  · rw [← hl] at hactive
    cases hactive
  · rw [hl] at hid
    exact hid rfl

theorem events_recordPayment (db : Db) (p : Payment) (invoice : Invoice) :
    (recordPayment db p invoice).events = db.events := by
  simp only [recordPayment]
  split_ifs <;> rfl

theorem events_handleEvent (h : handleEvent env event payload db = .ok (stored, db')) :
    db'.events = db.events := by
  rcases handleEvent_ok h with ⟨sessionId, -, -, -, -, hprocess⟩ | ⟨rfl, -⟩
  · rcases processPaymentWebhook_ok hprocess with
      ⟨_, _, _, _, _, -, -, -, -, rfl⟩ | ⟨-, rfl | ⟨_, -, -, rfl⟩⟩
    · exact events_recordPayment _ _ _
    · rfl
    · rfl
  · rfl

/-! One link of the session. -/

/-- The link is settled, or the delivery is not stored. -/
theorem flagHonest_settled {data : CompletePaymentRequest} {invoice : Invoice}
    {delivery : Option (PaymentProcessor × Option String)} (hmem : link ∈ db.links)
    (hsession : sessionIdOf payload = .str sessionId) (hne : sessionId ≠ "")
    (hlink : link.processorSessionId = some sessionId) (h : stored.processed = true) :
    FlagHonest db (settledDb env db link data delivery invoice) payload stored where
  processed _ := by
    refine ⟨paidLink link data env.now, ?_, ⟨sessionId, hsession, hne, hlink⟩, rfl⟩
    rw [links_settledDb]
    exact mem_setLink_self hmem rfl
  unprocessed hunset := by
    rw [h] at hunset
    cases hunset

/-- What the `try` block does with the one active link of the session. -/
theorem processPaymentWebhook_one (htokens : (db.links.map PaymentLink.accessToken).Nodup)
    (hlinks : linksOfSession db (.str sessionId) = [link]) :
    processPaymentWebhook env event payload sessionId db =
      match completeData payload with
      | none => .ok ({ event with errorMessage := some env.message }, db)
      | some data =>
        if isExpired link env.now then
          .ok ({ event with errorMessage := some PaymentError.linkExpired.message },
            setLink db (expiredLink link))
        else
          match getInvoice db link.invoiceId with
          | none => .error .internal
          | some invoice =>
            if storable data then
              .ok ({ event with processed := true },
                settledDb env db link data (some (deliveryOf event)) invoice)
            else .error .internal := by
  obtain ⟨hmem, -, hactive⟩ := mem_linksOfSession_iff.mp (hlinks ▸ List.mem_singleton_self link)
  have hfind : getPaymentLinkByToken db link.accessToken = some link :=
    (Table.find_eq_some_iff htokens).mpr ⟨hmem, rfl⟩
  unfold processPaymentWebhook
  rw [hlinks]
  dsimp only
  cases completeData payload with
  | none => rfl
  | some data =>
    dsimp only
    unfold markPaymentLinkPaid
    rw [hfind]
    dsimp only
    rw [if_neg (not_not.mpr hactive)]
    cases isExpired link env.now with
    | true => rfl
    | false =>
      cases getInvoice db link.invoiceId with
      | none => rfl
      | some invoice => rfl

/-- The event as it is before the `try` block: its flag is not set. -/
def EventHonest (env : Environment) (db : Db) (event : WebhookEvent) (payload : Json) : Prop :=
  ∀ stored db', handleEvent env event payload db = .ok (stored, db') →
    FlagHonest db db' payload stored

theorem processed_honest_iff (hsession : sessionIdOf payload = .str sessionId)
    (hne : sessionId ≠ "") (h : stored.processed = true) : FlagHonest db db payload stored ↔
      ∃ link ∈ db.links, link.processorSessionId = some sessionId ∧ link.status = .paid := by
  constructor
  · intro hhonest
    obtain ⟨link, hmem, ⟨other, hother, -, hlink⟩, hpaid⟩ := hhonest.processed h
    obtain rfl : sessionId = other := Json.str.inj (hsession.symm.trans hother)
    exact ⟨link, hmem, hlink, hpaid⟩
  · rintro ⟨link, hmem, hlink, hpaid⟩
    constructor
    · intro _
      exact ⟨link, hmem, ⟨sessionId, hsession, hne, hlink⟩, hpaid⟩
    · intro hunset
      rw [h] at hunset
      cases hunset

theorem honest_ok_iff (stored : WebhookEvent) (db' : Db) :
    (∀ out db'', (.ok (stored, db') : Except HttpError (WebhookEvent × Db)) = .ok (out, db'') →
      FlagHonest db db'' payload out) ↔ FlagHonest db db' payload stored := by
  constructor
  · intro h
    exact h stored db' rfl
  · intro h out db'' hok
    obtain ⟨rfl, rfl⟩ := Prod.mk.inj (Except.ok.inj hok)
    exact h

/-- With one active link everything depends on whether it has expired. -/
theorem oneLinkHonest_iff (htokens : (db.links.map PaymentLink.accessToken).Nodup)
    (hunset : event.processed = false) (hsession : sessionIdOf payload = .str sessionId)
    (hne : sessionId ≠ "")
    (hlinks : linksOfSession db (.str sessionId) = [link]) :
    (∀ stored db', processPaymentWebhook env event payload sessionId db = .ok (stored, db') →
      FlagHonest db db' payload stored) ↔
      ((completeData payload).isSome → isExpired link env.now = false) := by
  obtain ⟨hmem, hlink, hactive⟩ := mem_linksOfSession_iff.mp (hlinks ▸ List.mem_singleton_self link)
  rw [processPaymentWebhook_one htokens hlinks]
  cases completeData payload with
  | none =>
    constructor
    · intro _ hsome
      cases hsome
    · intro _ stored db' hok
      obtain ⟨rfl, rfl⟩ := Prod.mk.inj (Except.ok.inj hok)
      exact flagHonest_unchanged hunset
  | some data =>
    dsimp only
    cases hexpired : isExpired link env.now with
    | true =>
      constructor
      · intro h
        -- the link is written as expired, and the flag says that nothing was
        have hhonest := h _ _ rfl
        exact absurd (hhonest.unprocessed hunset).1 (setLink_expired_ne hmem hactive)
      · intro h
        cases h rfl
    | false =>
      constructor
      · intro _ _
        rfl
      · intro _ stored db' hok
        simp only [Bool.false_eq_true, if_false] at hok
        split at hok
        · cases hok
        · split_ifs at hok
          obtain ⟨rfl, rfl⟩ := Prod.mk.inj (Except.ok.inj hok)
          exact flagHonest_settled hmem hsession hne hlink rfl

/-- A session id that is a text the database can look for. -/
theorem sessionHonest_iff (htokens : (db.links.map PaymentLink.accessToken).Nodup)
    (hunset : event.processed = false) (hsession : sessionIdOf payload = .str sessionId)
    (hne : sessionId ≠ "") :
    (∀ stored db', processPaymentWebhook env event payload sessionId db = .ok (stored, db') →
      FlagHonest db db' payload stored) ↔ SessionSettles env db payload sessionId := by
  unfold SessionSettles
  cases hlinks : linksOfSession db (.str sessionId) with
  -- no link has the session, and the event counts as processed
  | nil =>
    have hprocess : processPaymentWebhook env event payload sessionId db =
        .ok ({ event with processed := true }, db) := by
      unfold processPaymentWebhook
      rw [hlinks]
    rw [hprocess, honest_ok_iff, processed_honest_iff hsession hne rfl]
    constructor
    · intro hpaid
      refine ⟨fun _ => hpaid, ?_⟩
      intro link hnone
      cases hnone
    · intro h
      exact h.1 rfl
  | cons link links =>
    cases links with
    | nil =>
      rw [oneLinkHonest_iff htokens hunset hsession hne hlinks]
      constructor
      · intro h
        constructor
        · intro hnone
          cases hnone
        · intro found hone
          obtain rfl := (List.cons.inj hone).1
          exact h
      · intro h
        exact h.2 link rfl
    -- several have it, and the query raises
    | cons link' links =>
      have hprocess : processPaymentWebhook env event payload sessionId db =
          .ok ({ event with
            errorMessage := some "Multiple rows were found when one or none was required" }, db) := by
        unfold processPaymentWebhook
        rw [hlinks]
      rw [hprocess, honest_ok_iff]
      refine iff_of_true (flagHonest_unchanged hunset) ⟨?_, ?_⟩
      · intro hnone
        cases hnone
      · intro found hone
        cases hone

/-- Without a session id there is no link the flag could stand for. -/
theorem not_flagHonest_of_not_truthy (hsession : (sessionIdOf payload).truthy = false)
    (h : stored.processed = true) : ¬FlagHonest db db' payload stored := by
  intro hhonest
  obtain ⟨link, -, ⟨sessionId, hstr, hne, -⟩, -⟩ := hhonest.processed h
  rw [hstr] at hsession
  exact hne (by simpa [Json.truthy] using hsession)

/-- A session id that is a text. One with a NUL is refused, and nothing is stored. -/
theorem textHonest_iff (htokens : (db.links.map PaymentLink.accessToken).Nodup)
    (hunset : event.processed = false) (hsession : sessionIdOf payload = .str sessionId)
    (hne : sessionId ≠ "") :
    (∀ stored db', (if sessionId.contains '\x00' then .error .internal
      else processPaymentWebhook env event payload sessionId db) = .ok (stored, db') →
        FlagHonest db db' payload stored) ↔
      ∀ other, Json.str sessionId = .str other → other.contains '\x00' = false →
        SessionSettles env db payload other := by
  cases hclean : sessionId.contains '\x00' with
  | true =>
    constructor
    · intro _ other hother hother'
      rw [← Json.str.inj hother, hclean] at hother'
      cases hother'
    · intro _ stored db' hok
      cases hok
  | false =>
    rw [if_neg Bool.false_ne_true, sessionHonest_iff htokens hunset hsession hne]
    constructor
    · intro h other hother _
      rw [← Json.str.inj hother]
      exact h
    · intro h
      exact h sessionId rfl hclean

theorem eventHonest_iff (htokens : (db.links.map PaymentLink.accessToken).Nodup)
    (hunset : event.processed = false) :
    EventHonest env db event payload ↔ EventSettles env db event.eventType payload := by
  unfold EventHonest EventSettles handleEvent
  by_cases hevent : event.eventType ∈ paymentEvents ∧ payload.truthy = true
  · rw [if_pos hevent, forall_prop_of_true hevent.1, forall_prop_of_true hevent.2]
    cases htruthy : (sessionIdOf payload).truthy with
    | false =>
      rw [if_neg Bool.false_ne_true, honest_ok_iff]
      refine iff_of_false (not_flagHonest_of_not_truthy htruthy rfl) ?_
      intro h
      cases h.1
    | true =>
      rw [if_pos rfl, eq_self_iff_true, true_and]
      cases hsession : sessionIdOf payload with
      | str sessionId =>
        have hne : sessionId ≠ "" := by
          rw [hsession] at htruthy
          exact of_decide_eq_true htruthy
        exact textHonest_iff htokens hunset hsession hne
      | _ =>
        dsimp only
        rw [honest_ok_iff]
        refine iff_of_true (flagHonest_unchanged hunset) ?_
        intro sessionId hstr
        cases hstr
  · rw [if_neg hevent, honest_ok_iff]
    refine iff_of_true (flagHonest_unchanged hunset) ?_
    intro htype htruthy
    exact absurd ⟨htype, htruthy⟩ hevent

/-- The row of a delivery, as it is added. -/
def arrivedEvent (env : Environment) (proc : PaymentProcessor) (eventType : String)
    (eventId : Option String) (payload : Json) : WebhookEvent where
  id := env.rowId
  processor := proc
  eventType := eventType
  eventId := eventId
  payload := some payload
  errorMessage := none

theorem processWebhook_fresh {proc : PaymentProcessor} {eventType : String}
    {eventId : Option String} (hfresh : duplicates db proc eventId = []) :
    processWebhook env proc eventType eventId payload db =
      match handleEvent env (arrivedEvent env proc eventType eventId payload) payload db with
      | .error error => (.error error, db)
      | .ok (stored, db') =>
        (.ok (.received stored.id), { db' with events := db'.events++[stored] }) := by
  unfold processWebhook
  rw [hfresh]
  rfl

/-- A row is added for a delivery that is no duplicate. -/
theorem fresh_of_stored {proc : PaymentProcessor} {eventType : String} {eventId : Option String}
    {answer : WebhookAnswer}
    (h : processWebhook env proc eventType eventId payload db = (.ok answer, db'))
    (hstored : db'.events = db.events++[stored]) : duplicates db proc eventId = [] := by
  have hkept : db'.events ≠ db.events := by
    rw [hstored]
    simp
  unfold processWebhook at h
  split at h
  · rename_i hfresh
    exact hfresh
  · exact absurd (congrArg Db.events (Prod.mk.inj h).2.symm) hkept
  · cases (Prod.mk.inj h).1

/-- The flag of the event that is stored for a delivery is right if and only if the delivery is no
payment event, or one that is written down as an error, or one with a session id whose one active
link has not expired, or which has no active link but a paid one. -/
theorem deliveryHonest_iff (htokens : (db.links.map PaymentLink.accessToken).Nodup)
    (env : Environment) (processor : String) (body : Option Json) :
    DeliveryHonest env db processor body ↔
      DeliverySettles env db processor (body.getD (.obj [])) := by
  constructor
  · intro h proc eventType eventId hproc hdelivered hfresh
    have hunset : (arrivedEvent env proc eventType eventId (body.getD (.obj []))).processed = false :=
      rfl
    apply (eventHonest_iff htokens hunset).mp
    intro stored db₁ hok
    -- the delivery is this event, handled and stored
    have hreceive : receiveWebhook env processor body db =
        (.ok (.received stored.id), { db₁ with events := db₁.events++[stored] }) := by
      unfold receiveWebhook
      rw [hproc]
      dsimp only
      rw [hdelivered]
      dsimp only
      rw [processWebhook_fresh hfresh, hok]
    have hhonest := h _ stored _ hreceive (by rw [events_handleEvent hok])
    exact ⟨hhonest.processed, hhonest.unprocessed⟩
  · intro h answer stored db' hreceive hstored
    obtain ⟨proc, eventType, eventId, hproc, hdelivered, hprocess⟩ := receiveWebhook_ok hreceive
    have hfresh := fresh_of_stored hprocess hstored
    have hunset : (arrivedEvent env proc eventType eventId (body.getD (.obj []))).processed = false :=
      rfl
    have hevent := (eventHonest_iff htokens hunset).mpr (h proc eventType eventId hproc hdelivered hfresh)
    rw [processWebhook_fresh hfresh] at hprocess
    split at hprocess
    · cases (Prod.mk.inj hprocess).1
    · rename_i event db₁ hok
      obtain ⟨-, rfl⟩ := Prod.mk.inj hprocess
      have hsame : event = stored := by
        have hevents : db₁.events++[event] = db.events++[stored] := hstored
        rw [events_handleEvent hok] at hevents
        exact (List.cons.inj (List.append_cancel_left hevents)).1
      have hhonest := hevent event db₁ hok
      rw [← hsame]
      exact ⟨hhonest.processed, hhonest.unprocessed⟩

end

/-- A session of a processor that has completed. -/
def completedSession (id : String) : Json :=
  .obj [("type", .str "checkout.session.completed"), ("id", .str id),
    ("data", .obj [("object", .obj [("id", .str "cs_1")])])]

def webhookNight : Environment where
  now := ⟨2034, 8, 19, 2, 37, 52, 618000, by decide, by decide, by decide, by decide, by decide,
    by decide, by decide⟩
  today := 742769
  rowId := 66
  accessToken := ""
  message := "expected str"

/-- The event has an id of its own, for which there is no link. It counts as processed, and the link
of the session stays active. -/
theorem completedSession_dishonest :
    ¬DeliveryHonest webhookNight linkedDb "stripe" (some (completedSession "evt_1")) := by
  intro h
  let event : WebhookEvent :=
    arrivedEvent webhookNight .stripe "checkout.session.completed" (some "evt_1")
      (completedSession "evt_1")
  have hdelivered : deliveredEvent (completedSession "evt_1") =
      some ("checkout.session.completed", some "evt_1") := by
    decide +kernel
  -- no link has the session, so that nothing is done and nothing is wrong
  have hevent : handleEvent webhookNight event (completedSession "evt_1") linkedDb =
      .ok ({ event with processed := true }, linkedDb) := by
    have hsession : sessionIdOf (completedSession "evt_1") = .str "evt_1" := rfl
    have hclean : "evt_1".contains '\x00' = false := by
      simp
    unfold handleEvent
    rw [if_pos (by decide), hsession, if_pos (by decide)]
    dsimp only
    rw [hclean]
    rfl
  have hreceive : receiveWebhook webhookNight "stripe" (some (completedSession "evt_1")) linkedDb =
      (.ok (.received 66), { linkedDb with events := [{ event with processed := true }] }) := by
    have hproc : processorOfValue "stripe" = some .stripe := by
      decide
    have hfresh : duplicates linkedDb .stripe (some "evt_1") = [] := rfl
    unfold receiveWebhook
    rw [hproc, Option.getD_some]
    dsimp only
    rw [hdelivered]
    dsimp only
    rw [processWebhook_fresh hfresh, hevent]
    rfl
  obtain ⟨link, hmem, -, hpaid⟩ := (h _ _ _ hreceive rfl).processed rfl
  rw [List.mem_singleton.mp hmem] at hpaid
  cases hpaid

/-- With the id of the session in its place the link is settled, and the flag says so. -/
theorem deliveryHonest_iff_linked :
    DeliveryHonest webhookNight linkedDb "stripe" (some (completedSession "cs_1")) := by
  apply (deliveryHonest_iff (by decide) webhookNight "stripe" (some (completedSession "cs_1"))).mpr
  intro proc eventType eventId _ _ _ _ _
  refine ⟨by decide, ?_⟩
  intro sessionId hsession _
  obtain rfl : "cs_1" = sessionId := Json.str.inj hsession
  have hopen : linksOfSession linkedDb (.str "cs_1") = [openLink] := by
    decide +kernel
  constructor
  · intro hnone
    rw [hopen] at hnone
    cases hnone
  · intro link hlink _
    rw [hopen] at hlink
    rw [← (List.cons.inj hlink).1]
    rfl

end LegalForge.Payments
