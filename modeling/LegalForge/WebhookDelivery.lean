import LegalForge.PaymentSettlement

/-! How often a webhook delivery is stored and takes effect, over every
interleaving of deliveries and other requests. The duplicate check reads the
committed events, and the event is inserted later. -/
namespace LegalForge.Payments
open Billing Transition ReadCommitted

/-- The stored events of a processor's event id. -/
def eventsOf (db : Db) (processor : PaymentProcessor) (eventId : String) : List WebhookEvent :=
  db.events.filter (fun e => e.processor = processor ∧ e.eventId = some eventId)

/-- The payments made by deliveries of the event id. -/
def effectsOf (db : Db) (processor : PaymentProcessor) (eventId : String) : List Payment :=
  db.payments.filter (fun p => p.settles.bind Settlement.delivery = some (processor, some eventId))

/-- Each event id is stored at most once and takes effect at most once. -/
def OncePerEvent (db : Db) : Prop :=
  ∀ processor eventId,
    (eventsOf db processor eventId).length ≤ 1 ∧ (effectsOf db processor eventId).length ≤ 1

/-- Every effect has a stored event of its own. -/
def EffectsStored (db : Db) : Prop :=
  ∀ processor eventId,
    (effectsOf db processor eventId).length ≤ (eventsOf db processor eventId).length

/-- The event the session is going to insert, if it has the event id. -/
def pendingEvents (w : Writes) (processor : PaymentProcessor) (eventId : String) :
    List WebhookEvent :=
  w.event.toList.filter (fun e => e.processor = processor ∧ e.eventId = some eventId)

def pendingEffects (w : Writes) (processor : PaymentProcessor) (eventId : String) : List Payment :=
  w.payment.toList.filter
    (fun p => p.settles.bind Settlement.delivery = some (processor, some eventId))

theorem eventsOf_applyWrites (db : Db) (w : Writes) (processor : PaymentProcessor)
    (eventId : String) : eventsOf (applyWrites db w) processor eventId =
      eventsOf db processor eventId++pendingEvents w processor eventId :=
  List.filter_append db.events w.event.toList

theorem effectsOf_applyWrites (db : Db) (w : Writes) (processor : PaymentProcessor)
    (eventId : String) : effectsOf (applyWrites db w) processor eventId =
      effectsOf db processor eventId++pendingEffects w processor eventId :=
  List.filter_append db.payments w.payment.toList

theorem length_pendingEvents_le (w : Writes) (processor : PaymentProcessor) (eventId : String) :
    (pendingEvents w processor eventId).length ≤ 1 := by
  have hfilter := List.length_filter_le
    (fun e : WebhookEvent => e.processor = processor ∧ e.eventId = some eventId) w.event.toList
  have hone : w.event.toList.length ≤ 1 := by
    cases w.event <;> simp
  exact hfilter.trans hone

theorem pendingEvents_ne_nil_iff {w : Writes} {processor : PaymentProcessor} {eventId : String} :
    pendingEvents w processor eventId ≠ [] ↔
      ∃ event, w.event = some event ∧ event.processor = processor ∧ event.eventId = some eventId := by
  simp [pendingEvents, List.filter_eq_nil_iff]

/-- A session that pays for a delivery inserts the event of that delivery. -/
theorem length_pendingEffects_le {w : Writes} (hw : WritesOk w) (processor : PaymentProcessor)
    (eventId : String) :
    (pendingEffects w processor eventId).length ≤ (pendingEvents w processor eventId).length := by
  cases hpay : w.payment with
  | none => simp [pendingEffects, hpay]
  | some p =>
    obtain ⟨loaded, changed, -, -, hsettles⟩ := hw.payment p hpay
    by_cases hdelivery : p.settles.bind Settlement.delivery = some (processor, some eventId)
    · rw [hsettles, Option.bind_some, Option.map_eq_some_iff] at hdelivery
      obtain ⟨event, hevent, hkey⟩ := hdelivery
      obtain ⟨hproc, hid⟩ := Prod.mk.inj hkey
      have hstored : pendingEvents w processor eventId = [event] := by
        simp [pendingEvents, hevent, hproc, hid]
      rw [hstored, pendingEffects, hpay]
      exact List.length_filter_le _ _
    · simp [pendingEffects, hpay, hdelivery]

theorem effectsStored_applyWrites {db : Db} {w : Writes} (h : EffectsStored db)
    (hw : WritesOk w) : EffectsStored (applyWrites db w) := by
  intro processor eventId
  have hbefore := h processor eventId
  have hpending := length_pendingEffects_le hw processor eventId
  rw [eventsOf_applyWrites, effectsOf_applyWrites, List.length_append, List.length_append]
  omega

/-- The duplicate check would find nothing still. It does not look for the empty
id, so that no event may be stored with that one. -/
def StillNew (db : Db) (event : WebhookEvent) : Prop :=
  ∀ eventId, event.eventId = some eventId →
    duplicates db event.processor (some eventId) = [] ∧
      (eventId = "" → eventsOf db event.processor "" = [])

theorem stillNew_iff {db : Db} {event : WebhookEvent} :
    StillNew db event ↔
      ∀ eventId, event.eventId = some eventId → eventsOf db event.processor eventId = [] := by
  refine forall_congr' fun eventId => imp_congr_right fun _ => ?_
  -- `if event_id:` skips the check for the empty id only
  have hcheck : eventId ≠ "" →
      duplicates db event.processor (some eventId) = eventsOf db event.processor eventId := by
    intro hne
    simp only [duplicates, truthyText, hne, ne_eq, not_false_eq_true, decide_true, if_true]
    refine List.filter_congr fun e _ => ?_
    rw [decide_eq_decide]
    exact and_comm
  by_cases hempty : eventId = ""
  · subst hempty
    simp [duplicates, truthyText]
  · rw [hcheck hempty]
    exact and_iff_left (fun h => absurd h hempty)

/-- A commit keeps every event id at one event exactly when its own event is
still new. -/
theorem oncePerEvent_applyWrites_iff {db : Db} {w : Writes} (hstored : EffectsStored db)
    (hw : WritesOk w) (honce : OncePerEvent db) :
    OncePerEvent (applyWrites db w) ↔ ∀ event, w.event = some event → StillNew db event := by
  constructor
  · intro h event hevent
    rw [stillNew_iff]
    intro eventId hid
    have hone := (h event.processor eventId).1
    -- its own event fills the one place there is
    have hpending : pendingEvents w event.processor eventId ≠ [] :=
      pendingEvents_ne_nil_iff.mpr ⟨event, hevent, rfl, hid⟩
    have hpos := List.length_pos_of_ne_nil hpending
    rw [eventsOf_applyWrites, List.length_append] at hone
    apply List.length_eq_zero_iff.mp
    omega
  · intro hnew processor eventId
    have hafter := effectsStored_applyWrites hstored hw processor eventId
    have hone : (eventsOf (applyWrites db w) processor eventId).length ≤ 1 := by
      rw [eventsOf_applyWrites, List.length_append]
      by_cases hpending : pendingEvents w processor eventId = []
      · rw [hpending]
        exact (honce processor eventId).1
      · obtain ⟨event, hevent, rfl, hid⟩ := pendingEvents_ne_nil_iff.mp hpending
        have hnone := stillNew_iff.mp (hnew event hevent) eventId hid
        rw [hnone, List.length_nil, Nat.zero_add]
        exact length_pendingEvents_le w event.processor eventId
    exact ⟨hone, hafter.trans hone⟩

variable {Tx : Type*} [DecidableEq Tx]

/-- The event a session commits is still new then. -/
def CommitsNewEvent (s : PaymentState Tx) : PaymentLabel Tx → Prop
  | .commit t =>
    match s.session t with
    | .ready w => ∀ event, w.event = some event → StillNew s.committed event
    | _ => True
  | .stmt _ _ => True
  | .rollback _ => True

/-- Sessions are in order and every effect is stored. -/
def DeliveryInv (s : PaymentState Tx) : Prop :=
  (∀ t, SessionOk (s.session t)) ∧ EffectsStored s.committed

theorem deliveryInv_step {s s' : PaymentState Tx} {l : PaymentLabel Tx} (h : DeliveryInv s)
    (hstep : step paymentProgram s l = some s') : DeliveryInv s' := by
  refine ⟨sessionOk_step h.1 hstep, ?_⟩
  cases l with
  | commit t =>
    obtain ⟨w, hsess, hdb⟩ := commit_cases hstep
    rw [hdb]
    exact effectsStored_applyWrites h.2 (writesOk_of_ready h.1 hsess)
  | stmt t a =>
    rw [step_committed_eq hstep nofun]
    exact h.2
  | rollback t =>
    rw [step_committed_eq hstep nofun]
    exact h.2

theorem oncePerEvent_step_iff {s s' : PaymentState Tx} {l : PaymentLabel Tx} (h : DeliveryInv s)
    (honce : OncePerEvent s.committed) (hstep : step paymentProgram s l = some s') :
    OncePerEvent s'.committed ↔ CommitsNewEvent s l := by
  cases l with
  | commit t =>
    obtain ⟨w, hsess, hdb⟩ := commit_cases hstep
    rw [hdb, oncePerEvent_applyWrites_iff h.2 (writesOk_of_ready h.1 hsess) honce]
    simp only [CommitsNewEvent, hsess]
  | stmt t a =>
    rw [step_committed_eq hstep nofun]
    exact iff_of_true honce trivial
  | rollback t =>
    rw [step_committed_eq hstep nofun]
    exact iff_of_true honce trivial

/-- Two deliveries of one event whose checks both run before either commits. -/
def deliveredTwice : List (PaymentLabel ℕ) :=
  let deliver := fun row => RequestStatement.webhook .stripe "charge.succeeded" (some "cs_1")
    (some (.obj [("id", .str "cs_1"), ("type", .str "charge.succeeded")])) row
  [.stmt 0 (deliver 20), .stmt 1 (deliver 21), .stmt 0 (.lookup morning 0 10),
   .stmt 1 (.lookup morning 0 11), .stmt 0 .flush, .stmt 0 .settle, .commit 0, .stmt 1 .flush,
   .stmt 1 .settle, .commit 1]

end LegalForge.Payments
