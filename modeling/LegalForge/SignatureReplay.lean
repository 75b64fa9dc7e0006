import LegalForge.SignatureTrail

/-! The audit entries of a signature request, read in the order they were written, give
the statuses of the request and of its signers. -/
namespace LegalForge.Esign
open Transition UnitOfWork

/-- What an entry says: about whom, and what happened. -/
def SignatureAuditEntry.event (entry : SignatureAuditEntry) : Option Uuid × String :=
  (entry.signerId, entry.action)

def entriesOf (db : TrailDb) (requestId : Uuid) : List SignatureAuditEntry :=
  db.entries.filter (fun e => e.signatureRequestId = requestId)

def trail (db : TrailDb) (requestId : Uuid) : List (Option Uuid × String) :=
  (entriesOf db requestId).map SignatureAuditEntry.event

/-- The statuses as the entries tell them. -/
structure Replayed where
  status : SignatureRequestStatus
  signer : Uuid → SignerStatus

def Replayed.setSigner (r : Replayed) (signerId : Option Uuid) (status : SignerStatus) :
    Uuid → SignerStatus :=
  match signerId with
  | none => r.signer
  | some signerId => Function.update r.signer signerId status

def Replayed.apply (r : Replayed) (event : Option Uuid × String) : Replayed :=
  match event.2 with
  | "created" => ⟨.draft, fun _ => .pending⟩
  | "sent" => { r with status := .pending }
  | "viewed" => { r with signer := r.setSigner event.1 .viewed }
  | "signed" => ⟨.partiallySigned, r.setSigner event.1 .signed⟩
  | "completed" => { r with status := .completed }
  | "declined" => { r with signer := r.setSigner event.1 .declined }
  | "cancelled" => { r with status := .cancelled }
  | "expired" => { r with status := .expired }
  | _ => r

def replay (events : List (Option Uuid × String)) : Replayed :=
  events.foldl Replayed.apply ⟨.draft, fun _ => .pending⟩

/-- How often the signer has signed. -/
def signatures (events : List (Option Uuid × String)) (signerId : Uuid) : ℕ :=
  events.count (some signerId, "signed")

/-- The entries of a request tell its status and those of its signers. -/
structure TrailTells (db : TrailDb) (request : SignatureRequest) : Prop where
  request_status : (replay (trail db request.id)).status = request.status
  signer_status : ∀ s ∈ signersOf db.toDb request.id,
    (replay (trail db request.id)).signer s.id = s.status
  completed_iff : request.status = .completed ↔
    ∀ s ∈ signersOf db.toDb request.id, signatures (trail db request.id) s.id = 1
  partially_signed : request.status = .partiallySigned →
    (∃ s ∈ signersOf db.toDb request.id, 1 ≤ signatures (trail db request.id) s.id) ∧
      ∃ s ∈ signersOf db.toDb request.id, signatures (trail db request.id) s.id = 0
  cancelled_iff : request.status = .cancelled ↔
    ∃ e ∈ entriesOf db request.id, e.action = "cancelled"

def TrailReconstructs (db : TrailDb) : Prop :=
  ∀ request ∈ db.requests, TrailTells db request

@[simp] theorem replay_append (events events' : List (Option Uuid × String)) :
    replay (events++events') = events'.foldl Replayed.apply (replay events) :=
  List.foldl_append

/-- The same for the values of one request. -/
structure Reconstructed (status : SignatureRequestStatus) (signers : List Signer)
    (events : List (Option Uuid × String)) : Prop where
  status_eq : (replay events).status = status
  signer_eq : ∀ s ∈ signers, (replay events).signer s.id = s.status
  signatures_eq : ∀ s ∈ signers, signatures events s.id = if s.status = .signed then 1 else 0
  completed_iff : status = .completed ↔ ∀ s ∈ signers, s.status = .signed
  partially_signed : status = .partiallySigned → ∃ s ∈ signers, s.status = .signed
  cancelled_iff : status = .cancelled ↔ ∃ e ∈ events, e.2 = "cancelled"

theorem Reconstructed.trailTells {db : TrailDb} {request : SignatureRequest}
    (h : Reconstructed request.status (signersOf db.toDb request.id) (trail db request.id)) :
    TrailTells db request := by
  have hone : ∀ s ∈ signersOf db.toDb request.id,
      signatures (trail db request.id) s.id = 1 ↔ s.status = .signed := by
    intro s hs
    rw [h.signatures_eq s hs]
    split_ifs with hsigned
    · simp [hsigned]
    · simp [hsigned]
  have hcompleted : request.status = .completed ↔
      ∀ s ∈ signersOf db.toDb request.id, signatures (trail db request.id) s.id = 1 := by
    rw [h.completed_iff]
    exact forall₂_congr fun s hs => (hone s hs).symm
  refine ⟨h.status_eq, h.signer_eq, hcompleted, fun hpart => ⟨?_, ?_⟩, ?_⟩
  · obtain ⟨s, hs, hsigned⟩ := h.partially_signed hpart
    exact ⟨s, hs, ((hone s hs).mpr hsigned).ge⟩
  · have hnot : ¬∀ s ∈ signersOf db.toDb request.id, s.status = .signed := by
      rw [← h.completed_iff, hpart]
      decide
    push Not at hnot
    obtain ⟨s, hs, hunsigned⟩ := hnot
    refine ⟨s, hs, ?_⟩
    rw [h.signatures_eq s hs, if_neg hunsigned]
  · rw [h.cancelled_iff]
    simp only [trail, List.mem_map, SignatureAuditEntry.event]
    constructor
    · rintro ⟨e, ⟨entry, hentry, rfl⟩, haction⟩
      exact ⟨entry, hentry, haction⟩
    · rintro ⟨entry, hentry, haction⟩
      exact ⟨_, ⟨entry, hentry, rfl⟩, haction⟩

/-- What one call does to its request, to the signer that calls, and to the trail. -/
inductive Change (signers : List Signer) : SignatureRequestStatus → SignatureRequestStatus →
    Option (Signer × Signer) → List (Option Uuid × String) → Prop where
  | send : Change signers .draft .pending none (signers.map fun s => (some s.id, "sent"))
  | view {status : SignatureRequestStatus} {signer signer' : Signer} (hcompleted : status ≠ .completed)
      (hbefore : signer.status = .pending) (hafter : signer'.status = .viewed) :
      Change signers status status (some (signer, signer')) [(some signer.id, "viewed")]
  | sign {status : SignatureRequestStatus} {signer signer' other : Signer}
      (hcancelled : status ≠ .cancelled) (hbefore : signer.status ≠ .signed)
      (hafter : signer'.status = .signed) (hother : other ∈ signers) (hne : other.id ≠ signer.id)
      (hunsigned : other.status ≠ .signed) :
      Change signers status .partiallySigned (some (signer, signer')) [(some signer.id, "signed")]
  | complete {status : SignatureRequestStatus} {signer signer' : Signer}
      (hcancelled : status ≠ .cancelled) (hbefore : signer.status ≠ .signed)
      (hafter : signer'.status = .signed)
      (hall : ∀ other ∈ signers, other.id ≠ signer.id → other.status = .signed) :
      Change signers status .completed (some (signer, signer'))
        [(some signer.id, "signed"), (none, "completed")]
  | decline {status : SignatureRequestStatus} {signer signer' : Signer}
      (hbefore : signer.status ≠ .signed) (hafter : signer'.status = .declined) :
      Change signers status .cancelled (some (signer, signer'))
        [(some signer.id, "declined"), (none, "cancelled")]
  | cancel {status : SignatureRequestStatus} (hcompleted : status ≠ .completed) :
      Change signers status .cancelled none [(none, "cancelled")]

/-- The signers after a change of one of them. -/
def changedSigners (signers : List Signer) : Option (Signer × Signer) → List Signer
  | none => signers
  | some (signer, signer') => signers.map (fun s => if s.id = signer.id then signer' else s)

theorem mem_changedSigners {signers : List Signer} {signer signer' s' : Signer} :
    s' ∈ changedSigners signers (some (signer, signer')) ↔
      ∃ s ∈ signers, (if s.id = signer.id then signer' else s) = s' :=
  List.mem_map

theorem signatures_append (events events' : List (Option Uuid × String)) (signerId : Uuid) :
    signatures (events++events') signerId =
      signatures events signerId+signatures events' signerId :=
  List.count_append

/-- No signature. -/
theorem signatures_eq_zero {events : List (Option Uuid × String)} {signerId : Uuid}
    (h : ∀ e ∈ events, e.2 ≠ "signed") : signatures events signerId = 0 :=
  List.count_eq_zero.mpr fun hmem => h _ hmem rfl

section
variable {signers : List Signer} {events new : List (Option Uuid × String)}
  {status status' : SignatureRequestStatus} {signer signer' : Signer}

theorem signer_eq_changed (h : ∀ s ∈ signers, (replay events).signer s.id = s.status)
    (hid : signer'.id = signer.id)
    (hnew : (replay (events++new)).signer =
      Function.update (replay events).signer signer.id signer'.status) :
    ∀ s ∈ changedSigners signers (some (signer, signer')),
      (replay (events++new)).signer s.id = s.status := by
  intro s' hs'
  obtain ⟨s, hs, rfl⟩ := mem_changedSigners.mp hs'
  rw [hnew]
  split_ifs with hsame
  · rw [hid, Function.update_self]
  · rw [Function.update_of_ne hsame]
    exact h s hs

/-- A signer that had not signed has signed as often as `new` says. -/
theorem signatures_eq_changed
    (h : ∀ s ∈ signers, signatures events s.id = if s.status = .signed then 1 else 0)
    (hmem : signer ∈ signers) (hid : signer'.id = signer.id) (hbefore : signer.status ≠ .signed)
    (hself : signatures new signer.id = if signer'.status = .signed then 1 else 0)
    (hother : ∀ signerId, signerId ≠ signer.id → signatures new signerId = 0) :
    ∀ s ∈ changedSigners signers (some (signer, signer')),
      signatures (events++new) s.id = if s.status = .signed then 1 else 0 := by
  intro s' hs'
  obtain ⟨s, hs, rfl⟩ := mem_changedSigners.mp hs'
  rw [signatures_append]
  by_cases hsame : s.id = signer.id
  · have hnone := h signer hmem
    rw [if_neg hbefore] at hnone
    rw [if_pos hsame, hid, hnone, hself, Nat.zero_add]
  · rw [if_neg hsame, hother s.id hsame, Nat.add_zero]
    exact h s hs

theorem all_signed_changed (hmem : signer ∈ signers) :
    (∀ s ∈ changedSigners signers (some (signer, signer')), s.status = .signed) ↔
      signer'.status = .signed ∧ ∀ s ∈ signers, s.id ≠ signer.id → s.status = .signed := by
  constructor
  · intro h
    refine ⟨h signer' (mem_changedSigners.mpr ⟨signer, hmem, if_pos rfl⟩), fun s hs hne => ?_⟩
    exact h s (mem_changedSigners.mpr ⟨s, hs, if_neg hne⟩)
  · rintro ⟨hself, hothers⟩ s' hs'
    obtain ⟨s, hs, rfl⟩ := mem_changedSigners.mp hs'
    split_ifs with hsame
    · exact hself
    · exact hothers s hs hsame

theorem cancelled_append (hnew : ∀ e ∈ new, e.2 ≠ "cancelled") :
    (∃ e ∈ events++new, e.2 = "cancelled") ↔ ∃ e ∈ events, e.2 = "cancelled" := by
  constructor
  · rintro ⟨e, he, haction⟩
    rcases List.mem_append.mp he with he | he
    · exact ⟨e, he, haction⟩
    · exact absurd haction (hnew e he)
  · rintro ⟨e, he, haction⟩
    exact ⟨e, List.mem_append_left _ he, haction⟩

/-- The entries of a sent request do not tell about its signers. -/
theorem foldl_sent (signers : List Signer) (r : Replayed) :
    (signers.map fun s => (some s.id, "sent")).foldl Replayed.apply r =
      if signers = [] then r else { r with status := .pending } := by
  induction signers generalizing r with
  | nil => rfl
  | cons s signers ih =>
    rw [List.map_cons, List.foldl_cons, ih, if_neg (List.cons_ne_nil s signers)]
    split_ifs
    · rfl
    · rfl

theorem Reconstructed.send (h : Reconstructed .draft signers events) :
    Reconstructed .pending signers (events++signers.map fun s => (some s.id, "sent")) := by
  -- a draft without signers would count as completed
  have hne : signers ≠ [] := by
    intro hnil
    have hcompleted := h.completed_iff.mpr (by simp [hnil])
    cases hcompleted
  have hfold : replay (events++signers.map fun s => (some s.id, "sent")) =
      { replay events with status := .pending } := by
    rw [replay_append, foldl_sent, if_neg hne]
  have hsent : ∀ action ≠ "sent",
      ∀ e ∈ signers.map (fun s : Signer => (some s.id, "sent")), e.2 ≠ action := by
    intro action haction e he
    obtain ⟨s, -, rfl⟩ := List.mem_map.mp he
    exact haction.symm
  refine ⟨by rw [hfold], fun s hs => ?_, fun s hs => ?_, ?_,
    fun hpart => absurd hpart (by decide), ?_⟩
  · rw [hfold]
    exact h.signer_eq s hs
  · rw [signatures_append, signatures_eq_zero (hsent "signed" (by decide)), Nat.add_zero]
    exact h.signatures_eq s hs
  · rw [← h.completed_iff]
    decide
  · rw [cancelled_append (hsent "cancelled" (by decide)), ← h.cancelled_iff]
    decide

theorem Reconstructed.view (h : Reconstructed status signers events) (hmem : signer ∈ signers)
    (hid : signer'.id = signer.id) (hbefore : signer.status = .pending)
    (hafter : signer'.status = .viewed) :
    Reconstructed status (changedSigners signers (some (signer, signer')))
      (events++[(some signer.id, "viewed")]) := by
  have hunsigned : ¬∀ s ∈ signers, s.status = .signed := by
    intro hall
    have hsigned := hall signer hmem
    rw [hbefore] at hsigned
    cases hsigned
  refine ⟨?_, signer_eq_changed h.signer_eq hid ?_, ?_, ?_, fun hpart => ?_, ?_⟩
  · rw [replay_append]
    exact h.status_eq
  · rw [replay_append, hafter]
    rfl
  · refine signatures_eq_changed h.signatures_eq hmem hid (by rw [hbefore]; decide) ?_ ?_
    · rw [hafter]
      exact signatures_eq_zero (by simp)
    · exact fun signerId _ => signatures_eq_zero (by simp)
  · rw [h.completed_iff, all_signed_changed hmem, hafter]
    exact iff_of_false hunsigned (by simp)
  · obtain ⟨s, hs, hsigned⟩ := h.partially_signed hpart
    have hsame : ¬s.id = signer.id := by
      intro heq
      have hstatus := h.signer_eq s hs
      rw [heq, h.signer_eq signer hmem, hbefore, hsigned] at hstatus
      cases hstatus
    exact ⟨s, mem_changedSigners.mpr ⟨s, hs, if_neg hsame⟩, hsigned⟩
  · rw [cancelled_append (by simp)]
    exact h.cancelled_iff

theorem signatures_signed (signerId : Uuid) : signatures [(some signerId, "signed")] signerId = 1 :=
  List.count_singleton_self

theorem signatures_signed_of_ne {signerId other : Uuid} (h : other ≠ signerId) :
    signatures [(some signerId, "signed")] other = 0 := by
  refine List.count_eq_zero.mpr fun hmem => h ?_
  exact Option.some.inj (Prod.mk.inj (List.mem_singleton.mp hmem)).1

theorem Reconstructed.sign {other : Signer} (h : Reconstructed status signers events)
    (hmem : signer ∈ signers) (hid : signer'.id = signer.id) (hcancelled : status ≠ .cancelled)
    (hbefore : signer.status ≠ .signed) (hafter : signer'.status = .signed)
    (hother : other ∈ signers) (hne : other.id ≠ signer.id) (hunsigned : other.status ≠ .signed) :
    Reconstructed .partiallySigned (changedSigners signers (some (signer, signer')))
      (events++[(some signer.id, "signed")]) := by
  refine ⟨by rw [replay_append]; rfl, signer_eq_changed h.signer_eq hid ?_, ?_, ?_, fun _ => ?_, ?_⟩
  · rw [replay_append, hafter]
    rfl
  · refine signatures_eq_changed h.signatures_eq hmem hid hbefore ?_ ?_
    · rw [hafter, if_pos rfl]
      exact signatures_signed signer.id
    · exact fun signerId hsame => signatures_signed_of_ne hsame
  · rw [all_signed_changed hmem]
    exact iff_of_false (by decide) fun hall => hunsigned (hall.2 other hother hne)
  · exact ⟨signer', mem_changedSigners.mpr ⟨signer, hmem, if_pos rfl⟩, hafter⟩
  · rw [cancelled_append (by simp), ← h.cancelled_iff]
    exact iff_of_false (by decide) hcancelled

theorem Reconstructed.complete (h : Reconstructed status signers events)
    (hmem : signer ∈ signers) (hid : signer'.id = signer.id) (hcancelled : status ≠ .cancelled)
    (hbefore : signer.status ≠ .signed) (hafter : signer'.status = .signed)
    (hall : ∀ other ∈ signers, other.id ≠ signer.id → other.status = .signed) :
    Reconstructed .completed (changedSigners signers (some (signer, signer')))
      (events++[(some signer.id, "signed"), (none, "completed")]) := by
  have hsplit (signerId : Uuid) :
      signatures [(some signer.id, "signed"), (none, "completed")] signerId =
        signatures [(some signer.id, "signed")] signerId := by
    have hnone : signatures [(none, "completed")] signerId = 0 := signatures_eq_zero (by simp)
    rw [← List.singleton_append, signatures_append, hnone, Nat.add_zero]
  refine ⟨by rw [replay_append]; rfl, signer_eq_changed h.signer_eq hid ?_, ?_, ?_,
    fun hpart => absurd hpart (by decide), ?_⟩
  · rw [replay_append, hafter]
    rfl
  · refine signatures_eq_changed h.signatures_eq hmem hid hbefore ?_ ?_
    · rw [hafter, if_pos rfl, hsplit]
      exact signatures_signed signer.id
    · intro signerId hsame
      rw [hsplit]
      exact signatures_signed_of_ne hsame
  · rw [all_signed_changed hmem]
    exact iff_of_true rfl ⟨hafter, hall⟩
  · rw [cancelled_append (by simp), ← h.cancelled_iff]
    exact iff_of_false (by decide) hcancelled

theorem Reconstructed.decline (h : Reconstructed status signers events) (hmem : signer ∈ signers)
    (hid : signer'.id = signer.id) (hbefore : signer.status ≠ .signed)
    (hafter : signer'.status = .declined) :
    Reconstructed .cancelled (changedSigners signers (some (signer, signer')))
      (events++[(some signer.id, "declined"), (none, "cancelled")]) := by
  refine ⟨by rw [replay_append]; rfl, signer_eq_changed h.signer_eq hid ?_, ?_, ?_,
    fun hpart => absurd hpart (by decide), ?_⟩
  · rw [replay_append, hafter]
    rfl
  · refine signatures_eq_changed h.signatures_eq hmem hid hbefore ?_ ?_
    · rw [hafter]
      exact signatures_eq_zero (by simp)
    · exact fun signerId _ => signatures_eq_zero (by simp)
  · rw [all_signed_changed hmem, hafter]
    exact iff_of_false (by decide) (by simp)
  · exact iff_of_true rfl ⟨(none, "cancelled"), by simp, rfl⟩

theorem Reconstructed.cancel (h : Reconstructed status signers events)
    (hcompleted : status ≠ .completed) :
    Reconstructed .cancelled signers (events++[(none, "cancelled")]) := by
  have hnone (signerId : Uuid) : signatures [(none, "cancelled")] signerId = 0 :=
    signatures_eq_zero (by simp)
  refine ⟨by rw [replay_append]; rfl, fun s hs => ?_, fun s hs => ?_, ?_,
    fun hpart => absurd hpart (by decide), ?_⟩
  · rw [replay_append]
    exact h.signer_eq s hs
  · rw [signatures_append, hnone, Nat.add_zero]
    exact h.signatures_eq s hs
  · rw [← h.completed_iff]
    exact iff_of_false (by decide) hcompleted
  · exact iff_of_true rfl ⟨(none, "cancelled"), by simp, rfl⟩

theorem Reconstructed.change {pair : Option (Signer × Signer)}
    (h : Reconstructed status signers events)
    (hpair : ∀ signer signer', pair = some (signer, signer') →
      signer ∈ signers ∧ signer'.id = signer.id)
    (hchange : Change signers status status' pair new) :
    Reconstructed status' (changedSigners signers pair) (events++new) := by
  cases hchange with
  | send => exact h.send
  | view _ hbefore hafter =>
    obtain ⟨hmem, hid⟩ := hpair _ _ rfl
    exact h.view hmem hid hbefore hafter
  | sign hcancelled hbefore hafter hother hne hunsigned =>
    obtain ⟨hmem, hid⟩ := hpair _ _ rfl
    exact h.sign hmem hid hcancelled hbefore hafter hother hne hunsigned
  | complete hcancelled hbefore hafter hall =>
    obtain ⟨hmem, hid⟩ := hpair _ _ rfl
    exact h.complete hmem hid hcancelled hbefore hafter hall
  | decline hbefore hafter =>
    obtain ⟨hmem, hid⟩ := hpair _ _ rfl
    exact h.decline hmem hid hbefore hafter
  | cancel hcompleted => exact h.cancel hcompleted

end

end LegalForge.Esign
