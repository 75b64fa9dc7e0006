import LegalForge.SignatureRequests

/-! Which interleavings keep a signature, a refusal and the end of a request. -/
namespace LegalForge.Esign
open Auth Transition ReadCommitted

def SignerStatus.Final (status : SignerStatus) : Prop :=
  status = .signed ∨ status = .declined

def SignatureRequestStatus.Final (status : SignatureRequestStatus) : Prop :=
  status = .completed ∨ status = .cancelled

/-- What is final in `db` is as it was in `db'`. -/
structure KeepsFinal (db db' : Db) : Prop where
  signer : ∀ signerId status, signerStatus db signerId = some status → status.Final →
    signerStatus db' signerId = some status
  request : ∀ requestId status, requestStatus db requestId = some status → status.Final →
    requestStatus db' requestId = some status

/-- A column with a final value is left alone or set to that value. -/
def LeavesFinal {σ : Type*} (final : σ → Prop) (current : Option σ) (loaded changed : σ) : Prop :=
  ∀ value, current = some value → final value → changed = loaded ∨ changed = value

/-- The rows whose status a session is about to commit have no other final status. -/
def FindsOpen (db : Db) : Session → Prop
  | .writing w _ =>
    (∀ loaded changed, w.signer = some (loaded, changed) →
      LeavesFinal SignerStatus.Final (signerStatus db loaded.id) loaded.status changed.status) ∧
    ∀ loaded changed, w.request = some (loaded, changed) →
      LeavesFinal SignatureRequestStatus.Final (requestStatus db loaded.id) loaded.status
        changed.status
  | _ => True

theorem leavesFinal_iff {σ : Type*} [DecidableEq σ] {final : σ → Prop} {current : Option σ}
    {loaded changed : σ} :
    LeavesFinal final current loaded changed ↔ ∀ value, current = some value → final value →
      current.map (Table.assigned loaded changed) = some value := by
  refine forall_congr' fun value => imp_congr_right fun hcurrent => imp_congr_right fun _ => ?_
  rw [hcurrent, Option.map_some, Option.some.injEq, Table.assigned]
  split_ifs with h
  · simp [h]
  · simp [h]

theorem signerStatus_applyWrites {db : Db} {w : Writes} {loaded changed : Signer}
    (h : w.signer = some (loaded, changed)) (signerId : Uuid) :
    signerStatus (applyWrites db w) signerId =
      if loaded.id = signerId then
        (signerStatus db signerId).map (Table.assigned loaded.status changed.status)
      else signerStatus db signerId := by
  rw [signerStatus, getSigner_applyWrites h, signerStatus]
  split_ifs
  · rw [Option.map_map, Option.map_map]
    rfl
  · rfl

theorem requestStatus_applyWrites {db : Db} {w : Writes} {loaded changed : SignatureRequest}
    (h : w.request = some (loaded, changed)) (requestId : Uuid) :
    requestStatus (applyWrites db w) requestId =
      if loaded.id = requestId then
        (requestStatus db requestId).map (Table.assigned loaded.status changed.status)
      else requestStatus db requestId := by
  rw [requestStatus, getRequest_applyWrites h, requestStatus]
  split_ifs
  · rw [Option.map_map, Option.map_map]
    rfl
  · rfl

/-- A table of which at most one row is written keeps the final values of a column exactly when
the write leaves the value of its row. -/
theorem keepsFinal_column_iff {ρ σ : Type*} [DecidableEq σ] {final : σ → Prop} {key : ρ → Uuid}
    {column : ρ → σ} {before after : Uuid → Option σ} {write : Option (ρ × ρ)}
    (hnone : write = none → after = before)
    (hsome : ∀ loaded changed, write = some (loaded, changed) → ∀ id, after id =
      if key loaded = id then (before id).map (Table.assigned (column loaded) (column changed))
      else before id) :
    (∀ id value, before id = some value → final value → after id = some value) ↔
      ∀ loaded changed, write = some (loaded, changed) →
        LeavesFinal final (before (key loaded)) (column loaded) (column changed) := by
  constructor
  · intro h loaded changed hwrite
    refine leavesFinal_iff.mpr fun value hvalue hfinal => ?_
    have hafter := h (key loaded) value hvalue hfinal
    rwa [hsome loaded changed hwrite, if_pos rfl] at hafter
  · intro h id value hvalue hfinal
    cases hwrite : write with
    | none => rwa [hnone hwrite]
    | some pair =>
      obtain ⟨loaded, changed⟩ := pair
      rw [hsome loaded changed hwrite]
      split_ifs with hid
      · subst hid
        exact leavesFinal_iff.mp (h loaded changed hwrite) value hvalue hfinal
      · exact hvalue

theorem keepsFinal_signer_iff (db : Db) (w : Writes) :
    (∀ signerId status, signerStatus db signerId = some status → status.Final →
      signerStatus (applyWrites db w) signerId = some status) ↔
    ∀ loaded changed, w.signer = some (loaded, changed) →
      LeavesFinal SignerStatus.Final (signerStatus db loaded.id) loaded.status changed.status := by
  refine keepsFinal_column_iff (fun hw => funext fun signerId => ?_)
    fun loaded changed hw => signerStatus_applyWrites hw
  have hsame : (applyWrites db w).signers = db.signers := by simp only [applyWrites, hw, writeSigner]
  rw [signerStatus, getSigner, hsame]
  rfl

theorem keepsFinal_request_iff (db : Db) (w : Writes) :
    (∀ requestId status, requestStatus db requestId = some status → status.Final →
      requestStatus (applyWrites db w) requestId = some status) ↔
    ∀ loaded changed, w.request = some (loaded, changed) →
      LeavesFinal SignatureRequestStatus.Final (requestStatus db loaded.id) loaded.status
        changed.status := by
  refine keepsFinal_column_iff (fun hw => funext fun requestId => ?_)
    fun loaded changed hw => requestStatus_applyWrites hw
  have hsame : (applyWrites db w).requests = db.requests := by
    simp only [applyWrites, hw, writeRequest]
  rw [requestStatus, getRequest, hsame]
  rfl

/-- A commit keeps what is final exactly when the session finds its rows open. -/
theorem keepsFinal_applyWrites_iff (db : Db) (w : Writes) (unsent : List Update) :
    KeepsFinal db (applyWrites db w) ↔ FindsOpen db (.writing w unsent) := by
  have hsplit : KeepsFinal db (applyWrites db w) ↔
      (∀ signerId status, signerStatus db signerId = some status → status.Final →
        signerStatus (applyWrites db w) signerId = some status) ∧
      ∀ requestId status, requestStatus db requestId = some status → status.Final →
        requestStatus (applyWrites db w) requestId = some status :=
    ⟨fun h => ⟨h.signer, h.request⟩, fun h => ⟨h.1, h.2⟩⟩
  rw [hsplit, keepsFinal_signer_iff, keepsFinal_request_iff]
  exact Iff.rfl

variable {Tx : Type*} [DecidableEq Tx]

/-- A request that was sent to one signer. -/
def sentRequest : SignatureRequest :=
  { id := 1, title := "Engagement letter", status := .pending }

def loneSigner : Signer :=
  { id := 2, signatureRequestId := 1, name := "Ann Lee", email := "ann@client.test"
    accessToken := "9d41" }

def sentDb : Db := ⟨[sentRequest], [loneSigner]⟩

/-- The signing page is loaded while the same signer signs. -/
def slowView : List (EsignLabel ℕ) :=
  [.stmt 0 (.query (.view "9d41")), .stmt 0 .selectRequest, .stmt 0 (.selectSigners 5),
   .stmt 1 (.query (.sign "9d41" none none)), .stmt 1 .selectRequest, .stmt 1 (.selectSigners 6),
   .stmt 1 .flush, .stmt 1 .flush, .commit 1, .stmt 0 .flush, .commit 0]

end LegalForge.Esign
