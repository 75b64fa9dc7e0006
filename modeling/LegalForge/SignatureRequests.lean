import LegalForge.AuthModels
import LegalForge.ReadCommitted

/-! E-signature requests as the statements that concurrent sessions interleave.
Every operation reads its rows without a lock, decides in Python, and writes the
columns it has changed when it flushes. -/
namespace LegalForge.Esign
open Auth Transition ReadCommitted

inductive SignatureRequestStatus where
  | draft
  | pending
  | partiallySigned
  | completed
  | expired
  | cancelled
  deriving DecidableEq

def SignatureRequestStatus.value : SignatureRequestStatus → String
  | draft => "draft"
  | pending => "pending"
  | partiallySigned => "partially_signed"
  | completed => "completed"
  | expired => "expired"
  | cancelled => "cancelled"

inductive SignerStatus where
  | pending
  | viewed
  | signed
  | declined
  deriving DecidableEq

def SignerStatus.value : SignerStatus → String
  | pending => "pending"
  | viewed => "viewed"
  | signed => "signed"
  | declined => "declined"

structure SignatureRequest where
  id : Uuid
  title : String
  message : Option String := none
  status : SignatureRequestStatus := .draft
  expiresAt : Option Instant := none
  completedAt : Option Instant := none
  certificateStorageKey : Option String := none
  deriving DecidableEq

structure Signer where
  id : Uuid
  signatureRequestId : Uuid
  name : String
  email : String
  status : SignerStatus := .pending
  accessToken : String
  signedAt : Option Instant := none
  signedIp : Option String := none
  signedUserAgent : Option String := none
  declineReason : Option String := none
  deriving DecidableEq

structure Db where
  requests : List SignatureRequest
  signers : List Signer

def getRequest (db : Db) (requestId : Uuid) : Option SignatureRequest :=
  Table.find SignatureRequest.id requestId db.requests

def getSigner (db : Db) (signerId : Uuid) : Option Signer :=
  Table.find Signer.id signerId db.signers

def getSignerByToken (db : Db) (accessToken : String) : Option Signer :=
  Table.find Signer.accessToken accessToken db.signers

def signersOf (db : Db) (requestId : Uuid) : List Signer :=
  db.signers.filter (fun s => s.signatureRequestId = requestId)

theorem mem_signersOf {db : Db} {requestId : Uuid} {signer : Signer} :
    signer ∈ signersOf db requestId ↔
      signer ∈ db.signers ∧ signer.signatureRequestId = requestId := by
  simp [signersOf]

/-- Who called, and with what. -/
inductive Call where
  | send (requestId : Uuid)
  | view (accessToken : String)
  | sign (accessToken : String) (ipAddress userAgent : Option String)
  | decline (accessToken reason : String)
  | cancel (requestId : Uuid)

/-- Rows as they were loaded, and as the session changed them. -/
structure Writes where
  signer : Option (Signer × Signer) := none
  request : Option (SignatureRequest × SignatureRequest) := none
  /-- The signers `sign_document` has looked at -/
  signers : List Signer := []

/-- The UPDATEs that a session still has to send. -/
inductive Update where
  | signer
  | request

inductive Session where
  | idle
  | signerLoaded (call : Call) (signer : Signer)
  | requestLoaded (call : Call) (signer : Option Signer) (request : SignatureRequest)
  /-- What is written follows from what was loaded. When nothing is left to send,
  only COMMIT is left. -/
  | writing (w : Writes) (unsent : List Update)
  | returned (w : Writes)
  | raised (error : HttpError)

inductive Statement where
  /-- The first query: the signer of a token, or the request -/
  | query (call : Call)
  | selectRequest
  /-- The signers that come with a request (`lazy="selectin"`), and the decision -/
  | selectSigners (now : Instant)
  | flush

inductive LockRow where
  | request (id : Uuid)
  | signer (id : Uuid)
  deriving DecidableEq

/-- A `ValueError`, as the routes answer it. -/
def valueError (detail : String) : Session :=
  .raised ⟨400, detail⟩

def isExpired (request : SignatureRequest) (now : Instant) : Bool :=
  match request.expiresAt with
  | none => false
  | some expiresAt => expiresAt < now

def isOpen (request : SignatureRequest) : Bool :=
  request.status = .pending ∨ request.status = .partiallySigned

/-- The status of the calling signer counts as signed, whatever was loaded. -/
def allSigned (signers : List Signer) (signerId : Uuid) : Bool :=
  signers.all (fun s => s.status = .signed ∨ s.id = signerId)

def certificateKey (requestId : Uuid) : String :=
  String.ofList ("esign/certificates/".toList++uuidText requestId++"/certificate.json".toList)

/-- A nullable column `String(limit)`. -/
def optVarchar (limit : ℕ) : Option String → Option (Option String)
  | none => some none
  | some text => (varchar limit text).map some

/-- `get_signing_page_info` -/
def viewDecision (signer : Signer) (request : SignatureRequest) (now : Instant) : Session :=
  if isExpired request now then valueError "Signature request has expired"
  else if !isOpen request then valueError ("Signature request is "++request.status.value)
  else if signer.status = .pending then
    .writing { signer := some (signer, { signer with status := .viewed }) } [.signer]
  else .writing {} []

/-- The request once `sign_document` has looked at the signers. -/
def requestAfterSign (signer : Signer) (request : SignatureRequest) (signers : List Signer)
    (now : Instant) : SignatureRequest :=
  if allSigned signers signer.id then
    { request with
      status := .completed
      completedAt := some now
      certificateStorageKey := some (certificateKey request.id) }
  else { request with status := .partiallySigned }

/-- `sign_document`. A text that is too long for its column raises at the flush. -/
def signDecision (signer : Signer) (request : SignatureRequest) (signers : List Signer)
    (ipAddress userAgent : Option String) (now : Instant) : Session :=
  if isExpired request now then valueError "Signature request has expired"
  else if !isOpen request then valueError ("Signature request is "++request.status.value)
  else if signer.status = .signed then valueError "Already signed"
  else if signer.status = .declined then valueError "Signer has declined"
  else
    match optVarchar 45 ipAddress, optVarchar 500 userAgent with
    | some signedIp, some signedUserAgent =>
      .writing
        { signer := some (signer, { signer with
            status := .signed
            signedAt := some now
            signedIp := signedIp
            signedUserAgent := signedUserAgent })
          request := some (request, requestAfterSign signer request signers now)
          signers := signers }
        [.signer, .request]
    | _, _ => .raised .internal

/-- `decline_document` -/
def declineDecision (signer : Signer) (request : SignatureRequest) (reason : String) : Session :=
  if !isOpen request then valueError ("Signature request is "++request.status.value)
  else if signer.status = .signed ∨ signer.status = .declined then
    valueError ("Signer has already "++signer.status.value)
  else
    .writing
      { signer := some (signer, { signer with status := .declined, declineReason := some reason })
        request := some (request, { request with status := .cancelled }) }
      [.request, .signer]

/-- `send_signature_request` -/
def sendDecision (request : SignatureRequest) : Session :=
  if request.status ≠ .draft then valueError "Only draft requests can be sent"
  else .writing { request := some (request, { request with status := .pending }) } [.request]

/-- `cancel_signature_request` -/
def cancelDecision (request : SignatureRequest) : Session :=
  if request.status = .completed ∨ request.status = .cancelled then
    valueError ("Cannot cancel a "++request.status.value++" request")
  else .writing { request := some (request, { request with status := .cancelled }) } [.request]

/-- The decision of a call over the rows that are loaded. An object that is loaded
keeps its attributes when a later query of the session returns its row again. -/
def decision (call : Call) (signer : Option Signer) (request : SignatureRequest)
    (signers : List Signer) (now : Instant) : Session :=
  match call, signer with
  | .send _, _ => sendDecision request
  | .cancel _, _ => cancelDecision request
  | .view _, some signer => viewDecision signer request now
  | .sign _ ipAddress userAgent, some signer =>
    signDecision signer request signers ipAddress userAgent now
  | .decline _ reason, some signer => declineDecision signer request reason
  | _, none => .raised .internal

def queryRequest (db : Db) (call : Call) (requestId : Uuid) : Session :=
  match getRequest db requestId with
  | none => valueError "Signature request not found"
  | some request => .requestLoaded call none request

def querySigner (db : Db) (call : Call) (accessToken : String) : Session :=
  match getSignerByToken db accessToken with
  | none => valueError "Invalid access token"
  | some signer => .signerLoaded call signer

def query (db : Db) (call : Call) : Session :=
  match call with
  | .send requestId => queryRequest db call requestId
  | .cancel requestId => queryRequest db call requestId
  | .view accessToken => querySigner db call accessToken
  | .sign accessToken _ _ => querySigner db call accessToken
  | .decline accessToken _ => querySigner db call accessToken

def esignStmt (db : Db) : Session → Statement → Option Session
  | .idle, .query call => some (query db call)
  | .signerLoaded call signer, .selectRequest =>
    match getRequest db signer.signatureRequestId with
    | none => some (valueError "Signature request not found")
    | some request => some (.requestLoaded call (some signer) request)
  | .requestLoaded call signer request, .selectSigners now =>
    some (decision call signer request (signersOf db request.id) now)
  | .writing w (_ :: unsent), .flush => some (.writing w unsent)
  | _, _ => none

/-- The row of an UPDATE, if a column has changed. -/
def updateLocks (w : Writes) : Update → List LockRow
  | .signer =>
    match w.signer with
    | some (loaded, changed) => if changed = loaded then [] else [.signer loaded.id]
    | none => []
  | .request =>
    match w.request with
    | some (loaded, changed) => if changed = loaded then [] else [.request loaded.id]
    | none => []

def esignLocks : Session → Statement → List LockRow
  | .writing w (update :: _), .flush => updateLocks w update
  | _, _ => []

def updatedSigner (loaded changed current : Signer) : Signer :=
  { current with
    status := Table.assigned loaded.status changed.status current.status
    signedAt := Table.assigned loaded.signedAt changed.signedAt current.signedAt
    signedIp := Table.assigned loaded.signedIp changed.signedIp current.signedIp
    signedUserAgent :=
      Table.assigned loaded.signedUserAgent changed.signedUserAgent current.signedUserAgent
    declineReason := Table.assigned loaded.declineReason changed.declineReason current.declineReason }

def updatedRequest (loaded changed current : SignatureRequest) : SignatureRequest :=
  { current with
    status := Table.assigned loaded.status changed.status current.status
    completedAt := Table.assigned loaded.completedAt changed.completedAt current.completedAt
    certificateStorageKey := Table.assigned loaded.certificateStorageKey
      changed.certificateStorageKey current.certificateStorageKey }

def writeSigner (signers : List Signer) : Option (Signer × Signer) → List Signer
  | none => signers
  | some (loaded, changed) => Table.alter Signer.id loaded.id (updatedSigner loaded changed) signers

def writeRequest (requests : List SignatureRequest) :
    Option (SignatureRequest × SignatureRequest) → List SignatureRequest
  | none => requests
  | some (loaded, changed) =>
    Table.alter SignatureRequest.id loaded.id (updatedRequest loaded changed) requests

def applyWrites (db : Db) (w : Writes) : Db where
  requests := writeRequest db.requests w.request
  signers := writeSigner db.signers w.signer

def esignProgram : Program Db Session Statement LockRow where
  locks := fun _ m a => esignLocks m a
  stmt := esignStmt
  publish := fun db m =>
    match m with
    | .writing w [] => some (applyWrites db w, .returned w)
    | _ => none
  abort := fun m =>
    match m with
    | .idle => .idle
    | .returned w => .returned w
    | .raised error => .raised error
    | _ => .raised .internal

abbrev EsignState (Tx : Type*) := State Db Session LockRow Tx
abbrev EsignLabel (Tx : Type*) := Label Statement Tx

/-! The columns that a commit changes. -/

def signerStatus (db : Db) (signerId : Uuid) : Option SignerStatus :=
  (getSigner db signerId).map Signer.status

def requestStatus (db : Db) (requestId : Uuid) : Option SignatureRequestStatus :=
  (getRequest db requestId).map SignatureRequest.status

theorem esign_publish {db db' : Db} {m m' : Session}
    (h : esignProgram.publish db m = some (db', m')) :
    ∃ w, m = .writing w [] ∧ db' = applyWrites db w ∧ m' = .returned w := by
  cases m with
  | writing w unsent =>
    cases unsent with
    | nil =>
      obtain ⟨rfl, rfl⟩ := Prod.mk.inj (Option.some.inj h)
      exact ⟨w, rfl, rfl, rfl⟩
    | cons update unsent => cases h
  | _ => cases h

theorem getSigner_applyWrites {db : Db} {w : Writes} {loaded changed : Signer}
    (h : w.signer = some (loaded, changed)) (signerId : Uuid) :
    getSigner (applyWrites db w) signerId =
      if loaded.id = signerId then (getSigner db signerId).map (updatedSigner loaded changed)
      else getSigner db signerId := by
  simp only [getSigner, applyWrites, h, writeSigner]
  split_ifs with hid
  · subst hid
    exact Table.find_alter_self (by intro x hx; exact hx) db.signers
  · exact Table.find_alter_of_ne (by intro x hx; exact hx) (Ne.symm hid) db.signers

theorem getRequest_applyWrites {db : Db} {w : Writes} {loaded changed : SignatureRequest}
    (h : w.request = some (loaded, changed)) (requestId : Uuid) :
    getRequest (applyWrites db w) requestId =
      if loaded.id = requestId then (getRequest db requestId).map (updatedRequest loaded changed)
      else getRequest db requestId := by
  simp only [getRequest, applyWrites, h, writeRequest]
  split_ifs with hid
  · subst hid
    exact Table.find_alter_self (by intro x hx; exact hx) db.requests
  · exact Table.find_alter_of_ne (by intro x hx; exact hx) (Ne.symm hid) db.requests

end LegalForge.Esign
