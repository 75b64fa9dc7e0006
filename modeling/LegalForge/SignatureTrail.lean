import LegalForge.Deadlines
import LegalForge.MatterModels
import LegalForge.SignatureRequests
import LegalForge.UnitOfWork

/-! E-signature requests one after the other, with the audit entries that each of them
adds. -/
namespace LegalForge.Esign
open Auth Transition UnitOfWork Matters
open Deadlines (BoundedText textColumn intColumn nullable boundedVarchar)

structure SignatureAuditEntry where
  id : Uuid
  signatureRequestId : Uuid
  signerId : Option Uuid := none
  action : String
  ipAddress : Option String := none
  userAgent : Option String := none
  details : Option String := none
  deriving DecidableEq

/-- The columns of a request that name rows of other tables. -/
structure RequestOrigin where
  requestId : Uuid
  documentId : Uuid
  matterId : Uuid
  createdBy : Uuid
  deriving DecidableEq

structure TrailDb extends Db where
  origins : List RequestOrigin := []
  entries : List SignatureAuditEntry := []
  documents : List Document
  matters : List Matter

structure SignerCreate where
  name : BoundedText 1 255
  email : BoundedText 1 255
  role : Option (BoundedText 0 100) := none
  order : ℤ := 1
  order_ge : 1 ≤ order

structure SignatureRequestCreate where
  documentId : Uuid
  matterId : Uuid
  title : BoundedText 1 500
  message : Option String := none
  expiresAt : Option Instant := none
  signers : List SignerCreate
  signers_ne_nil : signers ≠ []

/-- What a request meets outside the tables: the clock, the ids that `uuid4` draws, and
the object store. -/
structure Environment where
  now : Instant
  requestId : Uuid
  signerIds : ℕ → Uuid
  accessTokens : ℕ → Uuid
  entryIds : ℕ → Uuid
  /-- `get_download_url(storage_key)`, nothing when it raises -/
  downloadUrl : String → Option String
  /-- The certificate can be put into the object store. -/
  certificateStored : Bool
  /-- `create_audit_log` returns. -/
  auditLogged : Bool

def getDocument (db : TrailDb) (documentId : Uuid) : Option Document :=
  Table.find Document.id documentId db.documents

/-- `uuid.uuid4().hex` -/
def uuidHex (id : Uuid) : String :=
  String.ofList ((uuidText id).filter (fun c => c ≠ '-'))

def insertOrigin (db : TrailDb) (origin : RequestOrigin) : Option TrailDb := do
  let _ ← getDocument db origin.documentId
  let _ ← Table.find Matter.id origin.matterId db.matters
  some { db with origins := db.origins++[origin] }

def insertRequest (db : TrailDb) (request : SignatureRequest) : Option TrailDb := do
  let requests ← Table.insert SignatureRequest.id request db.requests
  some { db with requests := requests }

def insertSigner (db : TrailDb) (signer : Signer) : Option TrailDb := do
  let signers ← Table.insert Signer.id signer db.signers
  let _ ← Table.insert Signer.accessToken signer db.signers
  some { db with signers := signers }

/-- Flush an entry, if its columns can hold the texts. -/
def insertEntry (db : TrailDb) (entry : SignatureAuditEntry) : Option TrailDb := do
  let ipAddress ← optVarchar 45 entry.ipAddress
  let userAgent ← optVarchar 500 entry.userAgent
  let details ← nullable textColumn entry.details
  let entries ← Table.insert SignatureAuditEntry.id
    { entry with ipAddress := ipAddress, userAgent := userAgent, details := details } db.entries
  some { db with entries := entries }

def setRequest (db : TrailDb) (request : SignatureRequest) : TrailDb :=
  { db with
    requests := Table.alter SignatureRequest.id request.id (fun _ => request) db.requests }

def setSigner (db : TrailDb) (signer : Signer) : TrailDb :=
  { db with signers := Table.alter Signer.id signer.id (fun _ => signer) db.signers }

/-- The signers of a new request, from the `i`-th on. -/
def insertSigners (env : Environment) : List SignerCreate → ℕ → TrailDb → Option TrailDb
  | [], _, db => some db
  | data :: rest, i, db => do
    let name ← boundedVarchar data.name
    let email ← boundedVarchar data.email
    let _ ← nullable boundedVarchar data.role
    let _ ← intColumn data.order
    let db ← insertSigner db
      { id := env.signerIds i
        signatureRequestId := env.requestId
        name := name
        email := email
        accessToken := uuidHex (env.accessTokens i) }
    insertSigners env rest (i+1) db

def createSignatureRequest (env : Environment) (db : TrailDb) (data : SignatureRequestCreate)
    (createdBy : Uuid) : Option (SignatureRequest × TrailDb) := do
  let title ← boundedVarchar data.title
  let message ← nullable textColumn data.message
  let request : SignatureRequest :=
    { id := env.requestId, title := title, message := message, expiresAt := data.expiresAt }
  let db ← insertRequest db request
  let db ← insertOrigin db ⟨env.requestId, data.documentId, data.matterId, createdBy⟩
  let db ← insertSigners env data.signers 0 db
  let db ← insertEntry db
    { id := env.entryIds 0
      signatureRequestId := request.id
      action := "created"
      details := some ("Signature request created with "++toString data.signers.length++
        " signer(s)") }
  some (request, db)

/-- The entries of the signers a request is sent to, from the `i`-th on. -/
def insertSent (env : Environment) (request : SignatureRequest) (ipAddress : Option String) :
    List Signer → ℕ → TrailDb → Option TrailDb
  | [], _, db => some db
  | signer :: rest, i, db => do
    let db ← insertEntry db
      { id := env.entryIds i
        signatureRequestId := request.id
        signerId := some signer.id
        action := "sent"
        ipAddress := ipAddress
        details := some ("Signing request sent to "++signer.email) }
    insertSent env request ipAddress rest (i+1) db

/-- The result of a flush, or the exception that it raises. -/
def flushed {α : Type} (db : TrailDb) : Option (α × TrailDb) → Except HttpError α × TrailDb
  | none => (.error .internal, db)
  | some (a, db') => (.ok a, db')

/-- `send_signature_request` -/
def sendSignatureRequest (env : Environment) (db : TrailDb) (requestId : Uuid)
    (ipAddress : Option String) : Except HttpError SignatureRequest × TrailDb :=
  match getRequest db.toDb requestId with
  | none => (.error ⟨400, "Signature request not found"⟩, db)
  | some request =>
    if request.status ≠ .draft then (.error ⟨400, "Only draft requests can be sent"⟩, db)
    else
      let request' := { request with status := .pending }
      flushed db ((insertSent env request ipAddress (signersOf db.toDb request.id) 0
        (setRequest db request')).map (fun db' => (request', db')))

/-- The two queries every public signing route starts with. -/
def findSigning (db : TrailDb) (accessToken : String) :
    Except HttpError (Signer × SignatureRequest) :=
  match getSignerByToken db.toDb accessToken with
  | none => .error ⟨400, "Invalid access token"⟩
  | some signer =>
    match getRequest db.toDb signer.signatureRequestId with
    | none => .error ⟨400, "Signature request not found"⟩
    | some request => .ok (signer, request)

def requestExpired : HttpError := ⟨400, "Signature request has expired"⟩

def requestNotOpen (request : SignatureRequest) : HttpError :=
  ⟨400, "Signature request is "++request.status.value⟩

structure SigningPageInfo where
  requestTitle : String
  message : Option String
  signerName : String
  signerEmail : String
  signerStatus : String
  documentDownloadUrl : String
  deriving DecidableEq

def expiredEntry (env : Environment) (request : SignatureRequest) : SignatureAuditEntry where
  id := env.entryIds 0
  signatureRequestId := request.id
  action := "expired"
  details := some "Signature request has expired"

def expiredRequest (request : SignatureRequest) : SignatureRequest :=
  { request with status := .expired }

/-- The first view of a signer. -/
def recordView (env : Environment) (db : TrailDb) (signer : Signer) (request : SignatureRequest)
    (ipAddress userAgent : Option String) : Option (Signer × TrailDb) :=
  if signer.status = .pending then
    let signer' := { signer with status := .viewed }
    (insertEntry (setSigner db signer')
      { id := env.entryIds 0
        signatureRequestId := request.id
        signerId := some signer.id
        action := "viewed"
        ipAddress := ipAddress
        userAgent := userAgent
        details := some (signer.name++" viewed the document") }).map (fun db' => (signer', db'))
  else some (signer, db)

def documentOf (db : TrailDb) (request : SignatureRequest) : Option Document := do
  let origin ← Table.find RequestOrigin.requestId request.id db.origins
  getDocument db origin.documentId

def signingPage (signer : Signer) (request : SignatureRequest) (url : String) :
    SigningPageInfo where
  requestTitle := request.title
  message := request.message
  signerName := signer.name
  signerEmail := signer.email
  signerStatus := signer.status.value
  documentDownloadUrl := url

/-- `get_signing_page_info`. The expiry of a request is flushed before it raises. -/
def getSigningPageInfo (env : Environment) (db : TrailDb) (accessToken : String)
    (ipAddress userAgent : Option String) : Except HttpError SigningPageInfo × TrailDb :=
  match findSigning db accessToken with
  | .error error => (.error error, db)
  | .ok (signer, request) =>
    if isExpired request env.now then
      match insertEntry (setRequest db (expiredRequest request)) (expiredEntry env request) with
      | none => (.error .internal, db)
      | some db' => (.error requestExpired, db')
    else if !isOpen request then (.error (requestNotOpen request), db)
    else
      match recordView env db signer request ipAddress userAgent with
      | none => (.error .internal, db)
      | some (signer, db') =>
        match documentOf db' request with
        | none => (.error ⟨400, "Document not found"⟩, db')
        | some document =>
          match env.downloadUrl document.storageKey with
          | none => (.error .internal, db')
          | some url => (.ok (signingPage signer request url), db')

/-- A signature, if it can be flushed and its certificate stored. -/
def recordSignature (env : Environment) (db : TrailDb) (signer : Signer)
    (request : SignatureRequest) (ipAddress userAgent : Option String) :
    Option (Signer × TrailDb) := do
  let signedIp ← optVarchar 45 ipAddress
  let signedUserAgent ← optVarchar 500 userAgent
  let signer' : Signer :=
    { signer with
      status := .signed
      signedAt := some env.now
      signedIp := signedIp
      signedUserAgent := signedUserAgent }
  let db ← insertEntry (setSigner db signer')
    { id := env.entryIds 0
      signatureRequestId := request.id
      signerId := some signer.id
      action := "signed"
      ipAddress := ipAddress
      userAgent := userAgent
      details := some (signer.name++" signed the document") }
  let signers := signersOf db.toDb request.id
  let db := setRequest db (requestAfterSign signer request signers env.now)
  if allSigned signers signer.id then
    if !env.certificateStored then none
    else
      let db ← insertEntry db
        { id := env.entryIds 1
          signatureRequestId := request.id
          action := "completed"
          details := some "All signers have signed. Request completed." }
      some (signer', db)
  else some (signer', db)

/-- `sign_document` -/
def signDocument (env : Environment) (db : TrailDb) (accessToken : String)
    (ipAddress userAgent : Option String) : Except HttpError Signer × TrailDb :=
  match findSigning db accessToken with
  | .error error => (.error error, db)
  | .ok (signer, request) =>
    -- no entry is written here, unlike on the signing page
    if isExpired request env.now then
      (.error requestExpired, setRequest db (expiredRequest request))
    else if !isOpen request then (.error (requestNotOpen request), db)
    else if signer.status = .signed then (.error ⟨400, "Already signed"⟩, db)
    else if signer.status = .declined then (.error ⟨400, "Signer has declined"⟩, db)
    else flushed db (recordSignature env db signer request ipAddress userAgent)

def declinedEntry (env : Environment) (signer : Signer) (request : SignatureRequest)
    (reason : String) (ipAddress userAgent : Option String) : SignatureAuditEntry where
  id := env.entryIds 0
  signatureRequestId := request.id
  signerId := some signer.id
  action := "declined"
  ipAddress := ipAddress
  userAgent := userAgent
  details := some (signer.name++" declined to sign. Reason: "++reason)

def cancelledEntry (env : Environment) (request : SignatureRequest) : SignatureAuditEntry where
  id := env.entryIds 1
  signatureRequestId := request.id
  action := "cancelled"
  details := some "Request cancelled due to signer declining"

/-- A refusal, if it can be flushed. -/
def recordDecline (env : Environment) (db : TrailDb) (signer : Signer)
    (request : SignatureRequest) (reason : String) (ipAddress userAgent : Option String) :
    Option (Signer × TrailDb) := do
  let declineReason ← textColumn reason
  let signer' : Signer :=
    { signer with status := .declined, declineReason := some declineReason }
  let db := setRequest (setSigner db signer') { request with status := .cancelled }
  let db ← insertEntry db (declinedEntry env signer request reason ipAddress userAgent)
  let db ← insertEntry db (cancelledEntry env request)
  some (signer', db)

/-- `decline_document`. It does not look at the expiry. -/
def declineDocument (env : Environment) (db : TrailDb) (accessToken reason : String)
    (ipAddress userAgent : Option String) : Except HttpError Signer × TrailDb :=
  match findSigning db accessToken with
  | .error error => (.error error, db)
  | .ok (signer, request) =>
    if !isOpen request then (.error (requestNotOpen request), db)
    else if signer.status = .signed ∨ signer.status = .declined then
      (.error ⟨400, "Signer has already "++signer.status.value⟩, db)
    else flushed db (recordDecline env db signer request reason ipAddress userAgent)

/-- `cancel_signature_request` -/
def cancelSignatureRequest (env : Environment) (db : TrailDb) (requestId : Uuid)
    (ipAddress : Option String) : Except HttpError SignatureRequest × TrailDb :=
  match getRequest db.toDb requestId with
  | none => (.error ⟨400, "Signature request not found"⟩, db)
  | some request =>
    if request.status = .completed ∨ request.status = .cancelled then
      (.error ⟨400, "Cannot cancel a "++request.status.value++" request"⟩, db)
    else
      let request' := { request with status := .cancelled }
      flushed db ((insertEntry (setRequest db request')
        { id := env.entryIds 0
          signatureRequestId := request.id
          action := "cancelled"
          ipAddress := ipAddress
          details := some "Signature request cancelled by creator" }).map
        (fun db' => (request', db')))

inductive TrailCall where
  | create (data : SignatureRequestCreate) (createdBy : Uuid)
  | send (requestId : Uuid) (ipAddress : Option String)
  | view (accessToken : String) (ipAddress userAgent : Option String)
  | sign (accessToken : String) (ipAddress userAgent : Option String)
  | decline (accessToken : String) (reason : BoundedText 1 2000)
      (ipAddress userAgent : Option String)
  | cancel (requestId : Uuid) (ipAddress : Option String)

inductive TrailResponse where
  | request (request : SignatureRequest)
  | page (info : SigningPageInfo)
  | signed (signerName : String) (signedAt : Option Instant)
  | declined (signerName : String)

/-- The response to a result. -/
def respondWith {α : Type} (response : α → TrailResponse) (result : Except HttpError α × TrailDb) :
    Except HttpError TrailResponse × TrailDb :=
  (result.1.map response, result.2)

/-- The staff routes write to the audit log before they return. -/
def andLog (env : Environment) (result : Except HttpError SignatureRequest × TrailDb) :
    Except HttpError SignatureRequest × TrailDb :=
  match result with
  | (.error error, db) => (.error error, db)
  | (.ok request, db) => if env.auditLogged then (.ok request, db) else (.error .internal, db)

/-- The routes. -/
def esignHandle (r : Environment × TrailCall) : Handler TrailDb HttpError TrailResponse := fun db =>
  match r.2 with
  | .create data createdBy =>
    respondWith .request (andLog r.1 (flushed db (createSignatureRequest r.1 db data createdBy)))
  | .send requestId ipAddress =>
    respondWith .request (andLog r.1 (sendSignatureRequest r.1 db requestId ipAddress))
  | .view accessToken ipAddress userAgent =>
    respondWith .page (getSigningPageInfo r.1 db accessToken ipAddress userAgent)
  | .sign accessToken ipAddress userAgent =>
    respondWith (fun signer => .signed signer.name signer.signedAt)
      (signDocument r.1 db accessToken ipAddress userAgent)
  | .decline accessToken reason ipAddress userAgent =>
    respondWith (fun signer => .declined signer.name)
      (declineDocument r.1 db accessToken reason.text ipAddress userAgent)
  | .cancel requestId ipAddress =>
    respondWith .request (andLog r.1 (cancelSignatureRequest r.1 db requestId ipAddress))

end LegalForge.Esign
