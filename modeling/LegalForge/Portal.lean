import LegalForge.BillingModels
import LegalForge.Deadlines
import LegalForge.MatterModels
import LegalForge.Pagination
import LegalForge.UnitOfWork

/-! The client portal: matters, shared documents, invoices and messages. -/
namespace LegalForge.Portal
open Auth Matters UnitOfWork
open Deadlines (BoundedText textColumn nullable boundedVarchar)

inductive SenderType where
  | staff
  | client
  deriving DecidableEq

def SenderType.value : SenderType → String
  | .staff => "staff"
  | .client => "client"

/-- A login of a client, apart from the users of the firm. -/
structure ClientUser where
  id : Uuid
  clientId : Uuid
  email : String
  passwordHash : String
  firstName : String
  lastName : String
  isActive : Bool := true
  lastLogin : Option Instant := none
  createdAt : Instant
  updatedAt : Instant
  deriving DecidableEq

structure Message where
  id : Uuid
  matterId : Uuid
  senderType : SenderType
  senderStaffId : Option Uuid := none
  senderClientUserId : Option Uuid := none
  subject : Option String
  body : String
  parentMessageId : Option Uuid
  isRead : Bool := false
  readAt : Option Instant := none
  createdAt : Instant
  deriving DecidableEq

structure SharedDocument where
  id : Uuid
  documentId : Uuid
  matterId : Uuid
  sharedBy : Uuid
  sharedAt : Instant
  note : Option String
  deriving DecidableEq

structure Invoice extends Billing.Invoice where
  createdAt : Instant
  deriving DecidableEq

def invoiceStatusValue : Billing.InvoiceStatus → String
  | .draft => "draft"
  | .sent => "sent"
  | .paid => "paid"
  | .overdue => "overdue"
  | .void => "void"

structure PortalDb where
  users : List User
  clientUsers : List ClientUser
  matters : List Matter
  documents : List Document
  sharedDocuments : List SharedDocument
  invoices : List Invoice
  messages : List Message

structure ShareDocumentRequest where
  documentId : Uuid
  matterId : Uuid
  note : Option String := none

structure MessageCreate where
  matterId : Uuid
  body : String
  subject : Option (BoundedText 0 500) := none
  parentMessageId : Option Uuid := none
  body_ne : body ≠ ""

structure PortalMatterResponse where
  id : Uuid
  title : String
  status : String
  litigationType : String
  dateOpened : Day
  dateClosed : Option Day
  description : Option String
  attorneyName : Option String
  deriving DecidableEq

structure PortalInvoiceResponse where
  id : Uuid
  invoiceNumber : Option ℤ
  matterTitle : Option String
  totalCents : ℤ
  status : String
  issuedDate : Option Date
  dueDate : Option Date
  deriving DecidableEq

structure SharedDocumentResponse where
  id : Uuid
  documentId : Uuid
  matterId : Uuid
  filename : String
  mimeType : String
  sizeBytes : ℤ
  sharedByName : String
  sharedAt : Instant
  note : Option String
  deriving DecidableEq

structure MessageResponse where
  id : Uuid
  matterId : Uuid
  senderType : String
  senderName : String
  subject : Option String
  body : String
  parentMessageId : Option Uuid
  isRead : Bool
  readAt : Option Instant
  createdAt : Instant
  deriving DecidableEq

structure ClientUserResponse where
  id : Uuid
  clientId : Uuid
  email : String
  firstName : String
  lastName : String
  isActive : Bool
  lastLogin : Option Instant
  createdAt : Instant
  updatedAt : Instant
  deriving DecidableEq

inductive PortalResponse where
  | login (accessToken : Jwt) (refreshToken : String)
  | clientUser (user : ClientUserResponse)
  | matters (page : PaginatedResponse PortalMatterResponse)
  | matter (matter : PortalMatterResponse)
  | documents (page : PaginatedResponse SharedDocumentResponse)
  | document (document : SharedDocumentResponse)
  | invoices (page : PaginatedResponse PortalInvoiceResponse)
  | messages (page : PaginatedResponse MessageResponse)
  | message (message : MessageResponse)
  | unread (unreadCount : ℕ)
  deriving DecidableEq

/-- `get_current_user` -/
def getCurrentUser (db : PortalDb) (userId : Uuid) : Except HttpError User :=
  match Table.find User.id userId db.users with
  | none => .error ⟨401, "User not found or inactive"⟩
  | some user => if user.isActive then .ok user else .error ⟨401, "User not found or inactive"⟩

/-- `get_current_client_user` -/
def getCurrentClientUser (db : PortalDb) (userId : Uuid) : Except HttpError ClientUser :=
  match Table.find ClientUser.id userId db.clientUsers with
  | none => .error ⟨401, "Client user not found or inactive"⟩
  | some user =>
    if user.isActive then .ok user else .error ⟨401, "Client user not found or inactive"⟩

/-- `select(Matter).where(Matter.id == matter_id, Matter.client_id == client_id)` -/
def clientMatter (db : PortalDb) (clientId matterId : Uuid) : Option Matter :=
  db.matters.find? (fun m => m.id = matterId ∧ m.clientId = clientId)

def fullName (firstName lastName : String) : String :=
  firstName++" "++lastName

/-- The name of a user that a row refers to. -/
def staffName (db : PortalDb) (userId : Option Uuid) : Option String :=
  (userId.bind fun id => Table.find User.id id db.users).map fun u => fullName u.firstName u.lastName

def clientUserName (db : PortalDb) (userId : Option Uuid) : Option String :=
  (userId.bind fun id => Table.find ClientUser.id id db.clientUsers).map
    fun u => fullName u.firstName u.lastName

def portalMatter (db : PortalDb) (m : Matter) : PortalMatterResponse where
  id := m.id
  title := m.title
  status := m.status.value
  litigationType := m.litigationType.value
  dateOpened := m.dateOpened
  dateClosed := m.dateClosed
  description := m.description
  attorneyName := staffName db m.assignedAttorneyId

def portalInvoice (db : PortalDb) (inv : Invoice) : PortalInvoiceResponse where
  id := inv.id
  invoiceNumber := inv.invoiceNumber
  matterTitle := (Table.find Matter.id inv.matterId db.matters).map Matter.title
  totalCents := inv.totalCents
  status := invoiceStatusValue inv.status
  issuedDate := inv.issuedDate
  dueDate := inv.dueDate

def sharedDocumentItem (db : PortalDb) (sd : SharedDocument) : SharedDocumentResponse :=
  let doc := Table.find Document.id sd.documentId db.documents
  { id := sd.id
    documentId := sd.documentId
    matterId := sd.matterId
    filename := doc.elim "Unknown" Document.filename
    mimeType := doc.elim "unknown" Document.mimeType
    sizeBytes := doc.elim 0 Document.sizeBytes
    sharedByName := (staffName db (some sd.sharedBy)).getD "Unknown"
    sharedAt := sd.sharedAt
    note := sd.note }

def senderName (db : PortalDb) (msg : Message) : String :=
  match msg.senderType with
  | .staff => (staffName db msg.senderStaffId).getD "Unknown"
  | .client => (clientUserName db msg.senderClientUserId).getD "Unknown"

def messageResponse (senderName : String) (msg : Message) : MessageResponse where
  id := msg.id
  matterId := msg.matterId
  senderType := msg.senderType.value
  senderName := senderName
  subject := msg.subject
  body := msg.body
  parentMessageId := msg.parentMessageId
  isRead := msg.isRead
  readAt := msg.readAt
  createdAt := msg.createdAt

def clientUserResponse (u : ClientUser) : ClientUserResponse where
  id := u.id
  clientId := u.clientId
  email := u.email
  firstName := u.firstName
  lastName := u.lastName
  isActive := u.isActive
  lastLogin := u.lastLogin
  createdAt := u.createdAt
  updatedAt := u.updatedAt

/-- Count the rows, and read one page of them in the order of the query. -/
def listPage {α β : Type} (order : α → α → Bool) (item : α → β) (page pageSize : ℤ)
    (rows : List α) : Except HttpError (PaginatedResponse β) :=
  let offset := (page-1)*pageSize
  if offset < 0 ∨ pageSize < 0 then .error .internal
  else
    paginated ((((rows.mergeSort order).drop offset.toNat).take pageSize.toNat).map item) rows.length
      page pageSize

/-- `get_client_matters` -/
def getClientMatters (db : PortalDb) (clientId : Uuid) (page pageSize : ℤ) :
    Except HttpError (PaginatedResponse PortalMatterResponse) :=
  listPage (fun m m' => m'.dateOpened.ordinal ≤ m.dateOpened.ordinal) (portalMatter db) page pageSize
    (db.matters.filter (fun m => m.clientId = clientId))

/-- `get_client_matter_detail` -/
def getClientMatterDetail (db : PortalDb) (clientId matterId : Uuid) :
    Option PortalMatterResponse :=
  (clientMatter db clientId matterId).map (portalMatter db)

/-- `get_shared_documents_staff` -/
def getSharedDocumentsStaff (db : PortalDb) (matterId : Uuid) (page pageSize : ℤ) :
    Except HttpError (PaginatedResponse SharedDocumentResponse) :=
  listPage (fun sd sd' => sd'.sharedAt ≤ sd.sharedAt) (sharedDocumentItem db) page pageSize
    (db.sharedDocuments.filter (fun sd => sd.matterId = matterId))

/-- `get_shared_documents` -/
def getSharedDocuments (db : PortalDb) (matterId clientId : Uuid) (page pageSize : ℤ) :
    Except HttpError (PaginatedResponse SharedDocumentResponse) :=
  match clientMatter db clientId matterId with
  | none => paginated [] 0 page pageSize
  | some _ => getSharedDocumentsStaff db matterId page pageSize

/-- `get_client_invoices` -/
def getClientInvoices (db : PortalDb) (clientId : Uuid) (page pageSize : ℤ) :
    Except HttpError (PaginatedResponse PortalInvoiceResponse) :=
  listPage (fun inv inv' => inv'.createdAt ≤ inv.createdAt) (portalInvoice db) page pageSize
    (db.invoices.filter (fun inv => inv.clientId = clientId ∧ inv.status ≠ .draft))

/-- `get_messages` -/
def getMessages (db : PortalDb) (matterId : Uuid) (page pageSize : ℤ) :
    Except HttpError (PaginatedResponse MessageResponse) :=
  listPage (fun msg msg' => msg.createdAt ≤ msg'.createdAt)
    (fun msg => messageResponse (senderName db msg) msg) page pageSize
    (db.messages.filter (fun msg => msg.matterId = matterId))

/-- `get_unread_count` -/
def getUnreadCount (db : PortalDb) (clientId : Uuid) : ℕ :=
  let matterIds := (db.matters.filter (fun m => m.clientId = clientId)).map Matter.id
  (db.messages.filter
    (fun msg => msg.matterId ∈ matterIds ∧ msg.senderType = .staff ∧ msg.isRead = false)).length

/-- A foreign key that may be null. -/
def refers {α : Type} (key : α → Uuid) (rows : List α) : Option Uuid → Bool
  | none => true
  | some id => (Table.find key id rows).isSome

def newSharedDocument (data : ShareDocumentRequest) (sharedId sharedBy : Uuid) (now : Instant) :
    Option SharedDocument := do
  let note ← nullable textColumn data.note
  some ⟨sharedId, data.documentId, data.matterId, sharedBy, now, note⟩

def insertSharedDocument (db : PortalDb) (sd : SharedDocument) : Option PortalDb :=
  if refers Document.id db.documents (some sd.documentId) ∧
      refers Matter.id db.matters (some sd.matterId) ∧ refers User.id db.users (some sd.sharedBy) then do
    let rows ← Table.insert SharedDocument.id sd db.sharedDocuments
    some { db with sharedDocuments := rows }
  else none

/-- `share_document` -/
def shareDocument (db : PortalDb) (data : ShareDocumentRequest) (sharedId sharedBy : Uuid)
    (now : Instant) : Option (SharedDocument × PortalDb) := do
  let sd ← newSharedDocument data sharedId sharedBy now
  let db' ← insertSharedDocument db sd
  some (sd, db')

def newMessage (data : MessageCreate) (senderType : SenderType) (messageId senderId : Uuid)
    (now : Instant) : Option Message := do
  let subject ← nullable boundedVarchar data.subject
  let body ← textColumn data.body
  some
    { id := messageId
      matterId := data.matterId
      senderType := senderType
      senderStaffId := if senderType = .staff then some senderId else none
      senderClientUserId := if senderType = .staff then none else some senderId
      subject := subject
      body := body
      parentMessageId := data.parentMessageId
      createdAt := now }

def insertMessage (db : PortalDb) (msg : Message) : Option PortalDb :=
  if refers Matter.id db.matters (some msg.matterId) ∧
      refers User.id db.users msg.senderStaffId ∧
      refers ClientUser.id db.clientUsers msg.senderClientUserId ∧
      refers Message.id db.messages msg.parentMessageId then do
    let rows ← Table.insert Message.id msg db.messages
    some { db with messages := rows }
  else none

/-- `send_message` -/
def sendMessage (db : PortalDb) (data : MessageCreate) (senderType : SenderType)
    (messageId senderId : Uuid) (now : Instant) : Option (Message × PortalDb) := do
  let msg ← newMessage data senderType messageId senderId now
  let db' ← insertMessage db msg
  some (msg, db')

def readMessage (now : Instant) (msg : Message) : Message :=
  { msg with isRead := true, readAt := some now }

/-- `mark_message_read` -/
def markMessageRead (db : PortalDb) (messageId : Uuid) (now : Instant) :
    Option (Message × PortalDb) :=
  (Table.find Message.id messageId db.messages).map fun msg =>
    (readMessage now msg,
      { db with messages := Table.alter Message.id messageId (readMessage now) db.messages })

/-- What a client asks for when logged in. `now` is when the request runs. -/
inductive ClientRequest where
  | getMe
  | listMatters (page pageSize : ℤ)
  | getMatter (matterId : Uuid)
  | getDocuments (matterId : Uuid) (page pageSize : ℤ)
  | listInvoices (page pageSize : ℤ)
  | getMessages (matterId : Uuid) (page pageSize : ℤ)
  | sendMessage (data : MessageCreate) (messageId : Uuid) (now : Instant)
  | markMessageRead (messageId : Uuid) (now : Instant)
  | getUnreadCount

def matterNotFound : HttpError := ⟨404, "Matter not found"⟩

def messageNotFound : HttpError := ⟨404, "Message not found"⟩

/-- A read-only request. -/
def answer {α : Type} (db : PortalDb) (result : Except HttpError α) (response : α → PortalResponse) :
    Except HttpError PortalResponse × PortalDb :=
  (result.map response, db)

/-- The endpoints of the portal, for a client user who is logged in. -/
def clientRequest (user : ClientUser) : ClientRequest → Handler PortalDb HttpError PortalResponse
  | .getMe, db => answer db (.ok (clientUserResponse user)) .clientUser
  | .listMatters page pageSize, db =>
    answer db (getClientMatters db user.clientId page pageSize) .matters
  | .getMatter matterId, db =>
    match getClientMatterDetail db user.clientId matterId with
    | none => (.error matterNotFound, db)
    | some detail => (.ok (.matter detail), db)
  | .getDocuments matterId page pageSize, db =>
    answer db (getSharedDocuments db matterId user.clientId page pageSize) .documents
  | .listInvoices page pageSize, db =>
    answer db (getClientInvoices db user.clientId page pageSize) .invoices
  | .getMessages matterId page pageSize, db =>
    match clientMatter db user.clientId matterId with
    | none => (.error matterNotFound, db)
    | some _ => answer db (getMessages db matterId page pageSize) .messages
  | .sendMessage data messageId now, db =>
    match clientMatter db user.clientId data.matterId with
    | none => (.error matterNotFound, db)
    | some _ =>
      match sendMessage db data .client messageId user.id now with
      | none => (.error .internal, db)
      | some (msg, db') =>
        (.ok (.message (messageResponse (fullName user.firstName user.lastName) msg)), db')
  | .markMessageRead messageId now, db =>
    match markMessageRead db messageId now with
    | none => (.error messageNotFound, db)
    | some (msg, db') =>
      match clientMatter db' user.clientId msg.matterId with
      | none => (.error messageNotFound, db')
      | some _ => (.ok (.message (messageResponse (senderName db' msg) msg)), db')
  | .getUnreadCount, db => (.ok (.unread (getUnreadCount db user.clientId)), db)

/-- What the staff does: `staffId` is the user of the token. -/
inductive StaffRequest where
  | shareDocument (data : ShareDocumentRequest) (sharedId : Uuid) (now : Instant)
  | listSharedDocuments (matterId : Uuid) (page pageSize : ℤ)
  | getMessages (matterId : Uuid) (page pageSize : ℤ)
  | sendMessage (data : MessageCreate) (messageId : Uuid) (now : Instant)

def staffRequest (user : User) : StaffRequest → Handler PortalDb HttpError PortalResponse
  | .shareDocument data sharedId now, db =>
    match shareDocument db data sharedId user.id now with
    | none => (.error .internal, db)
    | some (sd, db') =>
      (.ok (.document { sharedDocumentItem db' sd with
        sharedByName := fullName user.firstName user.lastName }), db')
  | .listSharedDocuments matterId page pageSize, db =>
    answer db (getSharedDocumentsStaff db matterId page pageSize) .documents
  | .getMessages matterId page pageSize, db =>
    answer db (getMessages db matterId page pageSize) .messages
  | .sendMessage data messageId now, db =>
    match sendMessage db data .staff messageId user.id now with
    | none => (.error .internal, db)
    | some (msg, db') =>
      (.ok (.message (messageResponse (fullName user.firstName user.lastName) msg)), db')

/-- What a login sends and draws. `started` is when its transaction began. -/
structure ClientLogin where
  email : String
  password : String
  refreshToken : String
  now : Instant
  started : Instant

def loggedIn (login : ClientLogin) (u : ClientUser) : ClientUser :=
  { u with lastLogin := some login.now, updatedAt := login.started }

/-- `authenticate_client_user` -/
def authenticateClientUser (cfg : Config) (db : PortalDb) (login : ClientLogin) :
    Option (ClientUser × PortalDb) :=
  match Table.find ClientUser.email login.email db.clientUsers with
  | none => none
  | some u =>
    if !u.isActive then none
    else if !cfg.verifyPassword login.password u.passwordHash then none
    else
      some (loggedIn login u,
        { db with clientUsers := Table.alter ClientUser.id u.id (loggedIn login) db.clientUsers })

def createClientAccessToken (cfg : Config) (userId : Uuid) (now : Instant) : Jwt :=
  ⟨userId, none, "client_access", now+minutes cfg.jwtAccessTokenExpireMinutes⟩

inductive PortalCall where
  | login (login : ClientLogin)
  | client (userId : Uuid) (request : ClientRequest)
  | staff (userId : Uuid) (request : StaffRequest)

def portalHandle (cfg : Config) (call : PortalCall) : Handler PortalDb HttpError PortalResponse :=
  fun db =>
    match call with
    | .login login =>
      match authenticateClientUser cfg db login with
      | none => (.error ⟨401, "Invalid credentials"⟩, db)
      | some (u, db') => (.ok (.login (createClientAccessToken cfg u.id login.now) login.refreshToken), db')
    | .client userId request =>
      match getCurrentClientUser db userId with
      | .error error => (.error error, db)
      | .ok user => clientRequest user request db
    | .staff userId request =>
      match getCurrentUser db userId with
      | .error error => (.error error, db)
      | .ok user => staffRequest user request db

end LegalForge.Portal
