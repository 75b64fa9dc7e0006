import LegalForge.MatterListing
import LegalForge.Portal

/-! What the staff reads of a matter: the matter, its documents, the portal, time entries, invoices. -/
namespace LegalForge.StaffReads
open Auth Matters Access Billing
open Portal (ClientUser Message SharedDocument MessageResponse SharedDocumentResponse PortalDb
  getMessages getSharedDocumentsStaff)

structure StoredDocument extends Matters.Document where
  parentDocumentId : Option Uuid := none
  tagsJson : Option (List String) := none
  createdAt : Instant

structure StoredTimeEntry extends Billing.TimeEntry where
  createdAt : Instant
  updatedAt : Instant

structure StoredInvoice extends Billing.Invoice where
  pdfStorageKey : Option String := none
  createdAt : Instant
  updatedAt : Instant

structure FirmDb where
  users : List User
  clientUsers : List ClientUser
  matters : List Matter
  walls : List EthicalWall
  documents : List StoredDocument
  sharedDocuments : List SharedDocument
  messages : List Message
  timeEntries : List StoredTimeEntry
  invoices : List StoredInvoice

/-- The tables that the access check reads. -/
def FirmDb.access (db : FirmDb) : AccessDb :=
  ⟨db.users, db.matters, db.walls⟩

/-- The tables that the portal reads. -/
def FirmDb.portal (db : FirmDb) : PortalDb where
  users := db.users
  clientUsers := db.clientUsers
  matters := db.matters
  documents := db.documents.map StoredDocument.toDocument
  sharedDocuments := db.sharedDocuments
  invoices := db.invoices.map fun inv => ⟨inv.toInvoice, inv.createdAt⟩
  messages := db.messages

/-- The columns of a document besides its place in the object store. -/
structure DocumentResponse where
  id : Uuid
  matterId : Uuid
  uploadedBy : Uuid
  filename : String
  mimeType : String
  sizeBytes : ℤ
  version : ℤ
  parentDocumentId : Option Uuid
  tagsJson : Option (List String)
  description : Option String
  createdAt : Instant

def documentResponse (d : StoredDocument) : DocumentResponse where
  id := d.id
  matterId := d.matterId
  uploadedBy := d.uploadedBy
  filename := d.filename
  mimeType := d.mimeType
  sizeBytes := d.sizeBytes
  version := d.version
  parentDocumentId := d.parentDocumentId
  tagsJson := d.tagsJson
  description := d.description
  createdAt := d.createdAt

/-- The columns of an invoice, whose number must be there. -/
structure InvoiceResponse where
  invoice : StoredInvoice
  number_ne : invoice.invoiceNumber ≠ none

/-- `InvoiceResponse.model_validate(i)` -/
def invoiceResponse (inv : StoredInvoice) : Except HttpError InvoiceResponse :=
  if h : inv.invoiceNumber ≠ none then .ok ⟨inv, h⟩ else .error .internal

/-- The offset or the limit of the page is negative. -/
def BadPage (page pageSize : ℤ) : Prop :=
  (page-1)*pageSize < 0 ∨ pageSize < 0

instance (page pageSize : ℤ) : Decidable (BadPage page pageSize) :=
  inferInstanceAs (Decidable (_ ∨ _))

/-- Read one page of the rows found, in the order of the query, and count them all. -/
def selectPage {α : Type} (order : α → α → Bool) (page pageSize : ℤ) (found : List α) :
    Except HttpError (List α × ℕ) :=
  if BadPage page pageSize then .error .internal
  else
    .ok (((found.mergeSort order).drop ((page-1)*pageSize).toNat).take pageSize.toNat, found.length)

/-- The items of a page as the response shows them. -/
def respondPage {α β : Type} (item : α → Except HttpError β) (page pageSize : ℤ) :
    Except HttpError (List α × ℕ) → Except HttpError (PaginatedResponse β)
  | .error error => .error error
  | .ok (rows, total) =>
    match rows.mapM item with
    | .error error => .error error
    | .ok items => paginated items total page pageSize

/-- The pattern of the search term, nothing for an empty one. A text with a zero character is
refused. -/
def searchPattern : Option String → Except HttpError (Option String)
  | none => .ok none
  | some search =>
    if search = "" then .ok none
    else if '\x00' ∈ search.toList then .error .internal
    else .ok (some ("%"++search++"%"))

def matchesPattern (like : String → String → Bool) (filename : String) : Option String → Bool
  | none => true
  | some pattern => ilike like (some filename) pattern

def matchesDocument (like : String → String → Bool) (matterId : Option Uuid) (pattern : Option String)
    (d : StoredDocument) : Bool :=
  unsetOr matterId (some d.matterId) && matchesPattern like d.filename pattern

/-- `get_documents` -/
def getDocuments (like : String → String → Bool) (db : FirmDb) (matterId : Option Uuid)
    (page pageSize : ℤ) (search : Option String) : Except HttpError (List StoredDocument × ℕ) :=
  match searchPattern search with
  | .error error => .error error
  | .ok pattern =>
    selectPage (fun d d' => d'.createdAt ≤ d.createdAt) page pageSize
      (db.documents.filter (matchesDocument like matterId pattern))

/-- `get_document` -/
def getDocument (db : FirmDb) (documentId : Uuid) : Option StoredDocument :=
  Table.find (fun d : StoredDocument => d.id) documentId db.documents

structure TimeEntryFilters where
  matterId : Option Uuid := none
  userId : Option Uuid := none
  startDate : Option Date := none
  endDate : Option Date := none
  billable : Option Bool := none

def matchesTimeEntry (q : TimeEntryFilters) (e : StoredTimeEntry) : Bool :=
  unsetOr q.matterId (some e.matterId) && unsetOr q.userId (some e.userId) &&
    (match q.startDate with | none => true | some day => day ≤ e.date) &&
    (match q.endDate with | none => true | some day => e.date ≤ day) &&
    unsetOr q.billable (some e.billable)

/-- `ORDER BY date DESC, created_at DESC` -/
def latestEntry (e e' : StoredTimeEntry) : Bool :=
  e'.date < e.date ∨ e'.date = e.date ∧ e'.createdAt ≤ e.createdAt

/-- `get_time_entries` -/
def getTimeEntries (db : FirmDb) (page pageSize : ℤ) (q : TimeEntryFilters) :
    Except HttpError (List StoredTimeEntry × ℕ) :=
  selectPage latestEntry page pageSize (db.timeEntries.filter (matchesTimeEntry q))

structure InvoiceFilters where
  clientId : Option Uuid := none
  matterId : Option Uuid := none
  status : Option InvoiceStatus := none

def matchesInvoice (q : InvoiceFilters) (inv : StoredInvoice) : Bool :=
  unsetOr q.clientId (some inv.clientId) && unsetOr q.matterId (some inv.matterId) &&
    unsetOr q.status (some inv.status)

/-- `ORDER BY invoice_number DESC`, nulls first -/
def invoiceNumberDesc (inv inv' : StoredInvoice) : Bool :=
  match inv.invoiceNumber, inv'.invoiceNumber with
  | none, _ => true
  | some _, none => false
  | some n, some n' => n' ≤ n

/-- `get_invoices` -/
def getInvoices (db : FirmDb) (page pageSize : ℤ) (q : InvoiceFilters) :
    Except HttpError (List StoredInvoice × ℕ) :=
  selectPage invoiceNumberDesc page pageSize (db.invoices.filter (matchesInvoice q))

/-- The requests of the staff that read what belongs to a matter. -/
inductive ReadRequest where
  | matterDetail (matterId : Uuid)
  | listDocuments (matterId : Option Uuid) (page pageSize : ℤ) (search : Option String)
  | documentDetail (documentId : Uuid)
  | downloadDocument (documentId : Uuid)
  | listSharedDocuments (matterId : Uuid) (page pageSize : ℤ)
  | getMessages (matterId : Uuid) (page pageSize : ℤ)
  | listTimeEntries (page pageSize : ℤ) (filters : TimeEntryFilters)
  | listInvoices (page pageSize : ℤ) (filters : InvoiceFilters)

inductive ReadResponse where
  | matter (matter : MatterResponse)
  | documents (page : PaginatedResponse DocumentResponse)
  | document (document : DocumentResponse)
  | redirect (url : String)
  | sharedDocuments (page : PaginatedResponse SharedDocumentResponse)
  | messages (page : PaginatedResponse MessageResponse)
  | timeEntries (page : PaginatedResponse StoredTimeEntry)
  | invoices (page : PaginatedResponse InvoiceResponse)

def documentNotFound : HttpError := ⟨404, "Document not found"⟩

/-- `get_matter_detail` -/
def getMatterDetail (db : FirmDb) (user : User) (matterId : Uuid) : Except HttpError MatterResponse :=
  match checkMatterAccess db.access user matterId with
  | .error error => .error error
  | .ok () =>
    match getMatter db.access matterId with
    | none => .error matterNotFound
    | some matter => matterResponse matter

/-- `get_document_detail` -/
def getDocumentDetail (db : FirmDb) (documentId : Uuid) : Except HttpError DocumentResponse :=
  match getDocument db documentId with
  | none => .error documentNotFound
  | some document => .ok (documentResponse document)

/-- `download_document`. `presigned` is the address that the object store gives to a key. -/
def downloadDocument (presigned : String → String) (db : FirmDb) (documentId : Uuid) :
    Except HttpError String :=
  match getDocument db documentId with
  | none => .error documentNotFound
  | some document => .ok (presigned document.storageKey)

/-- What the endpoints answer to a user who is logged in. -/
def read (like : String → String → Bool) (presigned : String → String) (db : FirmDb) (user : User) :
    ReadRequest → Except HttpError ReadResponse
  | .matterDetail matterId => (getMatterDetail db user matterId).map .matter
  | .listDocuments matterId page pageSize search =>
    (respondPage (fun d => .ok (documentResponse d)) page pageSize
      (getDocuments like db matterId page pageSize search)).map .documents
  | .documentDetail documentId => (getDocumentDetail db documentId).map .document
  | .downloadDocument documentId => (downloadDocument presigned db documentId).map .redirect
  | .listSharedDocuments matterId page pageSize =>
    (getSharedDocumentsStaff db.portal matterId page pageSize).map .sharedDocuments
  | .getMessages matterId page pageSize =>
    (getMessages db.portal matterId page pageSize).map .messages
  | .listTimeEntries page pageSize filters =>
    (respondPage .ok page pageSize (getTimeEntries db page pageSize filters)).map .timeEntries
  | .listInvoices page pageSize filters =>
    (respondPage invoiceResponse page pageSize (getInvoices db page pageSize filters)).map .invoices

/-- The rows of a column are each other's only ones, and the rows referred to are there. -/
structure Stored (db : FirmDb) : Prop where
  user_nodup : (db.users.map User.id).Nodup
  matter_nodup : (db.matters.map Matter.id).Nodup
  wall_nodup : (db.walls.map EthicalWall.id).Nodup
  wall_refers : ∀ w ∈ db.walls, w.matterId ∈ db.matters.map Matter.id ∧
    w.userId ∈ db.users.map User.id ∧ w.createdBy ∈ db.users.map User.id
  document_nodup : (db.documents.map fun d => d.id).Nodup
  document_refers : ∀ d ∈ db.documents, d.matterId ∈ db.matters.map Matter.id ∧
    d.uploadedBy ∈ db.users.map User.id ∧
      ∀ parent ∈ d.parentDocumentId, parent ∈ db.documents.map fun d => d.id
  filename_fits : ∀ d ∈ db.documents, d.filename.length ≤ 500 ∧ '\x00' ∉ d.filename.toList
  shared_nodup : (db.sharedDocuments.map SharedDocument.id).Nodup
  shared_refers : ∀ sd ∈ db.sharedDocuments, sd.matterId ∈ db.matters.map Matter.id ∧
    sd.documentId ∈ db.documents.map (fun d => d.id) ∧ sd.sharedBy ∈ db.users.map User.id
  message_nodup : (db.messages.map Message.id).Nodup
  message_refers : ∀ msg ∈ db.messages, msg.matterId ∈ db.matters.map Matter.id ∧
    (∀ sender ∈ msg.senderStaffId, sender ∈ db.users.map User.id) ∧
    (∀ sender ∈ msg.senderClientUserId, sender ∈ db.clientUsers.map ClientUser.id) ∧
      ∀ parent ∈ msg.parentMessageId, parent ∈ db.messages.map Message.id
  timeEntry_nodup : (db.timeEntries.map fun e => e.id).Nodup
  timeEntry_refers : ∀ e ∈ db.timeEntries, e.matterId ∈ db.matters.map Matter.id ∧
    e.userId ∈ db.users.map User.id ∧
      ∀ invoice ∈ e.invoiceId, invoice ∈ db.invoices.map fun inv => inv.id
  invoice_nodup : (db.invoices.map fun inv => inv.id).Nodup
  invoice_refers : ∀ inv ∈ db.invoices, inv.matterId ∈ db.matters.map Matter.id

end LegalForge.StaffReads
