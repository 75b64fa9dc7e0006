import LegalForge.CloudStorage
import LegalForge.SignatureTrail

/-! Documents: their rows, and their content in the object store. -/
namespace LegalForge.Documents
open Auth Matters Esign UnitOfWork
open Deadlines (textColumn intColumn nullable)
open CloudStorage (nonempty bigIntColumn storageKeyOf)

/-- The column `parent_document_id` of a later version. -/
structure DocumentParent where
  documentId : Uuid
  parentDocumentId : Uuid
  deriving DecidableEq

structure DocumentsDb extends TrailDb where
  /-- The ids of the users -/
  users : List Uuid
  parents : List DocumentParent := []
  /-- The documents that the rows of other tables refer to: email attachments, shared documents -/
  references : List Uuid := []

/-- The content under each key. -/
abbrev Objects := String → Option (List UInt8)

abbrev Stores := DocumentsDb × Objects

def putObject (objects : Objects) (storageKey : String) (content : List UInt8) : Objects :=
  Function.update objects storageKey (some content)

def removeObject (objects : Objects) (storageKey : String) : Objects :=
  Function.update objects storageKey none

/-- What becomes of `put_object`: it may raise although the object is there. -/
inductive PutOutcome where
  | stored
  | raised (stored : Bool)
  deriving DecidableEq

/-- What becomes of `remove_object`, whose exceptions are caught. There may be no client to call
it with. -/
inductive RemoveOutcome where
  | noClient
  | called (gone : Bool)
  deriving DecidableEq

structure UploadServices where
  documentId : Uuid
  objectId : Uuid
  put : PutOutcome
  /-- `create_audit_log` returns and the session commits. -/
  finished : Bool

structure DeleteServices where
  remove : RemoveOutcome
  /-- `create_audit_log` returns and the session commits. -/
  finished : Bool

structure UploadRequest where
  matterId : Uuid
  filename : Option String := none
  content : List UInt8
  contentType : Option String := none
  description : Option String := none
  parentDocumentId : Option Uuid := none

/-- The version after that of the parent. -/
def nextVersion (db : DocumentsDb) (parentDocumentId : Option Uuid) : ℤ :=
  match parentDocumentId.bind (getDocument db.toTrailDb) with
  | none => 1
  | some parent => parent.version+1

/-- Flush a new document. -/
def insertDocument (db : DocumentsDb) (doc : Document) (parentDocumentId : Option Uuid) :
    Option (Document × DocumentsDb) := do
  let filename ← varchar 500 doc.filename
  let storageKey ← varchar 1000 doc.storageKey
  let mimeType ← varchar 255 doc.mimeType
  let sizeBytes ← bigIntColumn doc.sizeBytes
  let version ← intColumn doc.version
  let description ← nullable textColumn doc.description
  let row := { doc with
    filename := filename
    storageKey := storageKey
    mimeType := mimeType
    sizeBytes := sizeBytes
    version := version
    description := description }
  let rows ← Table.insert Document.id row db.documents
  if (Table.find Matter.id doc.matterId db.matters).isSome ∧ doc.uploadedBy ∈ db.users ∧
      parentDocumentId.all (fun id => (Table.find Document.id id rows).isSome) then
    some (row, { db with
      documents := rows
      parents := db.parents++parentDocumentId.toList.map (DocumentParent.mk doc.id) })
  else none

/-- `upload_document` -/
def uploadDocument (sv : UploadServices) (s : Stores) (doc : Document) (content : List UInt8)
    (parentDocumentId : Option Uuid) : Except HttpError Document × Stores :=
  match sv.put with
  | .raised stored =>
    (.error .internal, (s.1, if stored then putObject s.2 doc.storageKey content else s.2))
  | .stored =>
    let objects := putObject s.2 doc.storageKey content
    let version := nextVersion s.1 parentDocumentId
    match insertDocument s.1 { doc with version := version } parentDocumentId with
    | none => (.error .internal, (s.1, objects))
    | some (row, db) => (.ok row, (db, objects))

/-- 100MB -/
def maxUploadSize : ℕ := 100*1024*1024

def fileTooLarge : HttpError := ⟨413, "File too large (max 100MB)"⟩

/-- The document that an upload asks for, before its version is known. -/
def uploadedDocument (sv : UploadServices) (userId : Uuid) (body : UploadRequest) : Document :=
  let filename := (nonempty body.filename).getD "unnamed"
  { id := sv.documentId
    matterId := body.matterId
    uploadedBy := userId
    filename := filename
    storageKey := storageKeyOf body.matterId sv.objectId filename
    mimeType := (nonempty body.contentType).getD "application/octet-stream"
    sizeBytes := body.content.length
    description := body.description }

inductive DocumentsResponse where
  | uploaded (id : Uuid) (filename : String) (sizeBytes : ℤ) (version : ℤ)
  | deleted
  | request (response : TrailResponse)
  | referred

def uploadNewDocument (sv : UploadServices) (userId : Uuid) (body : UploadRequest) :
    Handler Stores HttpError DocumentsResponse := fun s =>
  if maxUploadSize < body.content.length then (.error fileTooLarge, s)
  else
    match uploadDocument sv s (uploadedDocument sv userId body) body.content
      body.parentDocumentId with
    | (.error error, s') => (.error error, s')
    | (.ok doc, s') =>
      if sv.finished then (.ok (.uploaded doc.id doc.filename doc.sizeBytes doc.version), s')
      else (.error .internal, s')

/-- A row of another table names the document and is not emptied with it: a request for
signatures, a later version, an attachment, a shared document. -/
def isReferenced (db : DocumentsDb) (documentId : Uuid) : Bool :=
  db.origins.any (fun origin => origin.documentId = documentId) ||
    db.parents.any (fun p => p.parentDocumentId = documentId ∧ p.documentId ≠ documentId) ||
    db.references.any (fun id => id = documentId)

/-- Flush the deletion of a document. -/
def deleteRow (db : DocumentsDb) (documentId : Uuid) : Option DocumentsDb :=
  if isReferenced db documentId then none
  else
    some { db with
      documents := Table.remove Document.id documentId db.documents
      parents := Table.remove DocumentParent.documentId documentId db.parents }

/-- `delete_document` -/
def deleteDocument (sv : DeleteServices) (s : Stores) (document : Document) :
    Except HttpError Unit × Stores :=
  match sv.remove with
  | .noClient => (.error .internal, s)
  | .called gone =>
    let objects := if gone then removeObject s.2 document.storageKey else s.2
    match deleteRow s.1 document.id with
    | none => (.error .internal, (s.1, objects))
    | some db => (.ok (), (db, objects))

def documentNotFound : HttpError := ⟨404, "Document not found"⟩

def deleteExistingDocument (sv : DeleteServices) (documentId : Uuid) :
    Handler Stores HttpError DocumentsResponse := fun s =>
  match getDocument s.1.toTrailDb documentId with
  | none => (.error documentNotFound, s)
  | some doc =>
    match deleteDocument sv s doc with
    | (.error error, s') => (.error error, s')
    | (.ok (), s') => if sv.finished then (.ok .deleted, s') else (.error .internal, s')

def createRequest (env : Environment) (data : SignatureRequestCreate) (createdBy : Uuid) :
    Handler Stores HttpError DocumentsResponse := fun s =>
  let (result, db) := esignHandle (env, .create data createdBy) s.1.toTrailDb
  (result.map .request, ({ s.1 with toTrailDb := db }, s.2))

/-- Other endpoints change the rows that refer to documents. -/
def referTo (documentIds : List Uuid) : Handler Stores HttpError DocumentsResponse := fun s =>
  if ∀ id ∈ documentIds, (Table.find Document.id id s.1.documents).isSome then
    (.ok .referred, ({ s.1 with references := documentIds }, s.2))
  else (.error .internal, s)

inductive DocumentCall where
  | upload (sv : UploadServices) (userId : Uuid) (body : UploadRequest)
  | delete (sv : DeleteServices) (documentId : Uuid)
  | createRequest (env : Environment) (data : SignatureRequestCreate) (createdBy : Uuid)
  | refer (documentIds : List Uuid)

def documentsHandle : DocumentCall → Handler Stores HttpError DocumentsResponse
  | .upload sv userId body => uploadNewDocument sv userId body
  | .delete sv documentId => deleteExistingDocument sv documentId
  | .createRequest env data createdBy => Documents.createRequest env data createdBy
  | .refer documentIds => referTo documentIds

/-- The content of every document can be read. -/
def AllStored (s : Stores) : Prop :=
  ∀ doc ∈ s.1.documents, s.2 doc.storageKey ≠ none

end LegalForge.Documents
