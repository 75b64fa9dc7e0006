import LegalForge.Deadlines
import LegalForge.MatterModels
import LegalForge.UnitOfWork

/-! Connections to cloud storage, and the files that are browsed, imported and exported over them. -/
namespace LegalForge.CloudStorage
open Auth Matters UnitOfWork
open Deadlines (textColumn nullable)

structure CloudStorageConnection where
  id : Uuid
  provider : String
  displayName : String
  accessTokenEncrypted : Option String := none
  refreshTokenEncrypted : Option String := none
  tokenExpiresAt : Option Instant := none
  accountEmail : Option String := none
  isActive : Bool := true
  connectedBy : Uuid
  deriving DecidableEq

structure CloudStorageLink where
  id : Uuid
  documentId : Option Uuid
  matterId : Uuid
  connectionId : Uuid
  cloudFileId : String
  cloudFileName : String
  cloudFileUrl : Option String
  cloudMimeType : Option String
  cloudSizeBytes : Option ℤ
  cloudModifiedAt : Option Instant
  linkType : String
  createdBy : Uuid
  deriving DecidableEq

structure CloudDb where
  /-- The ids of the users -/
  users : List Uuid
  /-- The ids of the matters -/
  matters : List Uuid
  documents : List Document
  connections : List CloudStorageConnection
  links : List CloudStorageLink

/-- An exception: a `ValueError` with its text, or any other. -/
inductive CloudError where
  | valueError (text : String)
  | raised
  deriving DecidableEq

/-- What a provider answers to a code or a refresh token. -/
structure TokenData where
  accessToken : String := ""
  refreshToken : Option String := none
  expiresIn : Option ℤ := none

structure CloudFileItem where
  id : String
  name : String
  mimeType : Option String
  size : Option ℤ
  modifiedAt : Option Instant
  isFolder : Bool
  webUrl : Option String
  deriving DecidableEq

structure DownloadedFile where
  content : List UInt8
  filename : String
  mimeType : String

structure UploadedFile where
  id : Option String
  name : Option String
  webUrl : Option String

/-- How the cipher, the providers and the object store answer during one call, each provider by
its name. -/
structure CloudServices where
  now : Instant
  /-- The cipher for a text that is not empty -/
  encrypt : String → String
  decrypt : String → Except CloudError String
  exchangeCode : String → String → Except CloudError TokenData
  refreshAccessToken : String → String → Except CloudError TokenData
  /-- The email of the account -/
  getUserInfo : String → String → Except CloudError (Option String)
  listFolder : String → String → Option String → Except CloudError (List CloudFileItem)
  /-- The URL of a file -/
  getFileMetadata : String → String → String → Except CloudError (Option String)
  downloadFile : String → String → String → Except CloudError DownloadedFile
  uploadFile : String → String → Option String → String → List UInt8 → String →
    Except CloudError UploadedFile
  putObject : String → List UInt8 → String → Except CloudError Unit
  getObject : String → Except CloudError (List UInt8)

def validProviders : List String := ["google_drive", "dropbox", "box", "onedrive"]

/-- `get_provider`, which knows a provider by its name. -/
def getProvider (provider : String) : Except CloudError Unit :=
  if provider ∈ validProviders then .ok ()
  else .error (.valueError ("Unknown cloud storage provider: "++provider))

/-- A text that is neither null nor empty. -/
def nonempty (text : Option String) : Option String :=
  text.filter (fun t => t ≠ "")

/-- `encrypt_field` -/
def encryptField (sv : CloudServices) (text : String) : String :=
  if text = "" then "" else sv.encrypt text

def expiryAfter (now : Instant) (seconds : ℤ) : Instant :=
  (now+1000000*seconds).toNat

/-- The time a new token expires; no time and zero keep the old one. -/
def newExpiry (sv : CloudServices) (old : Option Instant) (expiresIn : Option ℤ) : Option Instant :=
  match expiresIn with
  | none => old
  | some seconds => if seconds = 0 then old else some (expiryAfter sv.now seconds)

/-- A connection with the tokens that a refresh has brought. -/
def refreshedConnection (sv : CloudServices) (tokens : TokenData) (c : CloudStorageConnection) :
    CloudStorageConnection :=
  { c with
    accessTokenEncrypted := some (encryptField sv tokens.accessToken)
    refreshTokenEncrypted := match nonempty tokens.refreshToken with
      | none => c.refreshTokenEncrypted
      | some refreshToken => some (encryptField sv refreshToken)
    tokenExpiresAt := newExpiry sv c.tokenExpiresAt tokens.expiresIn }

def setConnection (db : CloudDb) (connectionId : Uuid)
    (f : CloudStorageConnection → CloudStorageConnection) : CloudDb :=
  { db with connections := Table.alter CloudStorageConnection.id connectionId f db.connections }

/-- The token expires within five minutes. -/
def expiresSoon (sv : CloudServices) (c : CloudStorageConnection) : Bool :=
  c.tokenExpiresAt.any (fun t => t < sv.now+minutes 5)

/-- `get_access_token` -/
def getAccessToken (sv : CloudServices) (db : CloudDb) (c : CloudStorageConnection) :
    Except CloudError (String × CloudDb) :=
  match nonempty c.accessTokenEncrypted with
  | none => .error (.valueError "No access token available")
  | some accessTokenEncrypted => do
    let accessToken ← sv.decrypt accessTokenEncrypted
    if expiresSoon sv c then
      match nonempty c.refreshTokenEncrypted with
      | none => .error (.valueError "Token expired and no refresh token available")
      | some refreshTokenEncrypted => do
        let refreshToken ← sv.decrypt refreshTokenEncrypted
        let _ ← getProvider c.provider
        match sv.refreshAccessToken c.provider refreshToken with
        | .error _ => .error (.valueError "Failed to refresh access token")
        | .ok tokens =>
          .ok (tokens.accessToken, setConnection db c.id (refreshedConnection sv tokens))
    else .ok (accessToken, db)

/-- `create_connection` -/
def createConnection (db : CloudDb) (connectionId userId : Uuid) (provider displayName : String) :
    Except CloudError CloudDb :=
  match varchar 200 displayName with
  | none => .error .raised
  | some displayName =>
    match Table.insert CloudStorageConnection.id
      { id := connectionId, provider := provider, displayName := displayName, connectedBy := userId }
      db.connections with
    | none => .error .raised
    | some rows => if userId ∈ db.users then .ok { db with connections := rows } else .error .raised

/-- A connection with the tokens that the authorization has brought. -/
def authorizedConnection (sv : CloudServices) (tokens : TokenData)
    (accountEmail : CloudStorageConnection → Option String) (c : CloudStorageConnection) :
    CloudStorageConnection :=
  { c with
    accessTokenEncrypted := (nonempty (some tokens.accessToken)).map sv.encrypt
    refreshTokenEncrypted := (nonempty tokens.refreshToken).map sv.encrypt
    tokenExpiresAt := newExpiry sv c.tokenExpiresAt tokens.expiresIn
    accountEmail := accountEmail c }

/-- `complete_oauth` -/
def completeOauth (sv : CloudServices) (db : CloudDb) (provider code : String) (connectionId : Uuid) :
    Except CloudError CloudDb :=
  match Table.find CloudStorageConnection.id connectionId db.connections with
  | none => .error (.valueError "Connection not found")
  | some _ => do
    let _ ← getProvider provider
    let tokens ← sv.exchangeCode provider code
    match sv.getUserInfo provider tokens.accessToken with
    | .error _ =>
      .ok (setConnection db connectionId
        (authorizedConnection sv tokens CloudStorageConnection.accountEmail))
    | .ok email =>
      match nullable (varchar 500) email with
      | none => .error .raised
      | some email =>
        .ok (setConnection db connectionId (authorizedConnection sv tokens fun _ => email))

def disconnected (c : CloudStorageConnection) : CloudStorageConnection :=
  { c with isActive := false, accessTokenEncrypted := none, refreshTokenEncrypted := none }

/-- `delete_connection` -/
def deleteConnection (db : CloudDb) (connectionId userId : Uuid) : Except CloudError CloudDb :=
  match db.connections.find? (fun c => c.id = connectionId ∧ c.connectedBy = userId) with
  | none => .error (.valueError "Connection not found")
  | some _ => .ok (setConnection db connectionId disconnected)

/-- `browse_folder` -/
def browseFolder (sv : CloudServices) (db : CloudDb) (connectionId : Uuid) (folderId : Option String)
    (userId : Uuid) : Except CloudError (List CloudFileItem × CloudDb) :=
  match db.connections.find?
    (fun c => c.id = connectionId ∧ c.connectedBy = userId ∧ c.isActive = true) with
  | none => .error (.valueError "Connection not found")
  | some connection => do
    let (accessToken, db') ← getAccessToken sv db connection
    let _ ← getProvider connection.provider
    let items ← sv.listFolder connection.provider accessToken folderId
    .ok (items, db')

/-- A value for a column `BigInteger`. -/
def bigIntColumn (n : ℤ) : Option ℤ :=
  if -9223372036854775808 ≤ n ∧ n ≤ 9223372036854775807 then some n else none

/-- Flush a new link. -/
def insertLink (db : CloudDb) (link : CloudStorageLink) : Option (CloudStorageLink × CloudDb) := do
  let cloudFileId ← varchar 500 link.cloudFileId
  let cloudFileName ← varchar 500 link.cloudFileName
  let cloudFileUrl ← nullable (varchar 2000) link.cloudFileUrl
  let cloudMimeType ← nullable (varchar 200) link.cloudMimeType
  let cloudSizeBytes ← nullable bigIntColumn link.cloudSizeBytes
  let linkType ← varchar 20 link.linkType
  let row := { link with
    cloudFileId := cloudFileId
    cloudFileName := cloudFileName
    cloudFileUrl := cloudFileUrl
    cloudMimeType := cloudMimeType
    cloudSizeBytes := cloudSizeBytes
    linkType := linkType }
  if link.matterId ∈ db.matters ∧ link.createdBy ∈ db.users ∧
      (Table.find CloudStorageConnection.id link.connectionId db.connections).isSome ∧
      link.documentId.all (fun id => (Table.find Document.id id db.documents).isSome) then do
    let rows ← Table.insert CloudStorageLink.id row db.links
    some (row, { db with links := rows })
  else none

/-- `create_link` -/
def createLink (db : CloudDb) (link : CloudStorageLink) :
    Except CloudError (CloudStorageLink × CloudDb) :=
  match insertLink db link with
  | none => .error .raised
  | some result => .ok result

/-- `delete_link` -/
def deleteLink (db : CloudDb) (linkId : Uuid) : Except CloudError CloudDb :=
  match Table.find CloudStorageLink.id linkId db.links with
  | none => .error (.valueError "Link not found")
  | some _ => .ok { db with links := Table.remove CloudStorageLink.id linkId db.links }

def insertDocument (db : CloudDb) (doc : Document) : Option CloudDb := do
  let filename ← varchar 500 doc.filename
  let storageKey ← varchar 1000 doc.storageKey
  let mimeType ← varchar 255 doc.mimeType
  let sizeBytes ← bigIntColumn doc.sizeBytes
  let description ← nullable textColumn doc.description
  if doc.matterId ∈ db.matters ∧ doc.uploadedBy ∈ db.users then do
    let rows ← Table.insert Document.id
      { doc with
        filename := filename
        storageKey := storageKey
        mimeType := mimeType
        sizeBytes := sizeBytes
        description := description } db.documents
    some { db with documents := rows }
  else none

/-- `select(CloudStorageConnection).where(id == connection_id, is_active)` -/
def activeConnection (db : CloudDb) (connectionId : Uuid) : Option CloudStorageConnection :=
  db.connections.find? (fun c => c.id = connectionId ∧ c.isActive = true)

/-- The ids that an import draws. -/
structure ImportDraws where
  documentId : Uuid
  objectId : Uuid
  linkId : Uuid

structure CloudImportRequest where
  connectionId : Uuid
  cloudFileId : String
  matterId : Uuid
  description : Option String := none

def storageKeyOf (matterId objectId : Uuid) (filename : String) : String :=
  String.ofList (uuidText matterId)++"/"++String.ofList (uuidText objectId)++"/"++filename

def importedDocument (body : CloudImportRequest) (draws : ImportDraws) (userId : Uuid)
    (file : DownloadedFile) : Document where
  id := draws.documentId
  matterId := body.matterId
  uploadedBy := userId
  filename := file.filename
  storageKey := storageKeyOf body.matterId draws.objectId file.filename
  mimeType := file.mimeType
  sizeBytes := file.content.length
  description := body.description

/-- `import_file` -/
def importFile (sv : CloudServices) (db : CloudDb) (body : CloudImportRequest) (draws : ImportDraws)
    (userId : Uuid) : Except CloudError (CloudStorageLink × CloudDb) :=
  match activeConnection db body.connectionId with
  | none => .error (.valueError "Connection not found")
  | some connection => do
    let (accessToken, db) ← getAccessToken sv db connection
    let _ ← getProvider connection.provider
    let file ← sv.downloadFile connection.provider accessToken body.cloudFileId
    let doc := importedDocument body draws userId file
    let _ ← sv.putObject doc.storageKey file.content file.mimeType
    match insertDocument db doc with
    | none => .error .raised
    | some db =>
      createLink db
        { id := draws.linkId
          documentId := some draws.documentId
          matterId := body.matterId
          connectionId := body.connectionId
          cloudFileId := body.cloudFileId
          cloudFileName := file.filename
          cloudFileUrl :=
            match sv.getFileMetadata connection.provider accessToken body.cloudFileId with
            | .error _ => none
            | .ok webUrl => webUrl
          cloudMimeType := some file.mimeType
          cloudSizeBytes := some file.content.length
          cloudModifiedAt := none
          linkType := "imported"
          createdBy := userId }

structure CloudExportRequest where
  documentId : Uuid
  connectionId : Uuid
  folderId : Option String := none

/-- `export_file` -/
def exportFile (sv : CloudServices) (db : CloudDb) (body : CloudExportRequest) (linkId : Uuid)
    (userId : Uuid) : Except CloudError (CloudStorageLink × CloudDb) :=
  match Table.find Document.id body.documentId db.documents with
  | none => .error (.valueError "Document not found")
  | some doc =>
    match activeConnection db body.connectionId with
    | none => .error (.valueError "Connection not found")
    | some connection => do
      let (accessToken, db) ← getAccessToken sv db connection
      let _ ← getProvider connection.provider
      let content ← sv.getObject doc.storageKey
      let cloudFile ←
        sv.uploadFile connection.provider accessToken body.folderId doc.filename content doc.mimeType
      createLink db
        { id := linkId
          documentId := some doc.id
          matterId := doc.matterId
          connectionId := body.connectionId
          cloudFileId := cloudFile.id.getD ""
          cloudFileName := cloudFile.name.getD doc.filename
          cloudFileUrl := cloudFile.webUrl
          cloudMimeType := some doc.mimeType
          cloudSizeBytes := some doc.sizeBytes
          cloudModifiedAt := none
          linkType := "exported"
          createdBy := userId }

/-- The token of an active connection expires within the hour and can be refreshed. -/
def refreshDue (sv : CloudServices) (c : CloudStorageConnection) : Bool :=
  c.isActive && c.tokenExpiresAt.any (fun t => t < sv.now+minutes 60) && c.refreshTokenEncrypted.isSome

/-- One connection in `refresh_cloud_tokens`; an exception leaves it. -/
def refreshOne (sv : CloudServices) (c : CloudStorageConnection) : CloudStorageConnection :=
  match c.refreshTokenEncrypted with
  | none => c
  | some refreshTokenEncrypted =>
    match (do
      let refreshToken ← sv.decrypt refreshTokenEncrypted
      let _ ← getProvider c.provider
      sv.refreshAccessToken c.provider refreshToken) with
    | .error _ => c
    | .ok tokens => refreshedConnection sv tokens c

/-- `refresh_cloud_tokens`, the periodic task -/
def refreshCloudTokens (sv : CloudServices) (db : CloudDb) : CloudDb :=
  { db with
    connections := db.connections.map fun c => if refreshDue sv c then refreshOne sv c else c }

inductive CloudCall where
  | authorize (userId connectionId : Uuid) (provider displayName : String)
  | callback (sv : CloudServices) (provider code : String) (connectionId : Uuid)
  | disconnect (userId connectionId : Uuid)
  | browse (sv : CloudServices) (userId connectionId : Uuid) (folderId : Option String)
  /-- The row the request asks for, with its new id and its creator -/
  | link (link : CloudStorageLink)
  | removeLink (linkId : Uuid)
  | importFile (sv : CloudServices) (userId : Uuid) (body : CloudImportRequest) (draws : ImportDraws)
  | exportFile (sv : CloudServices) (userId : Uuid) (body : CloudExportRequest) (linkId : Uuid)
  | refreshTokens (sv : CloudServices)

structure CloudStorageLinkResponse where
  link : CloudStorageLink
  connectionProvider : Option String
  connectionDisplayName : Option String

inductive CloudResponse where
  | authorized (connectionId : Uuid)
  /-- The error text is that of the exception. -/
  | redirected (error : Option CloudError)
  | done
  | folder (items : List CloudFileItem) (folderId : Option String)
  | link (response : CloudStorageLinkResponse)

def linkResponse (db : CloudDb) (link : CloudStorageLink) : CloudResponse :=
  let connection := Table.find CloudStorageConnection.id link.connectionId db.connections
  .link ⟨link, connection.map CloudStorageConnection.provider,
    connection.map CloudStorageConnection.displayName⟩

/-- A `ValueError` becomes a response, with this status. -/
def httpError (status : ℕ) : CloudError → HttpError
  | .valueError text => ⟨status, text⟩
  | .raised => .internal

/-- The end of a request, and the tables its session has changed. -/
def finish {α : Type} (status : ℕ) (db : CloudDb) (response : α × CloudDb → CloudResponse) :
    Except CloudError (α × CloudDb) → Except HttpError CloudResponse × CloudDb
  | .error error => (.error (httpError status error), db)
  | .ok result => (.ok (response result), result.2)

def onlyTables (result : Except CloudError CloudDb) : Except CloudError (Unit × CloudDb) :=
  result.map fun db => ((), db)

/-- The endpoints of `/cloud-storage` and the periodic task. The callback answers every
exception with a redirect. -/
def cloudHandle (call : CloudCall) : Handler CloudDb HttpError CloudResponse := fun db =>
  match call with
  | .authorize userId connectionId provider displayName =>
    if provider ∈ validProviders then
      finish 500 db (fun _ => .authorized connectionId)
        (onlyTables (createConnection db connectionId userId provider displayName))
    else (.error ⟨400, "Invalid provider: "++provider⟩, db)
  | .callback sv provider code connectionId =>
    match completeOauth sv db provider code connectionId with
    | .error error => (.ok (.redirected (some error)), db)
    | .ok db' => (.ok (.redirected none), db')
  | .disconnect userId connectionId =>
    finish 404 db (fun _ => .done) (onlyTables (deleteConnection db connectionId userId))
  | .browse sv userId connectionId folderId =>
    finish 404 db (fun result => .folder result.1 folderId)
      (browseFolder sv db connectionId folderId userId)
  | .link link => finish 500 db (fun result => linkResponse result.2 result.1) (createLink db link)
  | .removeLink linkId => finish 404 db (fun _ => .done) (onlyTables (deleteLink db linkId))
  | .importFile sv userId body draws =>
    finish 400 db (fun result => linkResponse result.2 result.1)
      (importFile sv db body draws userId)
  | .exportFile sv userId body linkId =>
    finish 400 db (fun result => linkResponse result.2 result.1)
      (exportFile sv db body linkId userId)
  | .refreshTokens sv => (.ok .done, refreshCloudTokens sv db)

end LegalForge.CloudStorage
