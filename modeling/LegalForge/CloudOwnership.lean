import LegalForge.CloudStorage
import LegalForge.Paging

/-! Whose tokens a call uses. -/
namespace LegalForge.CloudStorage
open Auth Matters UnitOfWork Transition
open Paging (bind_eq_ok_iff)

/-- The user and the connection of a call that decrypts the connection's tokens. -/
def uses : CloudCall → Option (Uuid × Uuid)
  | .browse _ userId connectionId _ => some (userId, connectionId)
  | .importFile _ userId body _ => some (userId, body.connectionId)
  | .exportFile _ userId body _ => some (userId, body.connectionId)
  | _ => none

/-- A call that decrypts tokens and ends with a result is by the user who made the connection. -/
def UsedByOwner (db : CloudDb) (call : CloudCall) : Prop :=
  ∀ userId connectionId, uses call = some (userId, connectionId) →
    (∃ response db', cloudHandle call db = (.ok response, db')) →
    ∃ c, Table.find CloudStorageConnection.id connectionId db.connections = some c ∧
      c.connectedBy = userId

/-- An active connection that has an access token belongs to the user. -/
def OwnIfUsable (db : CloudDb) (connectionId userId : Uuid) : Prop :=
  ∀ c, activeConnection db connectionId = some c → nonempty c.accessTokenEncrypted ≠ none →
    c.connectedBy = userId

/-- Imports and exports are over connections of the user, or over such that have no token. -/
def OwnConnection (db : CloudDb) : CloudCall → Prop
  | .importFile _ userId body _ => OwnIfUsable db body.connectionId userId
  | .exportFile _ userId body _ =>
    body.documentId ∈ db.documents.map Document.id → OwnIfUsable db body.connectionId userId
  | _ => True

def ConnectionsUnique (db : CloudDb) : Prop :=
  (db.connections.map CloudStorageConnection.id).Nodup

section
variable {sv : CloudServices} {db db' : CloudDb}

/-- A token that is given out, and what its refresh has written. -/
theorem getAccessToken_eq_ok {c : CloudStorageConnection} {accessToken : String}
    (h : getAccessToken sv db c = .ok (accessToken, db')) :
    nonempty c.accessTokenEncrypted ≠ none ∧
      (db' = db ∨ ∃ tokens, db' = setConnection db c.id (refreshedConnection sv tokens)) := by
  unfold getAccessToken at h
  split at h
  · cases h
  · rename_i sealed hsealed
    refine ⟨by rw [hsealed]; exact Option.some_ne_none _, ?_⟩
    obtain ⟨plain, -, h⟩ := bind_eq_ok_iff.mp h
    split_ifs at h
    · split at h
      · cases h
      · obtain ⟨refreshToken, -, h⟩ := bind_eq_ok_iff.mp h
        obtain ⟨-, -, h⟩ := bind_eq_ok_iff.mp h
        split at h
        · cases h
        · rename_i tokens _
          exact Or.inr ⟨tokens, (Prod.mk.inj (Except.ok.inj h)).2.symm⟩
    · exact Or.inl (Prod.mk.inj (Except.ok.inj h)).2.symm

theorem setConnection_ids (db : CloudDb) (connectionId : Uuid)
    {f : CloudStorageConnection → CloudStorageConnection} (hf : ∀ c, (f c).id = c.id) :
    (setConnection db connectionId f).connections.map CloudStorageConnection.id =
      db.connections.map CloudStorageConnection.id := by
  apply Table.map_key_alter
  exact fun c hid => (hf c).trans hid

theorem getAccessToken_ids {c : CloudStorageConnection} {accessToken : String}
    (h : getAccessToken sv db c = .ok (accessToken, db')) :
    db'.connections.map CloudStorageConnection.id = db.connections.map CloudStorageConnection.id := by
  rcases (getAccessToken_eq_ok h).2 with rfl | ⟨tokens, rfl⟩
  · rfl
  · exact setConnection_ids db c.id fun _ => rfl

theorem insertLink_connections {link row : CloudStorageLink} (h : insertLink db link = some (row, db')) :
    db'.connections = db.connections := by
  unfold insertLink at h
  simp only [Option.bind_eq_bind, Option.bind_eq_some_iff] at h
  obtain ⟨_, -, _, -, _, -, _, -, _, -, _, -, h⟩ := h
  split_ifs at h
  obtain ⟨rows, -, h⟩ := Option.bind_eq_some_iff.mp h
  obtain ⟨-, rfl⟩ := Prod.mk.inj (Option.some.inj h)
  rfl

theorem createLink_connections {link row : CloudStorageLink} (h : createLink db link = .ok (row, db')) :
    db'.connections = db.connections := by
  unfold createLink at h
  split at h
  · cases h
  · rename_i result hinsert
    obtain rfl := Except.ok.inj h
    exact insertLink_connections hinsert

theorem insertDocument_connections {doc : Document} (h : insertDocument db doc = some db') :
    db'.connections = db.connections := by
  unfold insertDocument at h
  simp only [Option.bind_eq_bind, Option.bind_eq_some_iff] at h
  obtain ⟨_, -, _, -, _, -, _, -, _, -, h⟩ := h
  split_ifs at h
  obtain ⟨rows, -, h⟩ := Option.bind_eq_some_iff.mp h
  obtain rfl := Option.some.inj h
  rfl

/-- What a call needs of the connection whose tokens it decrypts; it keeps the connections' ids. -/
structure UsesConnection (db db' : CloudDb) (p : CloudStorageConnection → Bool) : Prop where
  usable : ∃ c, db.connections.find? p = some c ∧ nonempty c.accessTokenEncrypted ≠ none
  ids_eq : db'.connections.map CloudStorageConnection.id =
    db.connections.map CloudStorageConnection.id

/-- The connection that a listing is of, and its token. -/
theorem browseFolder_token {connectionId userId : Uuid} {folderId : Option String}
    {items : List CloudFileItem} (h : browseFolder sv db connectionId folderId userId = .ok (items, db')) :
    ∃ c accessToken, db.connections.find? (fun c => c.id = connectionId ∧ c.connectedBy = userId ∧
      c.isActive = true) = some c ∧ getAccessToken sv db c = .ok (accessToken, db') := by
  unfold browseFolder at h
  split at h
  · cases h
  · rename_i c hfind
    obtain ⟨⟨accessToken, db₁⟩, htoken, h⟩ := bind_eq_ok_iff.mp h
    obtain ⟨-, -, h⟩ := bind_eq_ok_iff.mp h
    obtain ⟨items', -, h⟩ := bind_eq_ok_iff.mp h
    obtain ⟨-, rfl⟩ := Prod.mk.inj (Except.ok.inj h)
    exact ⟨c, accessToken, hfind, htoken⟩

/-- The connection that a file comes from, and its token; the rows that an import inserts are of
other tables. -/
theorem importFile_token {body : CloudImportRequest} {draws : ImportDraws} {userId : Uuid}
    {row : CloudStorageLink} (h : importFile sv db body draws userId = .ok (row, db')) :
    ∃ c accessToken db₁, activeConnection db body.connectionId = some c ∧
      getAccessToken sv db c = .ok (accessToken, db₁) ∧ db'.connections = db₁.connections := by
  unfold importFile at h
  split at h
  · cases h
  · rename_i c hfind
    obtain ⟨⟨accessToken, db₁⟩, htoken, h⟩ := bind_eq_ok_iff.mp h
    obtain ⟨-, -, h⟩ := bind_eq_ok_iff.mp h
    obtain ⟨file, -, h⟩ := bind_eq_ok_iff.mp h
    obtain ⟨-, -, h⟩ := bind_eq_ok_iff.mp h
    refine ⟨c, accessToken, db₁, hfind, htoken, ?_⟩
    split at h
    · cases h
    · rename_i db₂ hdocument
      rw [createLink_connections h, insertDocument_connections hdocument]

/-- The connection that a document goes to, and its token. -/
theorem exportFile_token {body : CloudExportRequest} {linkId userId : Uuid} {row : CloudStorageLink}
    (h : exportFile sv db body linkId userId = .ok (row, db')) :
    body.documentId ∈ db.documents.map Document.id ∧
      ∃ c accessToken db₁, activeConnection db body.connectionId = some c ∧
        getAccessToken sv db c = .ok (accessToken, db₁) ∧ db'.connections = db₁.connections := by
  unfold exportFile at h
  split at h
  · cases h
  · rename_i doc hdocument
    split at h
    · cases h
    · rename_i c hfind
      obtain ⟨⟨accessToken, db₁⟩, htoken, h⟩ := bind_eq_ok_iff.mp h
      obtain ⟨-, -, h⟩ := bind_eq_ok_iff.mp h
      obtain ⟨content, -, h⟩ := bind_eq_ok_iff.mp h
      obtain ⟨cloudFile, -, h⟩ := bind_eq_ok_iff.mp h
      exact ⟨Table.exists_find_iff.mp ⟨doc, hdocument⟩, c, accessToken, db₁, hfind, htoken,
        createLink_connections h⟩

theorem browseFolder_eq_ok {connectionId userId : Uuid} {folderId : Option String}
    {items : List CloudFileItem} (h : browseFolder sv db connectionId folderId userId = .ok (items, db')) :
    UsesConnection db db' fun c => c.id = connectionId ∧ c.connectedBy = userId ∧ c.isActive = true := by
  obtain ⟨c, accessToken, hfind, htoken⟩ := browseFolder_token h
  exact ⟨⟨c, hfind, (getAccessToken_eq_ok htoken).1⟩, getAccessToken_ids htoken⟩

theorem importFile_eq_ok {body : CloudImportRequest} {draws : ImportDraws} {userId : Uuid}
    {row : CloudStorageLink} (h : importFile sv db body draws userId = .ok (row, db')) :
    UsesConnection db db' fun c => c.id = body.connectionId ∧ c.isActive = true := by
  obtain ⟨c, accessToken, db₁, hfind, htoken, hsame⟩ := importFile_token h
  refine ⟨⟨c, hfind, (getAccessToken_eq_ok htoken).1⟩, ?_⟩
  rw [hsame]
  exact getAccessToken_ids htoken

theorem exportFile_eq_ok {body : CloudExportRequest} {linkId userId : Uuid} {row : CloudStorageLink}
    (h : exportFile sv db body linkId userId = .ok (row, db')) :
    body.documentId ∈ db.documents.map Document.id ∧
      UsesConnection db db' fun c => c.id = body.connectionId ∧ c.isActive = true := by
  obtain ⟨hdocument, c, accessToken, db₁, hfind, htoken, hsame⟩ := exportFile_token h
  refine ⟨hdocument, ⟨c, hfind, (getAccessToken_eq_ok htoken).1⟩, ?_⟩
  rw [hsame]
  exact getAccessToken_ids htoken

theorem finish_eq_ok {α : Type} {status : ℕ} {response : α × CloudDb → CloudResponse}
    {result : Except CloudError (α × CloudDb)} {r : CloudResponse}
    (h : finish status db response result = (.ok r, db')) : ∃ a, result = .ok (a, db') := by
  cases result with
  | error error => cases h
  | ok result =>
    obtain ⟨-, rfl⟩ := Prod.mk.inj h
    exact ⟨result.1, rfl⟩

theorem onlyTables_eq_ok {result : Except CloudError CloudDb} {a : Unit}
    (h : onlyTables result = .ok (a, db')) : result = .ok db' := by
  cases result with
  | error error => cases h
  | ok db₁ =>
    obtain ⟨-, rfl⟩ := Prod.mk.inj (Except.ok.inj h)
    rfl

theorem refreshCloudTokens_ids (sv : CloudServices) (db : CloudDb) :
    (refreshCloudTokens sv db).connections.map CloudStorageConnection.id =
      db.connections.map CloudStorageConnection.id := by
  rw [refreshCloudTokens, List.map_map]
  refine List.map_congr_left fun c _ => ?_
  rw [Function.comp_apply]
  split_ifs
  · unfold refreshOne
    split
    · rfl
    · split
      · rfl
      · rfl
  · rfl

theorem completeOauth_ids {provider code : String} {connectionId : Uuid}
    (h : completeOauth sv db provider code connectionId = .ok db') :
    db'.connections.map CloudStorageConnection.id =
      db.connections.map CloudStorageConnection.id := by
  unfold completeOauth at h
  split at h
  · cases h
  · obtain ⟨-, -, h⟩ := bind_eq_ok_iff.mp h
    obtain ⟨tokens, -, h⟩ := bind_eq_ok_iff.mp h
    split at h
    · obtain rfl := Except.ok.inj h
      exact setConnection_ids db connectionId fun _ => rfl
    · split at h
      · cases h
      · obtain rfl := Except.ok.inj h
        exact setConnection_ids db connectionId fun _ => rfl

/-- A connection is inserted without tokens. -/
theorem createConnection_eq_ok {connectionId userId : Uuid} {provider displayName : String}
    (h : createConnection db connectionId userId provider displayName = .ok db') :
    ∃ c, (∀ old ∈ db.connections, old.id ≠ c.id) ∧ c.accessTokenEncrypted = none ∧
      c.refreshTokenEncrypted = none ∧ db'.connections = db.connections++[c] := by
  unfold createConnection at h
  split at h
  · cases h
  · split at h
    · cases h
    · rename_i rows hinsert
      split_ifs at h
      obtain rfl := Except.ok.inj h
      obtain ⟨hfresh, rfl⟩ := Table.insert_eq_some_iff.mp hinsert
      exact ⟨_, hfresh, rfl, rfl, rfl⟩

theorem createConnection_unique {connectionId userId : Uuid} {provider displayName : String}
    (hunique : ConnectionsUnique db)
    (h : createConnection db connectionId userId provider displayName = .ok db') :
    ConnectionsUnique db' := by
  obtain ⟨c, hfresh, -, -, hrows⟩ := createConnection_eq_ok h
  rw [ConnectionsUnique, hrows]
  exact Table.nodup_append_singleton hunique hfresh

theorem deleteConnection_eq_ok {connectionId userId : Uuid}
    (h : deleteConnection db connectionId userId = .ok db') :
    db' = setConnection db connectionId disconnected := by
  unfold deleteConnection at h
  split at h
  · cases h
  · exact (Except.ok.inj h).symm

theorem deleteLink_connections {linkId : Uuid} (h : deleteLink db linkId = .ok db') :
    db'.connections = db.connections := by
  unfold deleteLink at h
  split at h
  · cases h
  · obtain rfl := Except.ok.inj h
    rfl

theorem ConnectionsUnique.step {call : CloudCall} {response : CloudResponse}
    (hunique : ConnectionsUnique db) (h : cloudHandle call db = (.ok response, db')) :
    ConnectionsUnique db' := by
  unfold ConnectionsUnique at hunique ⊢
  cases call with
  | authorize userId connectionId provider displayName =>
    simp only [cloudHandle] at h
    split_ifs at h
    · obtain ⟨a, hresult⟩ := finish_eq_ok h
      exact createConnection_unique hunique (onlyTables_eq_ok hresult)
    · cases h
  | callback sv provider code connectionId =>
    simp only [cloudHandle] at h
    split at h
    · obtain ⟨-, rfl⟩ := Prod.mk.inj h
      exact hunique
    · rename_i db₁ hoauth
      obtain ⟨-, rfl⟩ := Prod.mk.inj h
      exact completeOauth_ids hoauth ▸ hunique
  | disconnect userId connectionId =>
    obtain ⟨a, hresult⟩ := finish_eq_ok h
    have hids : (setConnection db connectionId disconnected).connections.map
        CloudStorageConnection.id = db.connections.map CloudStorageConnection.id :=
      setConnection_ids db connectionId fun _ => rfl
    rw [deleteConnection_eq_ok (onlyTables_eq_ok hresult), hids]
    exact hunique
  | browse sv userId connectionId folderId =>
    obtain ⟨items, hresult⟩ := finish_eq_ok h
    exact (browseFolder_eq_ok hresult).ids_eq ▸ hunique
  | link link =>
    obtain ⟨row, hresult⟩ := finish_eq_ok h
    exact createLink_connections hresult ▸ hunique
  | removeLink linkId =>
    obtain ⟨a, hresult⟩ := finish_eq_ok h
    exact deleteLink_connections (onlyTables_eq_ok hresult) ▸ hunique
  | importFile sv userId body draws =>
    obtain ⟨row, hresult⟩ := finish_eq_ok h
    exact (importFile_eq_ok hresult).ids_eq ▸ hunique
  | exportFile sv userId body linkId =>
    obtain ⟨row, hresult⟩ := finish_eq_ok h
    exact (exportFile_eq_ok hresult).2.ids_eq ▸ hunique
  | refreshTokens sv =>
    obtain ⟨-, rfl⟩ := Prod.mk.inj h
    exact refreshCloudTokens_ids sv db ▸ hunique

/-- With unique ids, a connection that some query finds by its id is the one with that id. -/
theorem find_of_query (hunique : ConnectionsUnique db) {connectionId : Uuid}
    {p : CloudStorageConnection → Bool} {c : CloudStorageConnection}
    (hid : ∀ c, p c = true → c.id = connectionId) (hfind : db.connections.find? p = some c) :
    Table.find CloudStorageConnection.id connectionId db.connections = some c :=
  (Table.find_eq_some_iff hunique).mpr
    ⟨List.mem_of_find?_eq_some hfind, hid c (List.find?_some hfind)⟩

theorem usedByOwner_of_own {call : CloudCall} (hunique : ConnectionsUnique db)
    (hown : OwnConnection db call) : UsedByOwner db call := by
  rintro userId connectionId huses ⟨response, db', hok⟩
  cases call with
  | browse sv userId' connectionId' folderId =>
    obtain ⟨rfl, rfl⟩ := Prod.mk.inj (Option.some.inj huses)
    obtain ⟨items, hresult⟩ := finish_eq_ok hok
    obtain ⟨c, hfind, -⟩ := (browseFolder_eq_ok hresult).usable
    have hc := List.find?_some hfind
    rw [decide_eq_true_iff] at hc
    exact ⟨c, find_of_query hunique (fun c h => (of_decide_eq_true h).1) hfind, hc.2.1⟩
  | importFile sv userId' body draws =>
    obtain ⟨rfl, rfl⟩ := Prod.mk.inj (Option.some.inj huses)
    obtain ⟨row, hresult⟩ := finish_eq_ok hok
    obtain ⟨c, hfind, husable⟩ := (importFile_eq_ok hresult).usable
    exact ⟨c, find_of_query hunique (fun c h => (of_decide_eq_true h).1) hfind,
      hown c hfind husable⟩
  | exportFile sv userId' body linkId =>
    obtain ⟨rfl, rfl⟩ := Prod.mk.inj (Option.some.inj huses)
    obtain ⟨row, hresult⟩ := finish_eq_ok hok
    obtain ⟨hdocument, hconnection⟩ := exportFile_eq_ok hresult
    obtain ⟨c, hfind, husable⟩ := hconnection.usable
    exact ⟨c, find_of_query hunique (fun c h => (of_decide_eq_true h).1) hfind,
      hown hdocument c hfind husable⟩
  | _ => cases huses

end

/-- In a run whose imports and exports are over connections of the user, whenever the
connection is active and has a token, every call that decrypts tokens with a result is by the
owner of the connection. Browsing needs no condition. -/
theorem usedByOwner_along {db : CloudDb} (hunique : ConnectionsUnique db) (calls : List CloudCall)
    (hown : Along (serve cloudHandle) (fun db call _ => OwnConnection db call) db calls) :
    Along (serve cloudHandle) (fun db call _ => UsedByOwner db call) db calls := by
  refine hown.imp (I := ConnectionsUnique) ?_ ?_ hunique
  · intro s call t hs hstep
    exact serve_invariant (fun _ _ _ _ hI h => hI.step h) hs hstep
  · intro s call t hs _ hcall
    exact usedByOwner_of_own hs hcall

/-! A drive that one user has connected. -/

/-- Services that answer everything. -/
def plainServices : CloudServices where
  now := 0
  encrypt text := text
  decrypt text := .ok text
  exchangeCode _ code := .ok { accessToken := code }
  refreshAccessToken _ token := .ok { accessToken := token }
  getUserInfo _ _ := .ok none
  listFolder _ _ _ := .ok []
  getFileMetadata _ _ _ := .ok none
  downloadFile _ _ _ := .ok ⟨[], "Notes.txt", "text/plain"⟩
  uploadFile _ _ _ _ _ _ := .ok ⟨some "f", none, none⟩
  putObject _ _ _ := .ok ()
  getObject _ := .ok []

/-- The connection is of the first user. -/
def oneDrive : CloudDb where
  users := [1, 2]
  matters := [3]
  documents := []
  connections :=
    [{ id := 5, provider := "dropbox", displayName := "Kim", accessTokenEncrypted := some "t"
       connectedBy := 1 }]
  links := []

def ownImport : List CloudCall :=
  [.importFile plainServices 1 { connectionId := 5, cloudFileId := "f", matterId := 3 } ⟨6, 7, 8⟩]

def foreignImport : List CloudCall :=
  [.importFile plainServices 2 { connectionId := 5, cloudFileId := "f", matterId := 3 } ⟨6, 7, 8⟩]

theorem usedByOwner_along_ownImport :
    Along (serve cloudHandle) (fun db call _ => UsedByOwner db call) oneDrive ownImport := by
  refine usedByOwner_along (by simp [ConnectionsUnique, oneDrive]) ownImport ?_
  intro t _
  refine ⟨fun c hfind _ => ?_, trivial⟩
  obtain rfl : _ = c := Option.some.inj hfind
  rfl

/-- The other user imports a file from it. -/
theorem not_usedByOwner_foreignImport :
    ¬Along (serve cloudHandle) (fun db call _ => UsedByOwner db call) oneDrive foreignImport := by
  intro h
  obtain ⟨c, hfind, howner⟩ := (h _ rfl).1 2 5 rfl ⟨_, _, rfl⟩
  obtain rfl := Option.some.inj hfind
  revert howner
  decide

end LegalForge.CloudStorage
