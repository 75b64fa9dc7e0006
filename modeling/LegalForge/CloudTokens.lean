import LegalForge.CloudOwnership

/-! Whose tokens a connection stores. Beside the tables it is recorded which provider has
answered with them. -/
namespace LegalForge.CloudStorage
open Auth Matters UnitOfWork Transition
open Deadlines (nullable)
open Paging (bind_eq_ok_iff)

structure TracedDb where
  db : CloudDb
  /-- The provider that the access token of a connection is from. -/
  accessFrom : Uuid → Option String
  /-- The one that its refresh token is from. -/
  refreshFrom : Uuid → Option String

/-- A column of the connection with this id. -/
def column (f : CloudStorageConnection → Option String) (db : CloudDb) (connectionId : Uuid) :
    Option String :=
  (Table.find CloudStorageConnection.id connectionId db.connections).bind f

/-- Where the text of a column is from after a call. The callback has asked the provider of its
state, a refresh the one that is recorded. -/
def sourceAfter (f : CloudStorageConnection → Option String) (db : CloudDb) (call : CloudCall)
    (source : Uuid → Option String) (id : Uuid) : Option String :=
  match call with
  | .callback sv provider code connectionId =>
    match completeOauth sv db provider code connectionId with
    | .error _ => source id
    | .ok _ => if id = connectionId then some provider else source id
  | call =>
    if column f (committed (cloudHandle call) db) id = column f db id then source id
    else column (fun c => some c.provider) db id

def tracedStep (s : TracedDb) (call : CloudCall) : Option TracedDb :=
  some
    { db := committed (cloudHandle call) s.db
      accessFrom := sourceAfter CloudStorageConnection.accessTokenEncrypted s.db call s.accessFrom
      refreshFrom :=
        sourceAfter CloudStorageConnection.refreshTokenEncrypted s.db call s.refreshFrom }

/-- An inactive connection has no tokens, and the tokens of a connection are from its provider. -/
structure ConnectionSound (s : TracedDb) (c : CloudStorageConnection) : Prop where
  inactive : c.isActive = false →
    c.accessTokenEncrypted = none ∧ c.refreshTokenEncrypted = none
  access : c.accessTokenEncrypted ≠ none → s.accessFrom c.id = some c.provider
  refresh : c.refreshTokenEncrypted ≠ none → s.refreshFrom c.id = some c.provider

def TokensSound (s : TracedDb) : Prop :=
  ∀ c ∈ s.db.connections, ConnectionSound s c

/-- The email of the account fits its column, if the provider tells it. -/
def EmailFits (sv : CloudServices) (provider : String) (tokens : TokenData) : Prop :=
  ∀ email, sv.getUserInfo provider tokens.accessToken = .ok email →
    nullable (varchar 500) email ≠ none

/-- A callback whose code is good for tokens names an active connection, and its provider. -/
def AuthorizesOwn (db : CloudDb) : CloudCall → Prop
  | .callback sv provider code connectionId => ∀ c tokens,
    Table.find CloudStorageConnection.id connectionId db.connections = some c →
    provider ∈ validProviders → sv.exchangeCode provider code = .ok tokens →
    EmailFits sv provider tokens →
      (nonempty (some tokens.accessToken) = none ∧ nonempty tokens.refreshToken = none) ∨
        c.isActive = true ∧ c.provider = provider
  | _ => True

/-- What a call other than the callback makes of a row. -/
structure Successor (c c' : CloudStorageConnection) : Prop where
  id_eq : c'.id = c.id
  provider_eq : c'.provider = c.provider
  tokens : (c'.accessTokenEncrypted = none ∧ c'.refreshTokenEncrypted = none) ∨
    (c'.isActive = true ∧ c.isActive = true) ∨
    c'.isActive = c.isActive ∧ c'.accessTokenEncrypted = c.accessTokenEncrypted ∧
      c'.refreshTokenEncrypted = c.refreshTokenEncrypted

/-- The rows after a call: the old ones, each with its successor, and new ones without tokens. -/
structure RowsFollow (db db' : CloudDb) : Prop where
  rows : ∃ g new, db'.connections = db.connections.map g++new ∧
    (∀ c ∈ db.connections, Successor c (g c)) ∧
    ∀ c ∈ new, c.accessTokenEncrypted = none ∧ c.refreshTokenEncrypted = none

section
variable {sv : CloudServices} {db db' : CloudDb}

theorem Successor.refl (c : CloudStorageConnection) : Successor c c where
  id_eq := rfl
  provider_eq := rfl
  tokens := Or.inr (Or.inr ⟨rfl, rfl, rfl⟩)

theorem rowsFollow_of_eq (h : db'.connections = db.connections) : RowsFollow db db' where
  rows := ⟨id, [], by rw [List.map_id, List.append_nil, h], fun c _ => Successor.refl c, nofun⟩

/-- One row is changed. -/
theorem rowsFollow_setConnection {connectionId : Uuid}
    {f : CloudStorageConnection → CloudStorageConnection}
    (hf : ∀ c ∈ db.connections, c.id = connectionId → Successor c (f c))
    (h : db'.connections = (setConnection db connectionId f).connections) : RowsFollow db db' where
  rows := by
    refine ⟨fun c => if c.id = connectionId then f c else c, [], ?_, ?_, nofun⟩
    · rw [h, List.append_nil]
      rfl
    · intro c hc
      simp only
      split_ifs with hid
      · exact hf c hc hid
      · exact Successor.refl c

theorem successor_refreshed {tokens : TokenData} {c : CloudStorageConnection}
    (hactive : c.isActive = true) : Successor c (refreshedConnection sv tokens c) where
  id_eq := rfl
  provider_eq := rfl
  tokens := Or.inr (Or.inl ⟨hactive, hactive⟩)

/-- A request refreshes the tokens of an active connection only. -/
theorem rowsFollow_getAccessToken (hunique : ConnectionsUnique db) {c : CloudStorageConnection}
    {accessToken : String} (hmem : c ∈ db.connections) (hactive : c.isActive = true)
    (h : getAccessToken sv db c = .ok (accessToken, db')) : RowsFollow db db' := by
  rcases (getAccessToken_eq_ok h).2 with hsame | ⟨tokens, hset⟩
  · exact rowsFollow_of_eq (congrArg CloudDb.connections hsame)
  · refine rowsFollow_setConnection (fun x hx hid => ?_) (congrArg CloudDb.connections hset)
    obtain rfl : x = c := List.inj_on_of_nodup_map hunique hx hmem hid
    exact successor_refreshed hactive

theorem rowsFollow_createConnection {connectionId userId : Uuid} {provider displayName : String}
    (h : createConnection db connectionId userId provider displayName = .ok db') :
    RowsFollow db db' := by
  obtain ⟨new, -, haccess, hrefresh, hrows⟩ := createConnection_eq_ok h
  refine ⟨id, [new], by rw [List.map_id, hrows], fun c _ => Successor.refl c, fun c hc => ?_⟩
  rw [List.mem_singleton.mp hc]
  exact ⟨haccess, hrefresh⟩

theorem rowsFollow_deleteConnection {connectionId userId : Uuid}
    (h : deleteConnection db connectionId userId = .ok db') : RowsFollow db db' := by
  have hrow (c : CloudStorageConnection) : Successor c (disconnected c) :=
    ⟨rfl, rfl, Or.inl ⟨rfl, rfl⟩⟩
  rw [deleteConnection_eq_ok h]
  exact rowsFollow_setConnection (fun c _ _ => hrow c) rfl

theorem rowsFollow_browseFolder (hunique : ConnectionsUnique db) {connectionId userId : Uuid}
    {folderId : Option String} {items : List CloudFileItem}
    (h : browseFolder sv db connectionId folderId userId = .ok (items, db')) : RowsFollow db db' := by
  obtain ⟨c, accessToken, hfind, htoken⟩ := browseFolder_token h
  have hc := List.find?_some hfind
  rw [decide_eq_true_iff] at hc
  exact rowsFollow_getAccessToken hunique (List.mem_of_find?_eq_some hfind) hc.2.2 htoken

theorem activeConnection_eq_some {connectionId : Uuid} {c : CloudStorageConnection}
    (h : activeConnection db connectionId = some c) : c ∈ db.connections ∧ c.isActive = true := by
  unfold activeConnection at h
  have hc := List.find?_some h
  rw [decide_eq_true_iff] at hc
  exact ⟨List.mem_of_find?_eq_some h, hc.2⟩

theorem RowsFollow.congr {db₁ : CloudDb} (h : RowsFollow db db₁)
    (heq : db'.connections = db₁.connections) : RowsFollow db db' where
  rows := heq ▸ h.rows

theorem rowsFollow_importFile (hunique : ConnectionsUnique db) {body : CloudImportRequest}
    {draws : ImportDraws} {userId : Uuid} {row : CloudStorageLink}
    (h : importFile sv db body draws userId = .ok (row, db')) : RowsFollow db db' := by
  obtain ⟨c, accessToken, db₁, hfind, htoken, hsame⟩ := importFile_token h
  obtain ⟨hmem, hactive⟩ := activeConnection_eq_some hfind
  exact (rowsFollow_getAccessToken hunique hmem hactive htoken).congr hsame

theorem rowsFollow_exportFile (hunique : ConnectionsUnique db) {body : CloudExportRequest}
    {linkId userId : Uuid} {row : CloudStorageLink}
    (h : exportFile sv db body linkId userId = .ok (row, db')) : RowsFollow db db' := by
  obtain ⟨-, c, accessToken, db₁, hfind, htoken, hsame⟩ := exportFile_token h
  obtain ⟨hmem, hactive⟩ := activeConnection_eq_some hfind
  exact (rowsFollow_getAccessToken hunique hmem hactive htoken).congr hsame

theorem successor_refreshOne {c : CloudStorageConnection} (hdue : refreshDue sv c = true) :
    Successor c (refreshOne sv c) := by
  have hactive : c.isActive = true := by
    unfold refreshDue at hdue
    grind
  unfold refreshOne
  split
  · exact Successor.refl c
  · split
    · exact Successor.refl c
    · exact successor_refreshed hactive

theorem rowsFollow_refreshCloudTokens : RowsFollow db (refreshCloudTokens sv db) where
  rows := by
    refine ⟨_, [], (List.append_nil _).symm, fun c _ => ?_, nofun⟩
    split_ifs with hdue
    · exact successor_refreshOne hdue
    · exact Successor.refl c

def isCallback : CloudCall → Bool
  | .callback .. => true
  | _ => false

theorem rowsFollow_of_ok (hunique : ConnectionsUnique db) {call : CloudCall}
    (hcall : isCallback call = false) {response : CloudResponse}
    (h : cloudHandle call db = (.ok response, db')) : RowsFollow db db' := by
  cases call with
  | authorize userId connectionId provider displayName =>
    simp only [cloudHandle] at h
    split_ifs at h
    · obtain ⟨a, hresult⟩ := finish_eq_ok h
      exact rowsFollow_createConnection (onlyTables_eq_ok hresult)
    · cases h
  | callback sv provider code connectionId => cases hcall
  | disconnect userId connectionId =>
    obtain ⟨a, hresult⟩ := finish_eq_ok h
    exact rowsFollow_deleteConnection (onlyTables_eq_ok hresult)
  | browse sv userId connectionId folderId =>
    obtain ⟨items, hresult⟩ := finish_eq_ok h
    exact rowsFollow_browseFolder hunique hresult
  | link link =>
    obtain ⟨row, hresult⟩ := finish_eq_ok h
    exact rowsFollow_of_eq (createLink_connections hresult)
  | removeLink linkId =>
    obtain ⟨a, hresult⟩ := finish_eq_ok h
    exact rowsFollow_of_eq (deleteLink_connections (onlyTables_eq_ok hresult))
  | importFile sv userId body draws =>
    obtain ⟨row, hresult⟩ := finish_eq_ok h
    exact rowsFollow_importFile hunique hresult
  | exportFile sv userId body linkId =>
    obtain ⟨row, hresult⟩ := finish_eq_ok h
    exact rowsFollow_exportFile hunique hresult
  | refreshTokens sv =>
    obtain ⟨-, rfl⟩ := Prod.mk.inj h
    exact rowsFollow_refreshCloudTokens

/-- Every call but the callback, whether it ends with a result or not. -/
theorem rowsFollow_committed (hunique : ConnectionsUnique db) {call : CloudCall}
    (hcall : isCallback call = false) : RowsFollow db (committed (cloudHandle call) db) := by
  rcases committed_cases (cloudHandle call) db with ⟨_, _, _, hsame⟩ | ⟨_, _, hok, hnew⟩
  · exact rowsFollow_of_eq (congrArg CloudDb.connections hsame)
  · exact hnew.symm ▸ rowsFollow_of_ok hunique hcall hok

theorem unique_committed (hunique : ConnectionsUnique db) (call : CloudCall) :
    ConnectionsUnique (committed (cloudHandle call) db) := by
  rcases committed_cases (cloudHandle call) db with ⟨_, _, _, hsame⟩ | ⟨_, _, hok, hnew⟩
  · exact hsame.symm ▸ hunique
  · exact hnew.symm ▸ hunique.step hok

theorem column_eq (hunique : ConnectionsUnique db) {c : CloudStorageConnection}
    (hc : c ∈ db.connections) (f : CloudStorageConnection → Option String) :
    column f db c.id = f c := by
  have hfind : Table.find CloudStorageConnection.id c.id db.connections = some c :=
    (Table.find_eq_some_iff hunique).mpr ⟨hc, rfl⟩
  rw [column, hfind, Option.bind_some]

theorem sourceAfter_of_not_callback {call : CloudCall} (hcall : isCallback call = false)
    (f : CloudStorageConnection → Option String) (source : Uuid → Option String) (id : Uuid) :
    sourceAfter f db call source id =
      if column f (committed (cloudHandle call) db) id = column f db id then source id
      else column (fun c => some c.provider) db id := by
  cases call with
  | callback sv provider code connectionId => cases hcall
  | _ => rfl

end

/-- A column of tokens, with the provider it is from. -/
theorem sourceAfter_eq_provider {db : CloudDb} (hunique : ConnectionsUnique db) {call : CloudCall}
    (hcall : isCallback call = false) {f : CloudStorageConnection → Option String}
    {source : Uuid → Option String} {c c' : CloudStorageConnection} (hc : c ∈ db.connections)
    (hc' : c' ∈ (committed (cloudHandle call) db).connections) (hid : c'.id = c.id)
    (hsource : f c ≠ none → source c.id = some c.provider) (htoken : f c' ≠ none) :
    sourceAfter f db call source c.id = some c.provider := by
  have hold := column_eq hunique hc
  have hnew : column f (committed (cloudHandle call) db) c.id = f c' := by
    rw [← hid, column_eq (unique_committed hunique call) hc' f]
  rw [sourceAfter_of_not_callback hcall, hnew, hold, hold]
  split_ifs with hsame
  · exact hsource (hsame ▸ htoken)
  · rfl

/-- Every call but the callback keeps the tokens sound. -/
theorem TokensSound.of_not_callback {s t : TracedDb} (hunique : ConnectionsUnique s.db)
    (hs : TokensSound s) {call : CloudCall} (hcall : isCallback call = false)
    (hstep : tracedStep s call = some t) : TokensSound t := by
  obtain rfl := Option.some.inj hstep
  obtain ⟨g, new, hrows, hg, hnew⟩ := (rowsFollow_committed hunique hcall).rows
  intro c' hc'
  have hmem : c' ∈ (committed (cloudHandle call) s.db).connections := hc'
  rw [hrows, List.mem_append] at hmem
  rcases hmem with hold | hfresh
  · obtain ⟨c, hc, rfl⟩ := List.mem_map.mp hold
    have hsound := hs c hc
    have hsucc := hg c hc
    refine ⟨fun hinactive => ?_, fun htoken => ?_, fun htoken => ?_⟩
    · rcases hsucc.tokens with hnone | ⟨hactive, -⟩ | ⟨hactive, haccess, hrefresh⟩
      · exact hnone
      · cases hinactive.symm.trans hactive
      · rw [haccess, hrefresh]
        exact hsound.inactive (hactive ▸ hinactive)
    · rw [hsucc.provider_eq, hsucc.id_eq]
      exact sourceAfter_eq_provider hunique hcall hc hc' hsucc.id_eq hsound.access htoken
    · rw [hsucc.provider_eq, hsucc.id_eq]
      exact sourceAfter_eq_provider hunique hcall hc hc' hsucc.id_eq hsound.refresh htoken
  · obtain ⟨haccess, hrefresh⟩ := hnew c' hfresh
    exact ⟨fun _ => ⟨haccess, hrefresh⟩, fun h => absurd haccess h, fun h => absurd hrefresh h⟩

section
variable {sv : CloudServices} {db db' : CloudDb} {provider code : String} {connectionId : Uuid}

/-- The authorization is completed: of this connection, with these tokens. -/
structure Authorizes (sv : CloudServices) (db : CloudDb) (provider code : String)
    (connectionId : Uuid) (c : CloudStorageConnection) (tokens : TokenData) : Prop where
  found : Table.find CloudStorageConnection.id connectionId db.connections = some c
  valid : provider ∈ validProviders
  exchanged : sv.exchangeCode provider code = .ok tokens
  fits : EmailFits sv provider tokens

theorem getProvider_eq_ok_iff : getProvider provider = .ok () ↔ provider ∈ validProviders := by
  unfold getProvider
  split_ifs with h
  · exact ⟨fun _ => h, fun _ => rfl⟩
  · exact ⟨nofun, fun hvalid => absurd hvalid h⟩

theorem completeOauth_eq_ok (h : completeOauth sv db provider code connectionId = .ok db') :
    ∃ c tokens email, Authorizes sv db provider code connectionId c tokens ∧
      db' = setConnection db connectionId (authorizedConnection sv tokens email) := by
  unfold completeOauth at h
  split at h
  · cases h
  · rename_i c hfind
    obtain ⟨u, hprovider, h⟩ := bind_eq_ok_iff.mp h
    obtain ⟨tokens, htokens, h⟩ := bind_eq_ok_iff.mp h
    have hvalid := getProvider_eq_ok_iff.mp hprovider
    split at h
    · rename_i hinfo
      have hfits : EmailFits sv provider tokens := by
        intro email hemail
        rw [hinfo] at hemail
        cases hemail
      obtain rfl := Except.ok.inj h
      exact ⟨c, tokens, _, ⟨hfind, hvalid, htokens, hfits⟩, rfl⟩
    · rename_i email hinfo
      split at h
      · cases h
      · rename_i text htext
        have hfits : EmailFits sv provider tokens := by
          intro email' hemail
          rw [hinfo] at hemail
          obtain rfl := Except.ok.inj hemail
          rw [htext]
          exact Option.some_ne_none _
        obtain rfl := Except.ok.inj h
        exact ⟨c, tokens, _, ⟨hfind, hvalid, htokens, hfits⟩, rfl⟩

theorem Authorizes.completeOauth_ne_error {c : CloudStorageConnection} {tokens : TokenData}
    (h : Authorizes sv db provider code connectionId c tokens) (e : CloudError) :
    completeOauth sv db provider code connectionId ≠ .error e := by
  have hprovider := getProvider_eq_ok_iff.mpr h.valid
  unfold completeOauth
  rw [h.found]
  simp only [hprovider, h.exchanged, bind, Except.bind]
  split
  · exact fun heq => by cases heq
  · rename_i email hinfo
    split
    · rename_i hnone
      exact absurd hnone (h.fits email hinfo)
    · exact fun heq => by cases heq

/-- The tokens belong on this row. -/
def FitsRow (provider : String) (tokens : TokenData) (c : CloudStorageConnection) : Prop :=
  (nonempty (some tokens.accessToken) = none ∧ nonempty tokens.refreshToken = none) ∨
    c.isActive = true ∧ c.provider = provider

theorem authorizesOwn_iff {c : CloudStorageConnection} {tokens : TokenData}
    (h : Authorizes sv db provider code connectionId c tokens) :
    AuthorizesOwn db (.callback sv provider code connectionId) ↔ FitsRow provider tokens c := by
  constructor
  · exact fun hown => hown c tokens h.found h.valid h.exchanged h.fits
  · intro hfits c' tokens' hfound _ hexchanged _
    obtain rfl : c = c' := Option.some.inj (h.found.symm.trans hfound)
    obtain rfl : tokens = tokens' := Except.ok.inj (h.exchanged.symm.trans hexchanged)
    exact hfits

/-- What the authorization makes of the row. -/
theorem connectionSound_authorized_iff {s : TracedDb} {c : CloudStorageConnection}
    {tokens : TokenData} {email : CloudStorageConnection → Option String}
    (haccess : s.accessFrom c.id = some provider) (hrefresh : s.refreshFrom c.id = some provider) :
    ConnectionSound s (authorizedConnection sv tokens email c) ↔ FitsRow provider tokens c := by
  constructor
  · intro h
    by_cases hnone : nonempty (some tokens.accessToken) = none ∧ nonempty tokens.refreshToken = none
    · exact Or.inl hnone
    · refine Or.inr ⟨?_, ?_⟩
      · by_contra hactive
        obtain ⟨haccessNone, hrefreshNone⟩ := h.inactive (Bool.eq_false_of_not_eq_true hactive)
        exact hnone ⟨Option.map_eq_none_iff.mp haccessNone, Option.map_eq_none_iff.mp hrefreshNone⟩
      · rw [not_and_or] at hnone
        rcases hnone with hsome | hsome
        · have hfrom := h.access (fun heq => hsome (Option.map_eq_none_iff.mp heq))
          exact Option.some.inj (hfrom.symm.trans haccess)
        · have hfrom := h.refresh (fun heq => hsome (Option.map_eq_none_iff.mp heq))
          exact Option.some.inj (hfrom.symm.trans hrefresh)
  · rintro (⟨haccessNone, hrefreshNone⟩ | ⟨hactive, hprovider⟩)
    · have hnoAccess := Option.map_eq_none_iff (f := sv.encrypt).mpr haccessNone
      have hnoRefresh := Option.map_eq_none_iff (f := sv.encrypt).mpr hrefreshNone
      exact ⟨fun _ => ⟨hnoAccess, hnoRefresh⟩, fun h => absurd hnoAccess h,
        fun h => absurd hnoRefresh h⟩
    · refine ⟨fun hinactive => ?_, fun _ => ?_, fun _ => ?_⟩
      · cases hinactive.symm.trans hactive
      · exact haccess.trans (congrArg some hprovider.symm)
      · exact hrefresh.trans (congrArg some hprovider.symm)

end

theorem connectionSound_congr {s t : TracedDb} {c : CloudStorageConnection}
    (haccess : t.accessFrom c.id = s.accessFrom c.id)
    (hrefresh : t.refreshFrom c.id = s.refreshFrom c.id) :
    ConnectionSound t c ↔ ConnectionSound s c := by
  constructor
  · exact fun h => ⟨h.inactive, fun hsome => haccess ▸ h.access hsome,
      fun hsome => hrefresh ▸ h.refresh hsome⟩
  · exact fun h => ⟨h.inactive, fun hsome => haccess ▸ h.access hsome,
      fun hsome => hrefresh ▸ h.refresh hsome⟩

/-- The callback keeps the tokens sound exactly when the code is for the connection. -/
theorem tokensSound_callback_iff {s t : TracedDb} (hunique : ConnectionsUnique s.db)
    (hs : TokensSound s) {sv : CloudServices} {provider code : String} {connectionId : Uuid}
    (hstep : tracedStep s (.callback sv provider code connectionId) = some t) :
    TokensSound t ↔ AuthorizesOwn s.db (.callback sv provider code connectionId) := by
  obtain rfl := Option.some.inj hstep
  -- a callback that raises writes nothing, and its code was good for nothing
  rcases hresult : completeOauth sv s.db provider code connectionId with e | db'
  · have hsame : committed (cloudHandle (.callback sv provider code connectionId)) s.db = s.db := by
      simp only [committed, cloudHandle, hresult]
    have hsource (f : CloudStorageConnection → Option String) (source : Uuid → Option String) :
        sourceAfter f s.db (.callback sv provider code connectionId) source = source := by
      funext id
      simp only [sourceAfter, hresult]
    rw [hsame, hsource, hsource]
    refine iff_of_true hs fun c tokens hfound hvalid hexchanged hfits => ?_
    exact absurd hresult (Authorizes.completeOauth_ne_error ⟨hfound, hvalid, hexchanged, hfits⟩ e)
  · obtain ⟨c, tokens, email, hauthorizes, hdb⟩ := completeOauth_eq_ok hresult
    have hnew : committed (cloudHandle (.callback sv provider code connectionId)) s.db =
        setConnection s.db connectionId (authorizedConnection sv tokens email) := by
      simp only [committed, cloudHandle, hresult, hdb]
    have hsource (f : CloudStorageConnection → Option String) (source : Uuid → Option String) :
        sourceAfter f s.db (.callback sv provider code connectionId) source =
          fun id => if id = connectionId then some provider else source id := by
      funext id
      simp only [sourceAfter, hresult]
    have hid := Table.key_of_find hauthorizes.found
    have hmem := Table.mem_of_find hauthorizes.found
    rw [hnew, hsource, hsource, authorizesOwn_iff hauthorizes]
    constructor
    · intro h
      have hrow := h (authorizedConnection sv tokens email c)
        (Table.mem_alter.mpr ⟨c, hmem, if_pos hid⟩)
      exact (connectionSound_authorized_iff (if_pos hid) (if_pos hid)).mp hrow
    · intro hfits x hx
      obtain ⟨y, hy, rfl⟩ := Table.mem_alter.mp hx
      -- every other connection keeps its tokens and their provider
      by_cases hyid : y.id = connectionId
      · obtain rfl : y = c := List.inj_on_of_nodup_map hunique hy hmem (hyid.trans hid.symm)
        rw [if_pos hyid]
        exact (connectionSound_authorized_iff (if_pos hyid) (if_pos hyid)).mpr hfits
      · rw [if_neg hyid]
        exact (connectionSound_congr (if_neg hyid) (if_neg hyid)).mpr (hs y hy)

theorem tokensSound_step_iff {s t : TracedDb} {call : CloudCall} (hunique : ConnectionsUnique s.db)
    (hs : TokensSound s) (hstep : tracedStep s call = some t) :
    TokensSound t ↔ AuthorizesOwn s.db call := by
  cases hcall : isCallback call with
  | false =>
    refine iff_of_true (hs.of_not_callback hunique hcall hstep) ?_
    cases call with
    | callback sv provider code connectionId => cases hcall
    | _ => trivial
  | true =>
    cases call with
    | callback sv provider code connectionId => exact tokensSound_callback_iff hunique hs hstep
    | _ => cases hcall

/-- No connection has been made yet, and so no link. -/
def unconnected (users matters : List Uuid) (documents : List Document) : TracedDb where
  db := { users := users, matters := matters, documents := documents, connections := [], links := [] }
  accessFrom _ := none
  refreshFrom _ := none

/-- From the start, the tokens are sound in every state of a run exactly when every callback
whose code is good for tokens names an active connection, and its provider. -/
theorem tokensSound_throughout_iff (users matters : List Uuid) (documents : List Document)
    (calls : List CloudCall) :
    Throughout tracedStep TokensSound (unconnected users matters documents) calls ↔
      Along tracedStep (fun s call _ => AuthorizesOwn s.db call)
        (unconnected users matters documents) calls := by
  have hstart : TokensSound (unconnected users matters documents) := by
    intro c hc
    cases hc
  have hunique : ConnectionsUnique (unconnected users matters documents).db := List.nodup_nil
  rw [throughout_iff_along (I := fun s => ConnectionsUnique s.db) ?_ ?_ hunique calls]
  · exact and_iff_right hstart
  · intro s call t hunique hstep
    obtain rfl := Option.some.inj hstep
    exact unique_committed hunique call
  · exact fun s call t hunique hs hstep => tokensSound_step_iff hunique hs hstep

/-- The callback is sent once more after the connection is given up. -/
def lateCallback : List CloudCall :=
  [.authorize 1 5 "dropbox" "Kim", .callback plainServices "dropbox" "code" 5, .disconnect 1 5,
    .callback plainServices "dropbox" "code" 5]

/-- A given up connection has tokens again. -/
theorem not_tokensSound_lateCallback :
    ¬Throughout tracedStep TokensSound (unconnected [1] [] []) lateCallback := by
  intro h
  obtain ⟨s, hrun⟩ : ∃ s, exec tracedStep (unconnected [1] [] []) lateCallback = some s := ⟨_, rfl⟩
  have hview : (exec tracedStep (unconnected [1] [] []) lateCallback).map
      (fun s => s.db.connections.map fun c => (c.isActive, c.accessTokenEncrypted)) =
        some [(false, some "code")] := by
    decide +kernel
  rw [hrun, Option.map_some, Option.some.injEq, List.map_eq_singleton_iff] at hview
  obtain ⟨c, hconnections, hc⟩ := hview
  obtain ⟨hinactive, htoken⟩ := Prod.mk.inj hc
  have hsound := h.final hrun c (hconnections ▸ List.mem_singleton_self c)
  cases htoken.symm.trans (hsound.inactive hinactive).1

end LegalForge.CloudStorage
