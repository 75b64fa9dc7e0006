import LegalForge.ReadCommitted
import LegalForge.SsoLogin

/-! `POST /login/initiate` and `GET /callback` as the statements that concurrent sessions
interleave. A callback locks the row of its state, and its DELETE is committed with the rest. -/
namespace LegalForge.Sso
open Auth Transition ReadCommitted

inductive SSOProviderType where
  | oidc
  | saml
  deriving DecidableEq

structure LoginProvider extends SSOProvider where
  providerType : SSOProviderType := .oidc
  isActive : Bool := false
  isDefault : Bool := false
  clientId : Option String := none
  authorizationEndpoint : Option String := none
  jwksUri : Option String := none
  scopes : Option String := some "openid email profile"

structure NewSession extends SSOSession where
  nonce : Option String := none

structure StoredSession extends NewSession where
  /-- How many rows have been stored before. This is no column. -/
  serial : ℕ

structure SsoDb where
  users : List User
  tokens : List RefreshToken
  providers : List LoginProvider
  sessions : List StoredSession
  /-- How many rows `sso_sessions` has had. -/
  stored : ℕ

/-- The tables as a callback without concurrent requests sees them. -/
def SsoDb.auth (db : SsoDb) : Db where
  users := db.users
  tokens := db.tokens
  providers := db.providers.map LoginProvider.toSSOProvider
  ssoSessions := db.sessions.map fun s => s.toSSOSession

/-- What the libraries and the provider's keys contribute. -/
structure SsoConfig extends Config where
  ssoRedirectUri : String
  /-- `str(httpx.URL(base).copy_with(params=params))`, nothing when it raises. -/
  url : String → List (String × String) → Option String
  /-- `auth.login(return_to=str(provider.id))` -/
  samlLogin : LoginProvider → Except Failure String
  /-- `jose_jwt.decode` with the key that the JWKS has for the token, or its exception. -/
  decodeJwt : (idToken jwksUri audience : String) → Instant →
    Except String (List (String × Json))

/-- What `secrets` and `uuid` draw for a login. -/
structure LoginDraw where
  sessionId : Uuid
  state : String
  nonce : String

structure SSOLoginInitiateResponse where
  redirectUrl : String
  state : String
  deriving DecidableEq

/-- No row has this key or this state. -/
def sessionFree (sessions : List StoredSession) (sessionId : Uuid) (state : String) : Bool :=
  sessions.all (fun s => s.id ≠ sessionId ∧ s.state ≠ state)

def authorizationParams (cfg : SsoConfig) (provider : LoginProvider) (draw : LoginDraw) :
    List (String × String) :=
  [("response_type", "code"), ("client_id", textOr provider.clientId ""),
    ("redirect_uri", cfg.ssoRedirectUri),
    ("scope", textOr provider.scopes "openid email profile"), ("state", draw.state),
    ("nonce", draw.nonce)]

/-- The row that tracks a login for ten minutes. -/
def trackedLogin (provider : LoginProvider) (draw : LoginDraw) (nonce : Option String)
    (now : Instant) : NewSession where
  id := draw.sessionId
  userId := none
  providerId := provider.id
  externalId := none
  idTokenClaims := none
  state := draw.state
  expiresAt := some (now+minutes 10)
  nonce := nonce

/-- `initiate_sso_login`, for a SAML provider `initiate_saml_login`. -/
def initiateSsoLogin (cfg : SsoConfig) (db : SsoDb) (provider : LoginProvider) (draw : LoginDraw)
    (now : Instant) : Except Failure (NewSession × SSOLoginInitiateResponse) :=
  match provider.providerType with
  | .saml =>
    match cfg.samlLogin provider with
    | .error failure => .error failure
    | .ok url =>
      if sessionFree db.sessions draw.sessionId draw.state then
        .ok (trackedLogin provider draw none now, ⟨url, draw.state⟩)
      else .error .flush
  | .oidc =>
    let endpoint := textOr provider.authorizationEndpoint ""
    if endpoint = "" then
      .error (.refused "Provider has no authorization_endpoint configured. Run discovery first.")
    else if !sessionFree db.sessions draw.sessionId draw.state then .error .flush
    else
      match cfg.url endpoint (authorizationParams cfg provider draw) with
      | none => .error .unexpected
      | some url => .ok (trackedLogin provider draw (some draw.nonce) now, ⟨url, draw.state⟩)

/-- `get_sso_provider` or `get_default_provider`. Two defaults raise. -/
def selectProvider (db : SsoDb) : Option Uuid → Except HttpError (Option LoginProvider)
  | some providerId => .ok (Table.find (fun p => p.id) providerId db.providers)
  | none =>
    match db.providers.filter (fun p => p.isDefault && p.isActive) with
    | [] => .ok none
    | [provider] => .ok (some provider)
    | _ => .error .internal

/-- `sso_login_initiate` up to its COMMIT. -/
def ssoLoginInitiate (cfg : SsoConfig) (db : SsoDb) (providerId : Option Uuid) (draw : LoginDraw)
    (now : Instant) : Except HttpError (NewSession × SSOLoginInitiateResponse) :=
  match selectProvider db providerId with
  | .error error => .error error
  | .ok none =>
    .error ⟨404, "SSO provider not found. Specify a provider_id or configure a default provider."⟩
  | .ok (some provider) =>
    if !provider.isActive then .error ⟨400, "SSO provider is not active"⟩
    else
      match initiateSsoLogin cfg db provider draw now with
      | .error (.refused message) => .error ⟨400, message⟩
      | .error _ => .error .internal
      | .ok login => .ok login

/-- The answer of the token endpoint, and the one of the userinfo endpoint if it has
status 200. -/
structure TokenAnswer where
  idToken : Option String
  hasAccessToken : Bool
  userinfo : Option (List (String × Json))

/-- `_decode_id_token` -/
def decodeIdToken (cfg : SsoConfig) (idToken : String) (jwksUri : Option String)
    (clientId : String) (now : Instant) : Except String (List (String × Json)) :=
  if textOr jwksUri "" = "" then
    .error "Cannot verify id_token: no JWKS URI configured for this provider"
  else
    match cfg.decodeJwt idToken (textOr jwksUri "") clientId now with
    | .error exception => .error ("id_token signature verification failed: "++exception)
    | .ok claims => .ok claims

/-- The claims of the id token. A token that cannot be verified has none. -/
def idTokenClaims (cfg : SsoConfig) (provider : LoginProvider) (answer : TokenAnswer)
    (now : Instant) : List (String × Json) :=
  let idToken := textOr answer.idToken ""
  if idToken = "" then []
  else
    match decodeIdToken cfg idToken provider.jwksUri (textOr provider.clientId "") now with
    | .error _ => []
    | .ok claims => claims

def idpReply (cfg : SsoConfig) (db : SsoDb) (session : StoredSession) (answer : TokenAnswer)
    (now : Instant) : IdpReply where
  idTokenClaims :=
    match Table.find (fun p => p.id) session.providerId db.providers with
    | none => []
    | some provider => idTokenClaims cfg provider answer now
  hasAccessToken := answer.hasAccessToken
  userinfo := answer.userinfo

/-- A callback has got past `_consume_sso_state` with this row. -/
structure Consumption where
  session : StoredSession
  time : Instant
  /-- What it has learnt from the provider, once it has. -/
  reply : Option IdpReply := none

inductive UserWrite where
  /-- `_apply_role_mapping` has changed the loaded row. -/
  | update (loaded changed : User)
  | create (user : User)

def UserWrite.user : UserWrite → User
  | .update _ changed => changed
  | .create user => user

inductive Progress where
  /-- The DELETE of the session row is flushed. -/
  | consumed
  | identified (who : Identity)
  /-- `SELECT ... WHERE email = ...` has been answered. -/
  | userRead (who : Identity) (user : Option User)
  | userStored (who : Identity) (write : UserWrite)
  | sessionStored (write : UserWrite) (row : NewSession)
  /-- Everything is flushed. Only COMMIT is left. -/
  | ready (write : UserWrite) (row : NewSession) (token : RefreshToken) (response : SignedIn)
  /-- The route has caught an exception and redirects. -/
  | failed (failure : Failure)
  /-- It has caught one of the database. The transaction is lost, and only ROLLBACK is left. -/
  | aborted

/-- What any other request writes: the three other tables, and a new session row. -/
structure OtherWrite where
  users : List User → List User
  tokens : List RefreshToken → List RefreshToken
  providers : List LoginProvider → List LoginProvider
  session : Option NewSession

inductive SsoRequest where
  | idle
  /-- The row of a new login is flushed. -/
  | offered (row : NewSession) (login : SSOLoginInitiateResponse)
  | initiated (row : StoredSession) (login : SSOLoginInitiateResponse)
  | raised (error : HttpError)
  /-- The state is not there. -/
  | unknown
  /-- The DELETE of an expired row is pending. -/
  | expired (row : StoredSession)
  | callback (c : Consumption) (progress : Progress)
  | responded (c : Option Consumption) (response : Except Failure SignedIn)
  /-- A callback that ends without its redirect. -/
  | brokenOff (c : Option Consumption)
  | writing (write : OtherWrite)
  | written

inductive SsoStatement where
  | initiate (providerId : Option Uuid) (draw : LoginDraw) (now : Instant)
  /-- `_consume_sso_state` -/
  | consume (state : String) (now : Instant)
  /-- The exchange. There is no answer if it raises. -/
  | exchange (answer : Option TokenAnswer) (now : Instant)
  | selectUser
  | flushUser (draw : Draw)
  | flushSession (draw : Draw) (now : Instant)
  | flushToken (draw : Draw) (now : Instant)
  | write (w : OtherWrite)

def findState (db : SsoDb) (state : String) : Option StoredSession :=
  Table.find (fun s => s.state) state db.sessions

/-- `expires < now` -/
def isExpired (session : StoredSession) (now : Instant) : Bool :=
  session.expiresAt.any (fun expires => expires < now)

/-- `_consume_sso_state`, once it has the lock of the row. -/
def consumeState (db : SsoDb) (state : String) (now : Instant) : SsoRequest :=
  match findState db state with
  | none => .unknown
  | some session =>
    if isExpired session now then .expired session
    else .callback { session := session, time := now } .consumed

/-- The row of the user, from `_find_or_create_user` after its SELECT. -/
def storeUser (db : SsoDb) (who : Identity) (draw : Draw) : Option User → Progress
  | some user =>
    let changed := applyRoleMapping user who.provider who.claims
    if changed ≠ user ∧ getUser db.auth user.id = none then .aborted
    else .userStored who (.update user changed)
  | none =>
    if !who.provider.autoCreateUsers then
      .failed (.refused
        ("User "++who.email++" not found and auto-creation is disabled for this provider"))
    else
      match nameText who.fullName with
      | none => .failed .unexpected
      | some name =>
        match ssoUser who.provider who.email name who.claims draw with
        | none => .aborted
        | some user =>
          match insertUser db.auth user with
          | none => .aborted
          | some _ => .userStored who (.create user)

/-- The row for the authenticated user. Nothing if it does not fit its columns. -/
def completedLogin (who : Identity) (user : User) (draw : Draw) (now : Instant) :
    Option NewSession :=
  (externalIdColumn who.externalId).map fun externalId =>
    { id := draw.sessionId
      userId := some user.id
      providerId := who.provider.id
      externalId := externalId
      idTokenClaims := some (.obj who.claims)
      state := draw.state
      expiresAt := some (now+minutes (8*60)) }

def callbackStmt (cfg : SsoConfig) (db : SsoDb) (c : Consumption) :
    Progress → SsoStatement → Option SsoRequest
  | .consumed, .exchange answer now =>
    let reply := answer.map fun a => idpReply cfg db c.session a now
    match ssoIdentity db.auth c.session.toSSOSession reply with
    | .error failure => some (.callback { c with reply := reply } (.failed failure))
    | .ok who => some (.callback { c with reply := reply } (.identified who))
  | .identified who, .selectUser =>
    -- PostgreSQL refuses a text with a zero byte
    if '\x00' ∈ who.email.toList then some (.callback c .aborted)
    else some (.callback c (.userRead who (getUserByEmail db.auth who.email)))
  | .userRead who user, .flushUser draw => some (.callback c (storeUser db who draw user))
  | .userStored who write, .flushSession draw now =>
    match completedLogin who write.user draw now with
    | none => some (.callback c .aborted)
    | some row =>
      if sessionFree (Table.remove (fun s => s.state) c.session.state db.sessions) row.id
          row.state then
        some (.callback c (.sessionStored write row))
      else some (.callback c .aborted)
  | .sessionStored write row, .flushToken draw now =>
    if tokenFree db.auth draw.token.id (cfg.sha256 draw.token.value) then
      some (.callback c (.ready write row
        (refreshToken cfg.toConfig write.user.id draw.token now)
        ⟨write.user, createAccessToken cfg.toConfig write.user now, draw.token.value⟩))
    else some (.callback c .aborted)
  | _, _ => none

def ssoStmt (cfg : SsoConfig) (db : SsoDb) : SsoRequest → SsoStatement → Option SsoRequest
  | .idle, .initiate providerId draw now =>
    match ssoLoginInitiate cfg db providerId draw now with
    | .error error => some (.raised error)
    | .ok (row, login) => some (.offered row login)
  | .idle, .consume state now => some (consumeState db state now)
  | .idle, .write w => some (.writing w)
  | .callback c progress, a => callbackStmt cfg db c progress a
  | _, _ => none

inductive SsoRow where
  | state (state : String)
  | session (id : Uuid)
  | user (id : Uuid)
  | email (email : String)
  | token (id : Uuid)
  | tokenHash (tokenHash : String)
  deriving DecidableEq

/-- An INSERT takes the keys of its row until the session ends. -/
def newSessionLocks (row : NewSession) : List SsoRow :=
  [.session row.id, .state row.state]

def callbackLocks (cfg : SsoConfig) : Progress → SsoStatement → List SsoRow
  | .userRead who (some user), .flushUser _ =>
    if applyRoleMapping user who.provider who.claims = user then [] else [.user user.id]
  | .userRead who none, .flushUser draw => [.user draw.userId, .email who.email]
  | .userStored _ _, .flushSession draw _ => [.session draw.sessionId, .state draw.state]
  | .sessionStored _ _, .flushToken draw _ =>
    [.token draw.token.id, .tokenHash (cfg.sha256 draw.token.value)]
  | _, _ => []

/-- The SELECT of a callback is FOR UPDATE. -/
def ssoLocks (cfg : SsoConfig) (db : SsoDb) : SsoRequest → SsoStatement → List SsoRow
  | .idle, .initiate providerId draw now =>
    match ssoLoginInitiate cfg db providerId draw now with
    | .error _ => []
    | .ok (row, _) => newSessionLocks row
  | .idle, .consume state _ => (findState db state).toList.map fun row => .state row.state
  | .idle, .write w => w.session.toList.flatMap newSessionLocks
  | .callback _ progress, a => callbackLocks cfg progress a
  | _, _ => []

/-- The rows of the users after the UPDATE or the INSERT. -/
def usersAfter (users : List User) : UserWrite → List User
  | .update loaded changed =>
    Table.alter User.id loaded.id
      (fun u => { u with role := Table.assigned loaded.role changed.role u.role }) users
  | .create user => users++[user]

def deleteState (db : SsoDb) (session : StoredSession) : SsoDb :=
  { db with sessions := Table.remove (fun s => s.state) session.state db.sessions }

def storeSession (db : SsoDb) (row : NewSession) : SsoDb :=
  { db with sessions := db.sessions++[⟨row, db.stored⟩], stored := db.stored+1 }

/-- The tables when the request of another kind commits. -/
def writeOther (db : SsoDb) (w : OtherWrite) : SsoDb :=
  let db' := { db with
    users := w.users db.users
    tokens := w.tokens db.tokens
    providers := w.providers db.providers }
  match w.session with
  | none => db'
  | some row => storeSession db' row

def publishSso (db : SsoDb) : SsoRequest → Option (SsoDb × SsoRequest)
  | .offered row login => some (storeSession db row, .initiated ⟨row, db.stored⟩ login)
  | .unknown =>
    some (db, .responded none (.error (.refused "Invalid or expired SSO state parameter")))
  | .expired row =>
    some (deleteState db row, .responded none (.error (.refused "SSO session has expired")))
  | .callback c (.failed failure) =>
    some (deleteState db c.session, .responded (some c) (.error failure))
  | .callback c (.ready write row token response) =>
    let db' := deleteState db c.session
    some (storeSession { db' with
      users := usersAfter db.users write
      tokens := db.tokens++[token] } row, .responded (some c) (.ok response))
  | .writing w => some (writeOther db w, .written)
  | _ => none

def abortSso : SsoRequest → SsoRequest
  | .offered _ _ => .raised .internal
  | .unknown => .brokenOff none
  | .expired _ => .brokenOff none
  -- the route still answers with its redirect
  | .callback c .aborted => .responded (some c) (.error .flush)
  | .callback c _ => .brokenOff (some c)
  | .writing _ => .written
  | request => request

def ssoProgram (cfg : SsoConfig) : Program SsoDb SsoRequest SsoStatement SsoRow where
  locks := ssoLocks cfg
  stmt := ssoStmt cfg
  publish := publishSso
  abort := abortSso

abbrev SsoState (Tx : Type*) := State SsoDb SsoRequest SsoRow Tx
abbrev SsoLabel (Tx : Type*) := Label SsoStatement Tx

/-- Tables with these rows, numbered in their order. -/
def ssoTables (users : List User) (tokens : List RefreshToken) (providers : List LoginProvider)
    (rows : List NewSession) : SsoDb :=
  rows.foldl storeSession ⟨users, tokens, providers, [], 0⟩

end LegalForge.Sso
