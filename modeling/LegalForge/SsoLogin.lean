import LegalForge.AuthModels

/-! Login through an identity provider, over OpenID Connect and over SAML. What
the provider answers is an input. -/
namespace LegalForge.Sso
open Auth

/-- What `secrets` and `uuid` draw during a callback. -/
structure Draw where
  userId : Uuid
  passwordHash : String
  sessionId : Uuid
  state : String
  token : TokenDraw

/-- How a callback fails. The route answers with a redirect and the session is
committed, unless a flush has failed. -/
inductive Failure where
  /-- `ValueError` -/
  | refused (message : String)
  | unexpected
  | flush

/-- The token endpoint's answer, the id token decoded, and the one of the
userinfo endpoint if it has status 200. -/
structure IdpReply where
  /-- Empty without an id token, and when its signature does not verify. -/
  idTokenClaims : List (String × Json)
  hasAccessToken : Bool
  userinfo : Option (List (String × Json))

structure SamlAssertion where
  nameId : Option String
  attributes : List (String × List String)

/-- The response of a callback that succeeds. -/
structure SignedIn where
  user : User
  accessToken : Jwt
  refreshToken : String

/-- `text or default` -/
def textOr (text : Option String) (default : String) : String :=
  match text with
  | none => default
  | some s => if s = "" then default else s

/-- `base.update(new)` -/
def updateFields (base new : List (String × Json)) : List (String × Json) :=
  base.map (fun field => (field.1, (new.lookup field.1).getD field.2))++
    new.filter (fun field => (base.lookup field.1).isNone)

/-- `_consume_sso_state`: the session row, and the tables without it. -/
def consumeSsoState (db : Db) (state : String) (now : Instant) :
    Except Failure SSOSession × Db :=
  match Table.find SSOSession.state state db.ssoSessions with
  | none => (.error (.refused "Invalid or expired SSO state parameter"), db)
  | some session =>
    let db' := { db with ssoSessions := Table.remove SSOSession.state state db.ssoSessions }
    match session.expiresAt with
    | none => (.ok session, db')
    | some expires =>
      if expires < now then (.error (.refused "SSO session has expired"), db') else (.ok session, db')

def groupsOf (claims : List (String × Json)) : List Json :=
  match claims.lookup "groups" with
  | some (.arr groups) => groups
  | _ => []

/-- The role of the first mapped group among the claims, if it names a role. -/
def mappedRole (provider : SSOProvider) (claims : List (String × Json)) : Option UserRole :=
  match (provider.roleMapping.getD []).find?
      (fun entry => (groupsOf claims).any (fun g => g.isText entry.1)) with
  | none => none
  | some entry => UserRole.ofValue entry.2

/-- `_apply_role_mapping` -/
def applyRoleMapping (user : User) (provider : SSOProvider) (claims : List (String × Json)) :
    User :=
  { user with role := (mappedRole provider claims).getD user.role }

/-- The part of a text before the first `c`, and the part after it. -/
def splitAt (c : Char) (text : String) : String × String :=
  (String.ofList (text.toList.takeWhile (fun d => d ≠ c)),
    String.ofList ((text.toList.dropWhile (fun d => d ≠ c)).drop 1))

/-- The row for a user who logs in for the first time. -/
def ssoUser (provider : SSOProvider) (email fullName : String) (claims : List (String × Json))
    (draw : Draw) : Option User := do
  let names := splitAt ' ' fullName
  let first := if fullName ≠ "" then names.1 else (splitAt '@' email).1
  let defaultRole := (UserRole.ofValue (textOr provider.defaultRole "paralegal")).getD .paralegal
  let email ← varchar 255 email
  let firstName ← varchar 100 first
  let lastName ← varchar 100 (if names.2 ≠ "" then names.2 else "SSO")
  some
    { id := draw.userId
      email := email
      passwordHash := draw.passwordHash
      firstName := firstName
      lastName := lastName
      role := (mappedRole provider claims).getD defaultRole }

/-- Whom the provider has authenticated. -/
structure Identity where
  provider : SSOProvider
  email : String
  fullName : Json
  externalId : Json
  claims : List (String × Json)

/-- `full_name`. A value of another type is ignored if it is empty, and raises otherwise. -/
def nameText : Json → Option String
  | .str name => some name
  | name => if name.truthy then none else some ""

/-- `_find_or_create_user`. It does not look at `is_active`. -/
def findOrCreateUser (db : Db) (who : Identity) (draw : Draw) : Except Failure (User × Db) :=
  match getUserByEmail db who.email with
  | some user =>
    let user' := applyRoleMapping user who.provider who.claims
    .ok (user', setUser db user')
  | none =>
    if !who.provider.autoCreateUsers then
      .error (.refused
        ("User "++who.email++" not found and auto-creation is disabled for this provider"))
    else
      match nameText who.fullName with
      | none => .error .unexpected
      | some name =>
        match ssoUser who.provider who.email name who.claims draw with
        | none => .error .flush
        | some user =>
          match insertUser db user with
          | none => .error .flush
          | some db' => .ok (user, db')

/-- The user is found and mapped again, or created. -/
theorem findOrCreateUser_eq_ok {db db' : Db} {who : Identity} {draw : Draw} {user : User}
    (h : findOrCreateUser db who draw = .ok (user, db')) :
    (∃ old, getUserByEmail db who.email = some old ∧
      user = applyRoleMapping old who.provider who.claims ∧ db' = setUser db user) ∨
    (getUserByEmail db who.email = none ∧ insertUser db user = some db' ∧
      ∃ name, ssoUser who.provider who.email name who.claims draw = some user) := by
  unfold findOrCreateUser at h
  cases hfind : getUserByEmail db who.email with
  | some old =>
    rw [hfind] at h
    obtain ⟨huser, hdb⟩ := Prod.mk.inj (Except.ok.inj h)
    left
    exact ⟨old, rfl, huser.symm, by rw [← hdb, huser]⟩
  | none =>
    rw [hfind] at h
    dsimp only at h
    split_ifs at h
    split at h
    · cases h
    · split at h
      · cases h
      · rename_i created hcreated
        split at h
        · cases h
        · rename_i inserted hinsert
          obtain ⟨rfl, rfl⟩ := Prod.mk.inj (Except.ok.inj h)
          right
          exact ⟨rfl, hinsert, _, hcreated⟩

/-- `external_id` as the value of a text column. -/
def externalIdColumn : Json → Option (Option String)
  | .null => some none
  | .str s => (varchar 500 s).map some
  | _ => none

/-- The session row a callback adds. -/
def newSsoSession (db : Db) (who : Identity) (user : User) (draw : Draw) (now : Instant) :
    Option Db :=
  if db.ssoSessions.any (fun s => s.id = draw.sessionId ∨ s.state = draw.state) then none
  else
    (externalIdColumn who.externalId).map fun externalId =>
      { db with
        ssoSessions := db.ssoSessions++
          [{ id := draw.sessionId
             userId := some user.id
             providerId := who.provider.id
             externalId := externalId
             idTokenClaims := some (.obj who.claims)
             state := draw.state
             expiresAt := some (now+minutes (8*60)) }] }

/-- The user is found or created, a session is stored and tokens are issued. -/
def completeLogin (cfg : Config) (db : Db) (who : Identity) (draw : Draw) (now : Instant) :
    Except Failure (SignedIn × Db) :=
  match findOrCreateUser db who draw with
  | .error failure => .error failure
  | .ok (user, db') =>
    match newSsoSession db' who user draw now with
    | none => .error .flush
    | some db'' =>
      match createRefreshToken cfg db'' user.id draw.token now with
      | none => .error .flush
      | some out => .ok (⟨user, createAccessToken cfg user now, draw.token.value⟩, out)

/-- What is committed after a failure. `kept` is what the session has written. -/
def afterFailure (db kept : Db) : Failure → Db
  | .flush => db
  | .refused _ => kept
  | .unexpected => kept

/-- The claims of the id token, completed by those of the userinfo endpoint. -/
def ssoClaims (provider : SSOProvider) (reply : IdpReply) : List (String × Json) :=
  let found := (reply.idTokenClaims.lookup (textOr provider.emailClaim "email")).getD .null
  if !found.truthy && (textOr provider.userinfoEndpoint "" ≠ "") && reply.hasAccessToken then
    updateFields reply.idTokenClaims (reply.userinfo.getD [])
  else reply.idTokenClaims

/-- `handle_sso_callback` from the provider to the claims. -/
def ssoIdentity (db : Db) (session : SSOSession) (reply : Option IdpReply) :
    Except Failure Identity :=
  match Table.find SSOProvider.id session.providerId db.providers with
  | none => .error (.refused "SSO provider not found")
  | some provider =>
    if textOr provider.tokenEndpoint "" = "" then
      .error (.refused "Provider has no token_endpoint configured")
    else
      match reply with
      | none => .error .unexpected
      | some reply =>
        let claims := ssoClaims provider reply
        let email := (claims.lookup (textOr provider.emailClaim "email")).getD .null
        if !email.truthy then .error (.refused "Could not extract email from IdP response")
        else
          match email with
          | .str text =>
            .ok
              { provider := provider
                email := text
                fullName := (claims.lookup (textOr provider.nameClaim "name")).getD (.str "")
                externalId := (claims.lookup "sub").getD (.str "")
                claims := claims }
          | _ => .error .unexpected

/-- `GET /callback`. `reply` is missing when the exchange with the provider fails. -/
def ssoCallback (cfg : Config) (db : Db) (state : String) (reply : Option IdpReply) (draw : Draw)
    (now : Instant) : Except Failure SignedIn × Db :=
  match consumeSsoState db state now with
  | (.error failure, db') => (.error failure, db')
  | (.ok session, db') =>
    match ssoIdentity db' session reply with
    | .error failure => (.error failure, afterFailure db db' failure)
    | .ok who =>
      match completeLogin cfg db' who draw now with
      | .error failure => (.error failure, afterFailure db db' failure)
      | .ok (out, db'') => (.ok out, db'')

/-- The first value of an attribute, if it has one. -/
def firstValue (assertion : SamlAssertion) (name : String) : Option String :=
  (assertion.attributes.lookup name).bind List.head?

/-- `attr_mapping.get(key, default)` -/
def samlAttribute (provider : SSOProvider) (key default : String) : String :=
  ((provider.samlAttributeMapping.getD []).lookup key).getD default

/-- The claims `handle_saml_callback` builds for `_find_or_create_user`. -/
def samlClaims (provider : SSOProvider) (assertion : SamlAssertion) (email fullName : String) :
    List (String × Json) :=
  let nameId := match assertion.nameId with
    | none => Json.null
    | some s => .str s
  let groups := match assertion.attributes.lookup (samlAttribute provider "groups" "groups") with
    | none => []
    | some values => [("groups", Json.arr (values.map Json.str))]
  [("email", .str email), ("name", .str fullName), ("sub", nameId)]++groups

/-- `handle_saml_callback` on a response the library has accepted, up to the claims. -/
def samlIdentity (provider : SSOProvider) (assertion : SamlAssertion) : Except Failure Identity :=
  let emailAttribute := samlAttribute provider "email" (textOr provider.emailClaim "email")
  let nameAttribute := samlAttribute provider "name" (textOr provider.nameClaim "name")
  let email := textOr (firstValue assertion emailAttribute) (assertion.nameId.getD "")
  if email = "" then .error (.refused "Could not extract email from SAML response")
  else
    let fullName := (firstValue assertion nameAttribute).getD ""
    .ok
      { provider := provider
        email := email
        fullName := .str fullName
        externalId := .str (assertion.nameId.getD "")
        claims := samlClaims provider assertion email fullName }

/-- `POST /saml/callback`, with the provider its relay state names. `assertion`
is the error of the library when it refuses the response. -/
def samlCallback (cfg : Config) (db : Db) (providerId : Uuid)
    (assertion : Except Failure SamlAssertion) (draw : Draw) (now : Instant) :
    Except Failure SignedIn × Db :=
  match Table.find SSOProvider.id providerId db.providers with
  | none => (.error (.refused "Provider+not+found"), db)
  | some provider =>
    match assertion.bind (samlIdentity provider) with
    | .error failure => (.error failure, db)
    | .ok who =>
      match completeLogin cfg db who draw now with
      | .error failure => (.error failure, db)
      | .ok (out, db') => (.ok out, db')

end LegalForge.Sso
