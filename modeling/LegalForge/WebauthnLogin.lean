import LegalForge.AuditDetails
import LegalForge.Base64
import LegalForge.Deadlines
import LegalForge.SignatureRequests
import LegalForge.TwoFactorLogin
import LegalForge.UnitOfWork

/-! `POST /webauthn/authenticate/complete`: the second factor by a security key. -/
namespace LegalForge.Auth
open Audit JsonText UnitOfWork
open Deadlines (intColumn)
open Esign (optVarchar)

structure WebAuthnCredential where
  id : Uuid
  userId : Uuid
  credentialId : Bytes
  publicKey : Bytes
  signCount : ℤ := 0
  deriving DecidableEq

structure WebauthnDb extends AuditState where
  credentials : List WebAuthnCredential

/-! `base64.urlsafe_b64decode` of a text. -/

/-- Nothing when it raises. A text must be ASCII. -/
def urlsafeB64decode (text : List Char) : Option Bytes :=
  if text.all (fun c => c.toNat < 128) then a2bBase64 text 0 0 0 else none

/-- The id of the credential in the request. A value that is no text stays as it is, and
equals no stored id. -/
def incomingId (credentialData : Json) : Option Bytes :=
  let id := if credentialData.has "id" then credentialData.get "id" else .str ""
  match (credentialData.get "rawId").or id with
  | .str rawId => some ((urlsafeB64decode (rawId.toList++['=', '='])).getD rawId.toUTF8.toList)
  | _ => none

/-- An exception by its text. -/
inductive WebauthnException where
  | valueError (message : String)
  | other (message : String)

/-- `verify_authentication_response` of a credential, a challenge, a public key and a sign
count: the new sign count, or the exception. -/
abbrev Verifier := Json → String → Bytes → ℤ → Except WebauthnException ℤ

/-- What a request meets outside the tables. -/
structure WebauthnEnvironment where
  now : Instant
  /-- The challenge in Redis, or the text of the exception -/
  challenge : Except String (Option String)
  client : Option String
  token : TokenDraw
  draw : AuditDraw

structure WebAuthnAuthCompleteRequest where
  tempToken : Option Jwt
  credential : Json

def matchingCredential (s : WebauthnDb) (user : User) (credentialData : Json) :
    Option WebAuthnCredential :=
  (s.credentials.filter (fun c => c.userId = user.id)).find?
    (fun c => some c.credentialId = incomingId credentialData)

/-- The credential that is used and its new sign count. -/
def verifyCredential (verify : Verifier) (env : WebauthnEnvironment) (s : WebauthnDb)
    (user : User) (credentialData : Json) : Except WebauthnException (WebAuthnCredential × ℤ) :=
  match env.challenge with
  | .error message => .error (.other message)
  | .ok none => .error (.valueError "Authentication challenge expired or not found")
  | .ok (some challenge) =>
    match matchingCredential s user credentialData with
    | none => .error (.valueError "Credential not found")
    | some matching =>
      (verify credentialData challenge matching.publicKey matching.signCount).map
        (fun newSignCount => (matching, newSignCount))

/-- The flush that ends `webauthn_auth_complete`. -/
def setSignCount (s : WebauthnDb) (matching : WebAuthnCredential) (newSignCount : ℤ) :
    Option WebauthnDb :=
  (intColumn newSignCount).map fun signCount =>
    { s with
      credentials := Table.alter WebAuthnCredential.id matching.id
        (fun c => { c with signCount := signCount }) s.credentials }

/-- Flush a row of the audit log. -/
def insertAuditLog (sha256 : String → String) (s : WebauthnDb) (call : AuditCall)
    (draw : AuditDraw) : Option WebauthnDb :=
  match optVarchar 45 call.ipAddress with
  | none => none
  | some ipAddress =>
    if s.logs.all (fun e => e.id ≠ draw.entryId) then
      some { s with
        toAuditState := createAuditLog sha256 s.toAuditState { call with ipAddress := ipAddress } draw }
    else none

def webauthnLoginFailed (user : User) (message : String) (client : Option String) : AuditCall where
  userId := some user.id
  entityType := "user"
  entityId := strId user.id
  action := "webauthn_login_failed"
  changesJson := some (dumps (.obj [(codePoints "error".toList, .str (codePoints message.toList))]))
  ipAddress := client
  outcome := "failure"

def webauthnLogin (user : User) (client : Option String) : AuditCall where
  userId := some user.id
  entityType := "user"
  entityId := strId user.id
  action := "webauthn_login"
  ipAddress := client

/-- The failure is logged, then the exception is raised. -/
def failWebauthn (cfg : Config) (env : WebauthnEnvironment) (s : WebauthnDb) (user : User)
    (message detail : String) : Except HttpError LoginResponse × WebauthnDb :=
  match insertAuditLog cfg.sha256 s (webauthnLoginFailed user message env.client) env.draw with
  | none => (.error .internal, s)
  | some s' => (.error ⟨401, detail⟩, s')

def issueWebauthn (cfg : Config) (env : WebauthnEnvironment) (s : WebauthnDb) (user : User) :
    Except HttpError LoginResponse × WebauthnDb :=
  match createRefreshToken cfg s.db user.id env.token env.now with
  | none => (.error .internal, s)
  | some db =>
    let s' := { s with db := db }
    match insertAuditLog cfg.sha256 s' (webauthnLogin user env.client) env.draw with
    | none => (.error .internal, s')
    | some s' =>
      (.ok
        { accessToken := some (createAccessToken cfg user env.now)
          refreshToken := some env.token.value }, s')

/-- The user that a pending token names, if they may still log in. -/
def pendingUser (db : Db) (tempToken : Option Jwt) (now : Instant) : Except HttpError User :=
  match verify2faPendingToken tempToken now with
  | none => .error ⟨401, "Invalid or expired 2FA token"⟩
  | some userId =>
    match getUser db userId with
    | none => .error ⟨401, "User not found or inactive"⟩
    | some user =>
      if user.isActive then .ok user else .error ⟨401, "User not found or inactive"⟩

/-- `webauthn_authenticate_complete` -/
def webauthnAuthenticateComplete (cfg : Config) (verify : Verifier) (env : WebauthnEnvironment)
    (data : WebAuthnAuthCompleteRequest) : Handler WebauthnDb HttpError LoginResponse := fun s =>
  match pendingUser s.db data.tempToken env.now with
  | .error error => (.error error, s)
  | .ok user =>
    match verifyCredential verify env s user data.credential with
    | .error (.valueError message) => failWebauthn cfg env s user message message
    | .error (.other message) =>
      failWebauthn cfg env s user message "WebAuthn verification failed"
    | .ok (matching, newSignCount) =>
      match setSignCount s matching newSignCount with
      -- after a failed flush the session takes no further statement, so nothing is logged
      | none => (.error .internal, s)
      | some s' => issueWebauthn cfg env s' user

end LegalForge.Auth
