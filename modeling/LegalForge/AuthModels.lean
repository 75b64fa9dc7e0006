import LegalForge.BaseModels
import LegalForge.Json
import LegalForge.KeyedTable

/-! Users, refresh tokens and single sign-on: tables, and the rules the database
checks when a row is flushed. -/
namespace LegalForge.Auth

/-- A moment in UTC, in microseconds. -/
abbrev Instant := ℕ

/-- A duration in microseconds. -/
def minutes (n : ℕ) : ℕ := n*60*1000000

def days (n : ℕ) : ℕ := minutes (n*24*60)

inductive UserRole where
  | admin
  | attorney
  | paralegal
  | billingClerk
  deriving DecidableEq

namespace UserRole

def value : UserRole → String
  | admin => "admin"
  | attorney => "attorney"
  | paralegal => "paralegal"
  | billingClerk => "billing_clerk"

def all : List UserRole := [admin, attorney, paralegal, billingClerk]

/-- `UserRole(text)`, nothing for a `ValueError`. -/
def ofValue (text : String) : Option UserRole :=
  all.find? (fun r => r.value = text)

theorem ofValue_value (r : UserRole) : ofValue r.value = some r := by
  cases r <;> decide

end UserRole

structure User where
  id : Uuid
  email : String
  passwordHash : String
  firstName : String
  lastName : String
  role : UserRole := .attorney
  isActive : Bool := true
  failedLoginAttempts : ℕ := 0
  lockedUntil : Option Instant := none
  totpEnabled : Bool := false
  webauthnEnabled : Bool := false
  scimExternalId : Option String := none
  deriving DecidableEq

structure RefreshToken where
  id : Uuid
  userId : Uuid
  tokenHash : String
  expiresAt : Instant
  revoked : Bool := false
  deriving DecidableEq

structure SSOProvider where
  id : Uuid
  tokenEndpoint : Option String
  userinfoEndpoint : Option String
  emailClaim : Option String := some "email"
  nameClaim : Option String := some "name"
  roleMapping : Option (List (String × String))
  autoCreateUsers : Bool := true
  defaultRole : Option String := some "paralegal"
  samlAttributeMapping : Option (List (String × String))

structure SSOSession where
  id : Uuid
  userId : Option Uuid
  providerId : Uuid
  externalId : Option String
  idTokenClaims : Option Json
  state : String
  expiresAt : Option Instant

structure Db where
  users : List User
  tokens : List RefreshToken
  providers : List SSOProvider
  ssoSessions : List SSOSession

/-- The settings that are read here, and the two library functions whose values
depend on more than their text. -/
structure Config where
  jwtAccessTokenExpireMinutes : ℕ := 15
  jwtRefreshTokenExpireDays : ℕ := 7
  maxLoginAttempts : ℕ := 5
  lockoutDurationMinutes : ℕ := 30
  /-- `pwd_context.verify(plain, hashed)` -/
  verifyPassword : String → String → Bool
  /-- `hashlib.sha256(text.encode()).hexdigest()` -/
  sha256 : String → String

def getUser (db : Db) (userId : Uuid) : Option User :=
  Table.find User.id userId db.users

def getUserByEmail (db : Db) (email : String) : Option User :=
  Table.find User.email email db.users

/-- A value for a column `String(limit)`. Spaces beyond the limit are cut off,
anything else beyond it is refused, and so is a zero byte. -/
def varchar (limit : ℕ) (text : String) : Option String :=
  let chars := text.toList
  if '\x00' ∈ chars then none
  else if (chars.drop limit).all (fun c => c = ' ') then some (String.ofList (chars.take limit))
  else none

/-- `user.is_active = False` -/
def deactivated (user : User) : User :=
  { user with isActive := false }

/-- The UPDATE of one user row. -/
def setUser (db : Db) (user : User) : Db :=
  { db with users := Table.alter User.id user.id (fun _ => user) db.users }

/-- Flush a changed user. Emails are unique. -/
def flushUser (db : Db) (old user : User) : Option Db :=
  if user.email ≠ old.email ∧ (getUserByEmail db user.email).isSome then none
  else some (setUser db user)

/-- Flush a new user. -/
def insertUser (db : Db) (user : User) : Option Db :=
  if (getUser db user.id).isSome ∨ (getUserByEmail db user.email).isSome then none
  else some { db with users := db.users++[user] }

/-- No token has this key or this hash. -/
def tokenFree (db : Db) (tokenId : Uuid) (tokenHash : String) : Bool :=
  db.tokens.all (fun t => t.id ≠ tokenId ∧ t.tokenHash ≠ tokenHash)

/-- What `secrets` and `uuid` draw for a new refresh token. -/
structure TokenDraw where
  id : Uuid
  value : String

/-- The row of a new refresh token. -/
def refreshToken (cfg : Config) (userId : Uuid) (draw : TokenDraw) (now : Instant) :
    RefreshToken where
  id := draw.id
  userId := userId
  tokenHash := cfg.sha256 draw.value
  expiresAt := now+days cfg.jwtRefreshTokenExpireDays

/-- `create_refresh_token`, whose result is the drawn value. -/
def createRefreshToken (cfg : Config) (db : Db) (userId : Uuid) (draw : TokenDraw)
    (now : Instant) : Option Db :=
  if tokenFree db draw.id (cfg.sha256 draw.value) then
    some { db with tokens := db.tokens++[refreshToken cfg userId draw now] }
  else none

/-- The payload of a JWT. -/
structure Jwt where
  sub : Uuid
  role : Option UserRole
  type : String
  exp : Instant
  deriving DecidableEq

def createAccessToken (cfg : Config) (user : User) (now : Instant) : Jwt :=
  ⟨user.id, some user.role, "access", now+minutes cfg.jwtAccessTokenExpireMinutes⟩

def create2faPendingToken (user : User) (now : Instant) : Jwt :=
  ⟨user.id, none, "2fa_pending", now+minutes 5⟩

/-- Change one user. `row` computes the new row, or nothing when it raises. -/
def writeUser (db : Db) (userId : Uuid) (missing : String) (row : User → Option User) :
    Except HttpError User × Db :=
  match getUser db userId with
  | none => (.error ⟨404, missing⟩, db)
  | some user =>
    match row user with
    | none => (.error .internal, db)
    | some user' =>
      match flushUser db user user' with
      | none => (.error .internal, db)
      | some db' => (.ok user', db')

end LegalForge.Auth
