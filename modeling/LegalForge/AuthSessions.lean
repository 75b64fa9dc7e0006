import LegalForge.AuthModels

/-! Password login, token refresh, and what administrators do to users. -/
namespace LegalForge.Auth

structure LoginRequest where
  email : String
  password : String

structure LoginResponse where
  accessToken : Option Jwt := none
  refreshToken : Option String := none
  tokenType : String := "bearer"
  requires2fa : Bool := false
  tempToken : Option Jwt := none
  mfaMethods : Option (List String) := none

structure TokenResponse where
  accessToken : Jwt
  refreshToken : String
  tokenType : String := "bearer"

def isLocked (user : User) (now : Instant) : Bool :=
  match user.lockedUntil with
  | none => false
  | some locked => now < locked

def failedLogin (cfg : Config) (user : User) (now : Instant) : User :=
  let attempts := user.failedLoginAttempts+1
  { user with
    failedLoginAttempts := attempts
    lockedUntil := if cfg.maxLoginAttempts ≤ attempts
      then some (now+minutes cfg.lockoutDurationMinutes) else user.lockedUntil }

def succeededLogin (user : User) : User :=
  { user with failedLoginAttempts := 0, lockedUntil := none }

/-- `authenticate_user`. It does not look at `is_active`. -/
def authenticateUser (cfg : Config) (db : Db) (email password : String) (now : Instant) :
    Option User × Db :=
  match getUserByEmail db email with
  | none => (none, db)
  | some user =>
    if isLocked user now then (none, db)
    else if !cfg.verifyPassword password user.passwordHash then
      (none, setUser db (failedLogin cfg user now))
    else (some (succeededLogin user), setUser db (succeededLogin user))

def mfaMethods (user : User) : List String :=
  (if user.totpEnabled then ["totp"] else [])++(if user.webauthnEnabled then ["webauthn"] else [])

/-- `POST /login`. A failed attempt is committed before the route raises. -/
def login (cfg : Config) (db : Db) (data : LoginRequest) (draw : TokenDraw) (now : Instant) :
    Except HttpError LoginResponse × Db :=
  match authenticateUser cfg db data.email data.password now with
  | (none, db') => (.error ⟨401, "Invalid credentials"⟩, db')
  | (some user, db') =>
    if mfaMethods user ≠ [] then
      (.ok { requires2fa := true
             tempToken := some (create2faPendingToken user now)
             mfaMethods := some (mfaMethods user) }, db')
    else
      match createRefreshToken cfg db' user.id draw now with
      | none => (.error .internal, db)
      | some db'' =>
        (.ok { accessToken := some (createAccessToken cfg user now)
               refreshToken := some draw.value }, db'')

section
variable {cfg : Config} {db : Db} {data : LoginRequest} {draw : TokenDraw} {now : Instant}
  {user : User}

/-- The tables after a login that is not tried. -/
theorem login_of_locked (hfind : getUserByEmail db data.email = some user)
    (hlocked : isLocked user now = true) : (login cfg db data draw now).2 = db := by
  simp [login, authenticateUser, hfind, hlocked]

theorem login_of_wrong (hfind : getUserByEmail db data.email = some user)
    (hlocked : isLocked user now = false)
    (hwrong : cfg.verifyPassword data.password user.passwordHash = false) :
    (login cfg db data draw now).2 = setUser db (failedLogin cfg user now) := by
  simp [login, authenticateUser, hfind, hlocked, hwrong]

/-- With a second factor the login issues no refresh token yet. -/
theorem login_of_accepted (hfind : getUserByEmail db data.email = some user)
    (hlocked : isLocked user now = false)
    (hright : cfg.verifyPassword data.password user.passwordHash = true) :
    (login cfg db data draw now).2 =
      if mfaMethods user ≠ [] then setUser db (succeededLogin user)
      else (createRefreshToken cfg (setUser db (succeededLogin user)) user.id draw now).getD db := by
  have hmfa : mfaMethods (succeededLogin user) = mfaMethods user := rfl
  have hid : (succeededLogin user).id = user.id := rfl
  simp only [login, authenticateUser, hfind, hlocked, hright, hmfa, hid, Bool.not_true,
    Bool.false_eq_true, if_false]
  split_ifs
  · rfl
  · cases createRefreshToken cfg (setUser db (succeededLogin user)) user.id draw now <;> rfl

end

/-- The token `rotate_refresh_token` accepts. -/
def findRefreshToken (cfg : Config) (db : Db) (oldToken : String) (now : Instant) :
    Option RefreshToken :=
  db.tokens.find? (fun t => t.tokenHash = cfg.sha256 oldToken ∧ t.revoked = false ∧
    now < t.expiresAt)

def revokeToken (db : Db) (tokenId : Uuid) : Db :=
  { db with tokens :=
      Table.alter RefreshToken.id tokenId (fun t => { t with revoked := true }) db.tokens }

/-- `rotate_refresh_token`, nothing when it raises. -/
def rotateRefreshToken (cfg : Config) (db : Db) (oldToken : String) (draw : TokenDraw)
    (now : Instant) : Option (Option User × Db) :=
  match findRefreshToken cfg db oldToken now with
  | none => some (none, db)
  | some token =>
    let db' := revokeToken db token.id
    match getUser db' token.userId with
    | none => some (none, db')
    | some user =>
      if !user.isActive then some (none, db')
      else (createRefreshToken cfg db' user.id draw now).map fun db'' => (some user, db'')

/-- `POST /refresh`. When it raises, the revocation of the old token is rolled back. -/
def refresh (cfg : Config) (db : Db) (oldToken : String) (draw : TokenDraw) (now : Instant) :
    Except HttpError TokenResponse × Db :=
  match rotateRefreshToken cfg db oldToken draw now with
  | none => (.error .internal, db)
  | some (none, _) => (.error ⟨401, "Invalid or expired refresh token"⟩, db)
  | some (some user, db') =>
    (.ok { accessToken := createAccessToken cfg user now, refreshToken := draw.value }, db')

/-- `UserUpdate`. A field that is missing and one that is null are the same. -/
structure UserUpdate where
  email : Option String := none
  firstName : Option String := none
  lastName : Option String := none
  role : Option UserRole := none
  isActive : Option Bool := none

/-- The value of a text column after an assignment, if it can be flushed. -/
def assignedText (limit : ℕ) (current : String) : Option String → Option String
  | none => some current
  | some text => if text = current then some current else varchar limit text

def updatedUser (data : UserUpdate) (user : User) : Option User := do
  let email ← assignedText 255 user.email data.email
  let firstName ← assignedText 100 user.firstName data.firstName
  let lastName ← assignedText 100 user.lastName data.lastName
  some { user with
    email := email
    firstName := firstName
    lastName := lastName
    role := data.role.getD user.role
    isActive := data.isActive.getD user.isActive }

/-- `PUT /users/{user_id}` -/
def updateUser (db : Db) (userId : Uuid) (data : UserUpdate) : Except HttpError User × Db :=
  writeUser db userId "User not found" (updatedUser data)

structure SoarActionResponse where
  success : Bool
  message : String
  action : String

/-- The tokens of a user are revoked. -/
def revokeSessions (db : Db) (userId : Uuid) : Db :=
  { db with tokens :=
      Table.alter RefreshToken.userId userId (fun t => { t with revoked := true }) db.tokens }

/-- `POST /security/disable-user/{user_id}` -/
def soarDisableUser (db : Db) (userId : Uuid) : Except HttpError SoarActionResponse × Db :=
  match getUser db userId with
  | none => (.error ⟨404, "User not found"⟩, db)
  | some user =>
    (.ok { success := true
           message := "User "++user.email++" has been deactivated and all sessions revoked"
           action := "disable_user" },
      revokeSessions (setUser db (deactivated user)) userId)

end LegalForge.Auth
