import LegalForge.TokenRotation

/-! `POST /login` as the statements that concurrent sessions interleave, under a
clock. The counter of failed attempts is read, increased in Python and written
back at the flush. -/
namespace LegalForge.Auth
open Transition ReadCommitted

/-- A user row as it was loaded, and as the session changed it. -/
structure UserChange where
  loaded : User
  changed : User

inductive LoginSession where
  | idle
  /-- No such user, or locked. The password is not looked at. -/
  | refused
  | found (user : User) (password : String)
  /-- The password was wrong. `sent` tells whether the UPDATE is sent. -/
  | failed (change : UserChange) (sent : Bool)
  /-- The password was right; nothing is flushed. -/
  | accepted (change : UserChange)
  /-- The UPDATE is sent; the response is not built yet. -/
  | issuing (change : UserChange)
  /-- Only COMMIT is left. -/
  | ready (change : UserChange) (new : Option RefreshToken) (response : LoginResponse)
  | returned (response : LoginResponse)
  | raised (error : HttpError)

inductive LoginStatement where
  | select (data : LoginRequest)
  | verify
  | flush
  /-- The refresh token, or the temporary token when there is a second factor -/
  | respond (draw : TokenDraw)

inductive AccountRow where
  | user (id : Uuid)
  | token (key : TokenKey)
  deriving DecidableEq

def invalidCredentials : HttpError := ⟨401, "Invalid credentials"⟩

def loginStmt (cfg : Config) (now : Instant) (db : Db) :
    LoginSession → LoginStatement → Option LoginSession
  | .idle, .select data =>
    match getUserByEmail db data.email with
    | none => some .refused
    | some user => if isLocked user now then some .refused else some (.found user data.password)
  | .found user password, .verify =>
    if !cfg.verifyPassword password user.passwordHash then
      some (.failed ⟨user, failedLogin cfg user now⟩ false)
    else some (.accepted ⟨user, succeededLogin user⟩)
  | .failed change false, .flush => some (.failed change true)
  | .accepted change, .flush => some (.issuing change)
  | .issuing change, .respond draw =>
    if mfaMethods change.changed ≠ [] then
      some (.ready change none
        { requires2fa := true
          tempToken := some (create2faPendingToken change.changed now)
          mfaMethods := some (mfaMethods change.changed) })
    else if tokenFree db draw.id (cfg.sha256 draw.value) then
      some (.ready change (some (refreshToken cfg change.changed.id draw now))
        { accessToken := some (createAccessToken cfg change.changed now)
          refreshToken := some draw.value })
    else some (.raised .internal)
  | _, _ => none

/-- The UPDATE is sent only if a column has changed. -/
def changedRow (change : UserChange) : List AccountRow :=
  if change.changed = change.loaded then [] else [.user change.loaded.id]

def loginLocks (cfg : Config) : LoginSession → LoginStatement → List AccountRow
  | .failed change false, .flush => changedRow change
  | .accepted change, .flush => changedRow change
  | .issuing change, .respond draw =>
    if mfaMethods change.changed ≠ [] then []
    else [.token (.row draw.id), .token (.hash (cfg.sha256 draw.value))]
  | _, _ => []

/-- The row after the UPDATE of a session, which writes the columns it has changed. -/
def updatedRow (change : UserChange) (current : User) : User :=
  { current with
    failedLoginAttempts := Table.assigned change.loaded.failedLoginAttempts
      change.changed.failedLoginAttempts current.failedLoginAttempts
    lockedUntil := Table.assigned change.loaded.lockedUntil change.changed.lockedUntil
      current.lockedUntil }

def applyChange (db : Db) (change : UserChange) : Db :=
  { db with users := Table.alter User.id change.loaded.id (updatedRow change) db.users }

/-- The route commits a failed attempt before it raises. -/
def loginProgram (cfg : Config) (now : Instant) :
    Program Db LoginSession LoginStatement AccountRow where
  locks := fun _ m a => loginLocks cfg m a
  stmt := loginStmt cfg now
  publish := fun db m =>
    match m with
    | .refused => some (db, .raised invalidCredentials)
    | .failed change true => some (applyChange db change, .raised invalidCredentials)
    | .ready change new response =>
      let db' := applyChange db change
      some ({ db' with tokens := db'.tokens++new.toList }, .returned response)
    | _ => none
  abort := fun m =>
    match m with
    | .idle => .idle
    | .returned response => .returned response
    | .raised error => .raised error
    | _ => .raised .internal

abbrev LoginState (Tx : Type*) := State Db LoginSession AccountRow Tx
abbrev LoginLabel (Tx : Type*) := Label LoginStatement Tx

/-- The sessions and the time of the last step. -/
structure TimedLogins (Tx : Type*) where
  clock : Instant
  state : LoginState Tx

variable {Tx : Type*} [DecidableEq Tx]

/-- On the row that was loaded the UPDATE leaves what the session has changed. -/
theorem applyChange_failedLogin {cfg : Config} {now : Instant} {db : Db} {user : User}
    (hids : (db.users.map User.id).Nodup) (hmem : user ∈ db.users) :
    applyChange db ⟨user, failedLogin cfg user now⟩ = setUser db (failedLogin cfg user now) := by
  have hrows : Table.alter User.id user.id (updatedRow ⟨user, failedLogin cfg user now⟩) db.users =
      Table.alter User.id user.id (fun _ => failedLogin cfg user now) db.users := by
    refine List.map_congr_left fun x hx => ?_
    split_ifs with hid
    · have hsame : x = user := List.inj_on_of_nodup_map hids hx hmem hid
      rw [hsame, updatedRow, Table.assigned_loaded, Table.assigned_loaded]
      rfl
    · rfl
  unfold applyChange
  rw [hrows]
  rfl

/-- The statements of a failed attempt that is alone do what `login` does. -/
theorem exec_failedLogin {cfg : Config} {now : Instant} {s : LoginState Tx} {t : Tx}
    {data : LoginRequest} {user : User} (halone : Alone s t) (hidle : s.session t = .idle)
    (hids : (s.committed.users.map User.id).Nodup)
    (hfind : getUserByEmail s.committed data.email = some user)
    (hunlocked : isLocked user now = false)
    (hwrong : cfg.verifyPassword data.password user.passwordHash = false) (draw : TokenDraw) :
    ∃ s', exec (step (loginProgram cfg now)) s
        [.stmt t (.select data), .stmt t .verify, .stmt t .flush, .commit t] = some s' ∧
      s'.committed = (login cfg s.committed data draw now).2 ∧
      s'.session t = .raised invalidCredentials := by
  have hrun : exec (loginStmt cfg now s.committed) (s.session t) [.select data, .verify, .flush] =
      some (.failed ⟨user, failedLogin cfg user now⟩ true) := by
    rw [hidle]
    simp [exec, loginStmt, hfind, hunlocked, hwrong]
  obtain ⟨s', hs', hdb, hm⟩ := halone.exec_commit (P := loginProgram cfg now) hrun rfl
  refine ⟨s', hs', ?_, hm⟩
  rw [hdb, login_of_wrong hfind hunlocked hwrong]
  exact applyChange_failedLogin hids (Table.mem_of_find hfind)

/-- One step of one session, at a time that is not before the last one. -/
def timedStep (cfg : Config) (s : TimedLogins Tx) (timed : Instant × LoginLabel Tx) :
    Option (TimedLogins Tx) :=
  if s.clock ≤ timed.1 then
    (step (loginProgram cfg timed.1) s.state timed.2).map fun state => ⟨timed.1, state⟩
  else none

/-- The step checks a password for the user and finds it wrong. -/
def wrongVerification (cfg : Config) (userId : Uuid) (s : TimedLogins Tx)
    (timed : Instant × LoginLabel Tx) : Bool :=
  match timed.2 with
  | .stmt t .verify =>
    match s.state.session t with
    | .found user password => user.id = userId ∧ !cfg.verifyPassword password user.passwordHash
    | _ => false
  | _ => false

/-- The step commits a login of the user. -/
def SuccessfulLogin (userId : Uuid) (s : TimedLogins Tx) (timed : Instant × LoginLabel Tx) : Prop :=
  ∃ t change new response, timed.2 = .commit t ∧
    s.state.session t = .ready change new response ∧ change.loaded.id = userId

/-- In every period shorter than the lockout that has no successful login, at most
`max_login_attempts` wrong passwords are checked. -/
def LockoutBound (cfg : Config) (userId : Uuid) (s : TimedLogins Tx)
    (run : List (Instant × LoginLabel Tx)) : Prop :=
  ∀ before period after s' since, run = before++period++after →
    exec (timedStep cfg) s before = some s' →
    (∀ timed ∈ period, since ≤ timed.1 ∧ timed.1 < since+minutes cfg.lockoutDurationMinutes) →
    Along (timedStep cfg) (fun s timed _ => ¬SuccessfulLogin userId s timed) s' period →
    countAlong (timedStep cfg) (wrongVerification cfg userId) s' period ≤ cfg.maxLoginAttempts

/-- The failed attempt that a session has not committed yet. -/
def pendingFailure : LoginSession → Option UserChange
  | .failed change _ => some change
  | _ => none

/-- A wrong password is checked against the row as it is: nobody else has a failed
attempt to commit, the account is not locked meanwhile and the counter has not
grown. And no failed attempt is rolled back. -/
def FreshAttempt (cfg : Config) (userId : Uuid) (s : TimedLogins Tx)
    (timed : Instant × LoginLabel Tx) : Prop :=
  match timed.2 with
  | .stmt t .verify =>
    ∀ user password, s.state.session t = .found user password → user.id = userId →
      cfg.verifyPassword password user.passwordHash = false →
      (∀ u change, pendingFailure (s.state.session u) = some change →
        change.loaded.id ≠ userId) ∧
      ∃ current, getUser s.state.committed userId = some current ∧
        isLocked current timed.1 = false ∧
        current.failedLoginAttempts ≤ user.failedLoginAttempts
  | .rollback t => ∀ change, pendingFailure (s.state.session t) = some change →
      change.loaded.id ≠ userId
  | _ => True

end LegalForge.Auth
