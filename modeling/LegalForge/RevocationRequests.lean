import LegalForge.LoginAttempts
import LegalForge.TwoFactorLogin

/-! Logins, refreshes and revocations of sessions on the same tables. Each refresh token
carries the authentication it descends from. -/
namespace LegalForge.Auth
open Transition ReadCommitted

structure IssuedToken extends RefreshToken where
  /-- How often the sessions of the user had been revoked at the authentication that the token
  descends from. This is no column. -/
  root : ℕ
  deriving DecidableEq

structure SessionDb where
  users : List TwoFactorUser
  tokens : List IssuedToken
  /-- The temporary tokens handed out, each with its authentication. This is no table. -/
  challenges : List (Jwt × ℕ)
  /-- How often the sessions of a user have been revoked. This is no table. -/
  epoch : Uuid → ℕ

/-- The tables as the first factor and the refresh see them. -/
def SessionDb.auth (db : SessionDb) : Db where
  users := db.users.map TwoFactorUser.toUser
  tokens := db.tokens.map IssuedToken.toRefreshToken
  providers := []
  ssoSessions := []

/-- The tables as the second factor sees them. -/
def SessionDb.twoFactor (db : SessionDb) : TwoFactorDb where
  users := db.users
  tokens := db.tokens.map IssuedToken.toRefreshToken

/-- The routes that end the sessions of a user. -/
inductive Revocation where
  | changePassword (currentPassword newHash : String)
  | soarRevokeSessions
  | soarDisableUser

inductive RevokeSession where
  | idle
  | found (how : Revocation) (user : User)
  /-- The UPDATE of the user is sent. -/
  | written (how : Revocation) (user : User)
  /-- The tokens that are not revoked have been read. -/
  | collected (how : Revocation) (user : User) (tokens : List Uuid)
  /-- Their UPDATE is sent. Only COMMIT is left. -/
  | ready (how : Revocation) (user : User) (tokens : List Uuid)
  | returned (message : String)
  | raised (error : HttpError)

inductive RevokeStatement where
  | select (how : Revocation) (userId : Uuid)
  | writeUser
  | collect
  | mark

def userNotFound : HttpError := ⟨404, "User not found"⟩

/-- The user whose sessions are revoked. A password is changed by the user of the access token. -/
def revocationTarget (cfg : Config) (db : Db) (userId : Uuid) (how : Revocation) : RevokeSession :=
  match how, getUser db userId with
  | .changePassword _ _, none => .raised ⟨401, "User not found or inactive"⟩
  | .changePassword currentPassword newHash, some user =>
    if !user.isActive then .raised ⟨401, "User not found or inactive"⟩
    else if !cfg.verifyPassword currentPassword user.passwordHash then
      .raised ⟨400, "Current password is incorrect"⟩
    else .found (.changePassword currentPassword newHash) user
  | _, none => .raised userNotFound
  | how, some user => .found how user

/-- The rows `user_id = :id AND revoked = false` -/
def liveTokens (db : SessionDb) (userId : Uuid) : List Uuid :=
  (db.tokens.filter (fun t => t.userId = userId ∧ t.revoked = false)).map fun t => t.id

def revokeStmt (cfg : Config) (db : SessionDb) : RevokeSession → RevokeStatement → Option RevokeSession
  | .idle, .select how userId => some (revocationTarget cfg db.auth userId how)
  | .found how user, .writeUser => some (.written how user)
  | .written how user, .collect => some (.collected how user (liveTokens db user.id))
  | .collected how user tokens, .mark => some (.ready how user tokens)
  | _, _ => none

/-- The assignment to the user, if the route makes one. -/
def revokedUser (how : Revocation) (user : User) : User :=
  match how with
  | .changePassword _ newHash => { user with passwordHash := newHash }
  | .soarRevokeSessions => user
  | .soarDisableUser => deactivated user

def revokeLocks : RevokeSession → RevokeStatement → List LoginRow
  | .found how user, .writeUser => if revokedUser how user = user then [] else [.user user.id]
  | .collected _ _ tokens, .mark => tokens.map fun id => .token (.row id)
  | _, _ => []

def revocationMessage (user : User) : Revocation → String
  | .changePassword _ _ => "Password updated. Please log in again on other devices."
  | .soarRevokeSessions => "All sessions revoked for user "++user.email
  | .soarDisableUser => "User "++user.email++" has been deactivated and all sessions revoked"

inductive AccountRequest where
  | idle
  | login (m : LoginSession)
  | refresh (m : RefreshSession)
  | twoFactor (m : TwoFactorSession)
  | revoke (m : RevokeSession)

/-- `authentication` is the one that the temporary token comes from. -/
inductive AccountStatement where
  | login (a : LoginStatement) (now : Instant)
  | refresh (a : RefreshStatement)
  | twoFactor (a : TwoFactorStatement) (authentication : ℕ)
  | revoke (a : RevokeStatement)

/-- A temporary token whose signature is valid has been handed out. -/
def handedOut (db : SessionDb) (authentication : ℕ) : TwoFactorStatement → Bool
  | .select data _ =>
    match data.tempToken with
    | none => true
    | some payload => payload.type ≠ "2fa_pending" ∨ (payload, authentication) ∈ db.challenges
  | _ => true

def requestStmt (cfg : TwoFactorConfig) (db : SessionDb) :
    AccountRequest → AccountStatement → Option AccountRequest
  | .idle, .login a now => (loginStmt cfg.toConfig now db.auth .idle a).map .login
  | .login m, .login a now => (loginStmt cfg.toConfig now db.auth m a).map .login
  | .idle, .refresh a => (refreshStmt cfg.toConfig db.auth .idle a).map .refresh
  | .refresh m, .refresh a => (refreshStmt cfg.toConfig db.auth m a).map .refresh
  | .idle, .twoFactor a authentication =>
    if handedOut db authentication a then (twoFactorStmt cfg db.twoFactor .idle a).map .twoFactor
    else none
  | .twoFactor m, .twoFactor a _ => (twoFactorStmt cfg db.twoFactor m a).map .twoFactor
  | .idle, .revoke a => (revokeStmt cfg.toConfig db .idle a).map .revoke
  | .revoke m, .revoke a => (revokeStmt cfg.toConfig db m a).map .revoke
  | _, _ => none

def loginRow : AccountRow → LoginRow
  | .user id => .user id
  | .token key => .token key

def requestLocks (cfg : TwoFactorConfig) : AccountRequest → AccountStatement → List LoginRow
  | .login m, .login a _ => (loginLocks cfg.toConfig m a).map loginRow
  | .refresh m, .refresh a => (refreshLocks cfg.toConfig m a).map .token
  | .twoFactor m, .twoFactor a _ => twoFactorLocks cfg m a
  | .revoke m, .revoke a => revokeLocks m a
  | _, _ => []

/-- A request, how often each user had been revoked when it began, and what it rests on. -/
structure AccountSession where
  started : Option (Uuid → ℕ) := none
  /-- The revocations before the authentication, or before the presented token was read. -/
  since : ℕ := 0
  /-- The authentication that a new token will descend from. -/
  root : ℕ := 0
  request : AccountRequest := .idle

/-- The authentication that a row of the tokens descends from. -/
def rootOf (db : SessionDb) (token : RefreshToken) : ℕ :=
  (db.tokens.find? (fun t => t.toRefreshToken = token)).elim 0 IssuedToken.root

/-- What a request rests on after its first statement. -/
def begun (db : SessionDb) (a : AccountStatement) (request : AccountRequest) : AccountSession :=
  match a, request with
  | _, .login (.found user _) => ⟨some db.epoch, db.epoch user.id, db.epoch user.id, request⟩
  | _, .refresh (.found token) =>
    ⟨some db.epoch, db.epoch token.userId, rootOf db token, request⟩
  | .twoFactor _ authentication, _ => ⟨some db.epoch, authentication, authentication, request⟩
  | _, _ => ⟨some db.epoch, 0, 0, request⟩

def accountStmt (cfg : TwoFactorConfig) (db : SessionDb) (m : AccountSession)
    (a : AccountStatement) : Option AccountSession :=
  (requestStmt cfg db m.request a).map fun request =>
    match m.request with
    | .idle => begun db a request
    | _ => { m with request := request }

/-- The UPDATE of the counters of a login. -/
def changeUser (db : SessionDb) (change : UserChange) : SessionDb :=
  { db with
    users := Table.alter (fun u => u.id) change.loaded.id
      (fun u => { u with toUser := updatedRow change u.toUser }) db.users }

def publishLogin (db : SessionDb) (root : ℕ) : LoginSession → Option (SessionDb × LoginSession)
  | .refused => some (db, .raised invalidCredentials)
  | .failed change true => some (changeUser db change, .raised invalidCredentials)
  | .ready change new response =>
    let db' := changeUser db change
    some ({ db' with
      tokens := db'.tokens++new.toList.map fun token => ⟨token, root⟩
      challenges := db'.challenges++response.tempToken.toList.map fun token => (token, root) },
      .returned response)
  | _ => none

/-- The UPDATE of the tokens with these keys. -/
def revokeTokens (ids : List Uuid) (tokens : List IssuedToken) : List IssuedToken :=
  tokens.map fun t => if t.id ∈ ids then { t with revoked := true } else t

def publishRefresh (db : SessionDb) (root : ℕ) :
    RefreshSession → Option (SessionDb × RefreshSession)
  | .ready token new response =>
    some ({ db with tokens := revokeTokens [token.id] db.tokens++[⟨new, root⟩] },
      .returned token response)
  | _ => none

def publishTwoFactor (db : SessionDb) (root : ℕ) :
    TwoFactorSession → Option (SessionDb × TwoFactorSession)
  | .ready use new response =>
    some ({ db with
      users := (finishLogin db.twoFactor use new).users
      tokens := db.tokens++[⟨new, root⟩] }, .returned response)
  | _ => none

/-- The columns that a revocation has changed. -/
def writtenUser (how : Revocation) (loaded : User) (current : TwoFactorUser) : TwoFactorUser :=
  { current with
    passwordHash := Table.assigned loaded.passwordHash (revokedUser how loaded).passwordHash
      current.passwordHash
    isActive := Table.assigned loaded.isActive (revokedUser how loaded).isActive current.isActive }

def publishRevoke (db : SessionDb) : RevokeSession → Option (SessionDb × RevokeSession)
  | .ready how user tokens =>
    some ({ db with
      users := Table.alter (fun u => u.id) user.id (writtenUser how user) db.users
      tokens := revokeTokens tokens db.tokens
      epoch := Function.update db.epoch user.id (db.epoch user.id+1) },
      .returned (revocationMessage user how))
  | _ => none

def publishRequest (db : SessionDb) (root : ℕ) :
    AccountRequest → Option (SessionDb × AccountRequest)
  | .idle => none
  | .login m => (publishLogin db root m).map fun out => (out.1, .login out.2)
  | .refresh m => (publishRefresh db root m).map fun out => (out.1, .refresh out.2)
  | .twoFactor m => (publishTwoFactor db root m).map fun out => (out.1, .twoFactor out.2)
  | .revoke m => (publishRevoke db m).map fun out => (out.1, .revoke out.2)

/-- The request has its response. -/
def finished : AccountRequest → Bool
  | .login (.returned _) => true
  | .login (.raised _) => true
  | .refresh (.returned _ _) => true
  | .refresh (.raised _) => true
  | .twoFactor (.returned _) => true
  | .twoFactor (.raised _) => true
  | .revoke (.returned _) => true
  | .revoke (.raised _) => true
  | _ => false

/-- A request that is broken off answers with an error. -/
def abortRequest (request : AccountRequest) : AccountRequest :=
  if finished request then request
  else
    match request with
    | .idle => .idle
    | .login _ => .login (.raised .internal)
    | .refresh _ => .refresh (.raised .internal)
    | .twoFactor _ => .twoFactor (.raised .internal)
    | .revoke _ => .revoke (.raised .internal)

def accountProgram (cfg : TwoFactorConfig) :
    Program SessionDb AccountSession AccountStatement LoginRow where
  locks := fun _ m a => requestLocks cfg m.request a
  stmt := accountStmt cfg
  publish := fun db m =>
    (publishRequest db m.root m.request).map fun out => (out.1, { m with request := out.2 })
  abort := fun m => { m with request := abortRequest m.request }

abbrev AccountState (Tx : Type*) := State SessionDb AccountSession LoginRow Tx
abbrev AccountLabel (Tx : Type*) := Label AccountStatement Tx

/-! The requests do to the tables what they do alone. -/

theorem auth_changeUser (db : SessionDb) (change : UserChange) :
    (changeUser db change).auth = applyChange db.auth change := by
  have husers : (changeUser db change).auth.users = (applyChange db.auth change).users := by
    change (Table.alter _ _ _ db.users).map _ = Table.alter _ _ _ (db.users.map _)
    rw [Table.alter, Table.alter, List.map_map, List.map_map]
    refine List.map_congr_left fun u _ => ?_
    simp only [Function.comp_apply]
    split_ifs
    · rfl
    · rfl
  exact congrArg (fun rows => { db.auth with users := rows }) husers

theorem publishLogin_auth {cfg : Config} {now : Instant} {db db' : SessionDb} {root : ℕ}
    {m m' : LoginSession} (h : publishLogin db root m = some (db', m')) :
    (loginProgram cfg now).publish db.auth m = some (db'.auth, m') := by
  unfold publishLogin at h
  split at h
  · obtain ⟨rfl, rfl⟩ := Prod.mk.inj (Option.some.inj h)
    rfl
  · obtain ⟨rfl, rfl⟩ := Prod.mk.inj (Option.some.inj h)
    rw [auth_changeUser]
    rfl
  · rename_i change new response
    obtain ⟨rfl, rfl⟩ := Prod.mk.inj (Option.some.inj h)
    have hauth := auth_changeUser db change
    simp only [loginProgram, SessionDb.auth] at hauth ⊢
    rw [← hauth]
    simp [Function.comp_def]
  · cases h

theorem publishRefresh_auth {cfg : Config} {db db' : SessionDb} {root : ℕ}
    {m m' : RefreshSession} (h : publishRefresh db root m = some (db', m')) :
    (refreshProgram cfg).publish db.auth m = some (db'.auth, m') := by
  unfold publishRefresh at h
  split at h
  · rename_i token new response
    obtain ⟨rfl, rfl⟩ := Prod.mk.inj (Option.some.inj h)
    have hrows : (revokeTokens [token.id] db.tokens).map IssuedToken.toRefreshToken =
        Table.alter RefreshToken.id token.id (fun t => { t with revoked := true })
          (db.tokens.map IssuedToken.toRefreshToken) := by
      rw [revokeTokens, Table.alter, List.map_map, List.map_map]
      refine List.map_congr_left fun t _ => ?_
      simp only [Function.comp_apply, List.mem_singleton]
      split_ifs
      · rfl
      · rfl
    simp only [refreshProgram, rotated, revokeToken, SessionDb.auth, List.map_append, hrows]
    rfl
  · cases h

theorem publishTwoFactor_tables {cfg : TwoFactorConfig} {db db' : SessionDb} {root : ℕ}
    {m m' : TwoFactorSession} (h : publishTwoFactor db root m = some (db', m')) :
    ∃ out, (twoFactorProgram cfg).publish db.twoFactor m = some (out, m') ∧
      db'.users = out.users ∧ db'.tokens.map IssuedToken.toRefreshToken = out.tokens := by
  unfold publishTwoFactor at h
  split at h
  · rename_i use new response
    obtain ⟨rfl, rfl⟩ := Prod.mk.inj (Option.some.inj h)
    refine ⟨_, rfl, rfl, ?_⟩
    cases use with
    | none => simp [finishLogin, SessionDb.twoFactor]
    | some use => simp [finishLogin, spendCode, SessionDb.twoFactor]
  · cases h

end LegalForge.Auth
