import LegalForge.JsonRoundTrip
import LegalForge.PythonText
import LegalForge.TokenRotation

/-! `POST /2fa/verify` as the statements that concurrent sessions interleave. The
recovery codes of a user are one JSON column, which is read, shortened and
written back whole. -/
namespace LegalForge.Auth
open Transition ReadCommitted JsonText

/-- The columns of a user that the second factor reads besides. -/
structure TwoFactorUser extends User where
  totpSecret : Option String := none
  recoveryCodes : Option String := none

structure TwoFactorDb where
  users : List TwoFactorUser
  tokens : List RefreshToken
  /-- The recovery codes accepted so far, by user and hash. This is no table. -/
  accepted : List (Uuid × String) := []

structure TwoFactorConfig extends Config where
  /-- `pyotp.TOTP(secret).verify(code, valid_window=1)` at a given time -/
  verifyTotpCode : String → String → Instant → Bool

/-- `TwoFactorLoginRequest`. The token is given by its payload, if its signature is
valid. -/
structure TwoFactorLoginRequest where
  tempToken : Option Jwt
  code : String
  code_length : 6 ≤ code.length ∧ code.length ≤ 8

def verify2faPendingToken (token : Option Jwt) (now : Instant) : Option Uuid :=
  match token with
  | none => none
  | some payload =>
    if payload.exp ≤ now ∨ payload.type ≠ "2fa_pending" then none else some payload.sub

def hashValue (hash : String) : Value :=
  .str (codePoints hash.toList)

def hashRecoveryCodes (cfg : Config) (codes : List String) : String :=
  dumps (.arr (codes.map fun code => hashValue (cfg.sha256 code)))

/-- `hmac.compare_digest(hash, item)`, which raises unless the item is an ASCII string. -/
def compareDigest (hash : String) (item : Value) : Option Bool :=
  match item with
  | .str s => if s.all (fun n => n < 128) then some (s = codePoints hash.toList) else none
  | _ => none

/-- The items without the first that equals the hash, if there is one. -/
def popHash (hash : String) : List Value → Option (Option (List Value))
  | [] => some none
  | item :: items =>
    (compareDigest hash item).bind fun equal =>
      if equal then some (some items)
      else (popHash hash items).map fun rest => rest.map fun items' => item :: items'

/-- `verify_recovery_code`, nothing when it raises. Only arrays are ever stored. -/
def verifyRecoveryCode (cfg : Config) (storedHashesJson code : String) : Option (Bool × String) :=
  let codeHash := cfg.sha256 (Text.upper code)
  match loads storedHashesJson with
  | some (.arr hashes) =>
    (popHash codeHash hashes).map fun popped =>
      match popped with
      | some rest => (true, dumps (.arr rest))
      | none => (false, storedHashesJson)
  | _ => none

/-- The assignment `user.recovery_codes = updated_hashes`. -/
structure CodeUse where
  user : TwoFactorUser
  updated : String
  codeHash : String

inductive TwoFactorSession where
  | idle
  /-- A recovery code matched what was read; nothing is flushed. -/
  | updating (use : CodeUse)
  | issuing (user : User) (use : Option CodeUse)
  /-- Only COMMIT is left. -/
  | ready (use : Option CodeUse) (new : RefreshToken) (response : LoginResponse)
  | returned (response : LoginResponse)
  | raised (error : HttpError)

inductive TwoFactorStatement where
  | select (data : TwoFactorLoginRequest) (now : Instant)
  | flush
  | insert (draw : TokenDraw) (now : Instant)

inductive LoginRow where
  | user (id : Uuid)
  | token (key : TokenKey)
  deriving DecidableEq

def getTwoFactorUser (db : TwoFactorDb) (userId : Uuid) : Option TwoFactorUser :=
  Table.find (fun u => u.id) userId db.users

def invalidCode : HttpError := ⟨401, "Invalid verification code"⟩

/-- The second half of the route, for a user whose second factor is enabled. -/
def checkCode (cfg : TwoFactorConfig) (user : TwoFactorUser) (secret code : String)
    (now : Instant) : TwoFactorSession :=
  if cfg.verifyTotpCode secret code now then .issuing user.toUser none
  else
    match user.recoveryCodes with
    | none => .raised invalidCode
    | some stored =>
      if stored = "" then .raised invalidCode
      else
        match verifyRecoveryCode cfg.toConfig stored code with
        | none => .raised .internal
        | some (false, _) => .raised invalidCode
        | some (true, updated) => .updating ⟨user, updated, cfg.sha256 (Text.upper code)⟩

def selectUser (cfg : TwoFactorConfig) (db : TwoFactorDb) (data : TwoFactorLoginRequest)
    (now : Instant) : TwoFactorSession :=
  match verify2faPendingToken data.tempToken now with
  | none => .raised ⟨401, "Invalid or expired 2FA token"⟩
  | some userId =>
    match getTwoFactorUser db userId with
    | none => .raised ⟨401, "User not found or inactive"⟩
    | some user =>
      if !user.isActive then .raised ⟨401, "User not found or inactive"⟩
      else
        match user.totpSecret with
        | none => .raised ⟨400, "2FA is not enabled for this user"⟩
        | some secret =>
          if !user.totpEnabled ∨ secret = "" then .raised ⟨400, "2FA is not enabled for this user"⟩
          else checkCode cfg user secret (Text.strip data.code) now

def twoFactorStmt (cfg : TwoFactorConfig) (db : TwoFactorDb) :
    TwoFactorSession → TwoFactorStatement → Option TwoFactorSession
  | .idle, .select data now => some (selectUser cfg db data now)
  | .updating use, .flush => some (.issuing use.user.toUser (some use))
  | .issuing user use, .insert draw now =>
    if db.tokens.all (fun t => t.id ≠ draw.id ∧ t.tokenHash ≠ cfg.sha256 draw.value) then
      some (.ready use (refreshToken cfg.toConfig user.id draw now)
        { accessToken := some (createAccessToken cfg.toConfig user now)
          refreshToken := some draw.value })
    else some (.raised .internal)
  | _, _ => none

def twoFactorLocks (cfg : TwoFactorConfig) :
    TwoFactorSession → TwoFactorStatement → List LoginRow
  | .updating use, .flush => [.user use.user.id]
  | .issuing _ _, .insert draw _ =>
    [.token (.row draw.id), .token (.hash (cfg.sha256 draw.value))]
  | _, _ => []

/-- The UPDATE of the user row. -/
def spendCode (db : TwoFactorDb) (use : CodeUse) : TwoFactorDb :=
  { db with
    users := Table.alter (fun u => u.id) use.user.id
      (fun current => { current with
        recoveryCodes := Table.assigned use.user.recoveryCodes (some use.updated)
          current.recoveryCodes }) db.users
    accepted := db.accepted++[(use.user.id, use.codeHash)] }

def finishLogin (db : TwoFactorDb) (use : Option CodeUse) (new : RefreshToken) : TwoFactorDb :=
  let db' := match use with
    | none => db
    | some use => spendCode db use
  { db' with tokens := db'.tokens++[new] }

def twoFactorProgram (cfg : TwoFactorConfig) :
    Program TwoFactorDb TwoFactorSession TwoFactorStatement LoginRow where
  locks := fun _ m a => twoFactorLocks cfg m a
  stmt := twoFactorStmt cfg
  publish := fun db m =>
    match m with
    | .ready use new response => some (finishLogin db use new, .returned response)
    | _ => none
  abort := fun m =>
    match m with
    | .idle => .idle
    | .returned response => .returned response
    | .raised error => .raised error
    | _ => .raised .internal

end LegalForge.Auth
