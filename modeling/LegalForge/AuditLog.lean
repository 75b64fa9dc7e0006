import LegalForge.BaseModels
import LegalForge.HashChain

/-! The audit log: `create_audit_log` and `verify_audit_chain`. The digest
function is a parameter. -/
namespace LegalForge.Audit

structure AuditLog where
  id : Uuid
  userId : Option Uuid
  userEmail : Option String
  entityType : String
  entityId : String
  action : String
  changesJson : Option String
  ipAddress : Option String
  userAgent : Option String
  outcome : String
  severity : String
  integrityHash : String
  previousHash : Option String
  timestamp : Datetime
  deriving DecidableEq

def actionSeverity : List (String × String) :=
  [("login", "info"), ("login_failed", "medium"), ("login_2fa_pending", "info"),
   ("login_2fa_verified", "info"), ("login_2fa_recovery_code", "medium"),
   ("2fa_setup_initiated", "medium"), ("2fa_enabled", "high"), ("2fa_disabled", "high"),
   ("logout", "info"), ("create", "info"), ("update", "low"), ("delete", "medium"),
   ("password_change", "medium"), ("role_change", "high"), ("trust_disbursement", "high"),
   ("settings_change", "high"), ("backup", "info"), ("restore", "critical"),
   ("export", "medium"), ("sso_login", "info"), ("saml_login", "info"),
   ("saml_login_failed", "medium"), ("webauthn_registered", "high"),
   ("webauthn_removed", "high"), ("webauthn_login", "info"),
   ("webauthn_login_failed", "medium"), ("soar_disable_user", "critical"),
   ("soar_revoke_sessions", "high"), ("soar_lock_matter", "critical"),
   ("soar_force_logout_all", "critical")]

/-- `str(id)`. -/
def strId (id : Uuid) : String :=
  String.ofList (uuidText id)

def isoformat (d : Datetime) : String :=
  String.ofList d.isoText

/-- `text or ''`. -/
def orEmpty (text : Option String) : String :=
  text.getD ""

/-- The text that is hashed. -/
def payload (eventId timestamp : String) (userId : Option String)
    (action entityType entityId : String) (changesJson previousHash : Option String) : String :=
  eventId++("|"++(timestamp++("|"++(orEmpty userId++("|"++(action++("|"++(entityType++("|"++
    (entityId++("|"++(orEmpty changesJson++("|"++orEmpty previousHash)))))))))))))

def computeIntegrityHash (sha256 : String → String) (eventId timestamp : String)
    (userId : Option String) (action entityType entityId : String)
    (changesJson previousHash : Option String) : String :=
  sha256 (payload eventId timestamp userId action entityType entityId changesJson previousHash)

/-- The arguments of one `create_audit_log` call, with their defaults. -/
structure AuditCall where
  userId : Option Uuid
  entityType : String
  entityId : String
  action : String
  changesJson : Option String := none
  ipAddress : Option String := none
  userAgent : Option String := none
  userEmail : Option String := none
  outcome : String := "success"

/-- The row `create_audit_log` adds once it has read `previousHash`. -/
def auditEntry (sha256 : String → String) (call : AuditCall) (previousHash : Option String)
    (entryId : Uuid) (now : Datetime) : AuditLog where
  id := entryId
  userId := call.userId
  userEmail := call.userEmail
  entityType := call.entityType
  entityId := call.entityId
  action := call.action
  changesJson := call.changesJson
  ipAddress := call.ipAddress
  userAgent := call.userAgent
  outcome := call.outcome
  severity := (actionSeverity.lookup call.action).getD "info"
  integrityHash := computeIntegrityHash sha256 (strId entryId) (isoformat now)
    (call.userId.map strId) call.action call.entityType call.entityId call.changesJson previousHash
  previousHash := previousHash
  timestamp := now

/-- What `ORDER BY timestamp DESC LIMIT 1` may answer. Rows with one timestamp
come in any order. -/
def latestHashes (rows : List AuditLog) : List (Option String) :=
  if rows.isEmpty then [none]
  else (rows.filter (fun e => rows.all (fun f => f.timestamp ≤ e.timestamp))).map
    (fun e => some e.integrityHash)

inductive ChainStatus where
  | empty
  | valid
  | invalid
  deriving DecidableEq

structure ChainError where
  entryId : String
  position : ℕ
  error : String
  expected : Option String
  actual : Option String
  deriving DecidableEq

structure ChainReport where
  status : ChainStatus
  verified : ℕ
  errors : List ChainError
  deriving DecidableEq

/-- The hash of a stored row as the verifier computes it. -/
def recompute (sha256 : String → String) (log : AuditLog) : String :=
  computeIntegrityHash sha256 (strId log.id) (isoformat log.timestamp) (log.userId.map strId)
    log.action log.entityType log.entityId log.changesJson log.previousHash

/-- The loop over the fetched rows, from position `i` on. -/
def chainErrors (sha256 : String → String) : ℕ → Option String → List AuditLog → List ChainError
  | _, _, [] => []
  -- both checks run on every row, and the next row is compared with the stored hash
  | i, expectedPrevious, log :: logs =>
    (if log.previousHash ≠ expectedPrevious then
      [⟨strId log.id, i, "previous_hash mismatch", expectedPrevious, log.previousHash⟩] else [])++
    (if recompute sha256 log ≠ log.integrityHash then
      [⟨strId log.id, i, "integrity_hash mismatch (possible tampering)",
        some (recompute sha256 log), some log.integrityHash⟩] else [])++
    chainErrors sha256 (i+1) (some log.integrityHash) logs

def verifyAuditChain (sha256 : String → String) (logs : List AuditLog) : ChainReport :=
  if logs.isEmpty then ⟨.empty, 0, []⟩
  else
    let errors := chainErrors sha256 0 none logs
    ⟨if errors.isEmpty then .valid else .invalid, logs.length, errors⟩

/-- `logs` is an answer to `ORDER BY timestamp ASC LIMIT limit`. -/
def Fetched (limit : ℕ) (table logs : List AuditLog) : Prop :=
  ∃ sorted : List AuditLog, sorted.Perm table ∧ sorted.Pairwise (fun e f => e.timestamp ≤ f.timestamp) ∧
    logs = sorted.take limit

/-- A table that `create_audit_log` calls build one after the other. The clock may
stand still or go back. -/
inductive AuditRun (sha256 : String → String) : List AuditLog → Prop
  | nil : AuditRun sha256 []
  | create {table : List AuditLog} {previousHash : Option String} {entryId : Uuid}
      (call : AuditCall) (now : Datetime) (h : AuditRun sha256 table)
      (hread : previousHash ∈ latestHashes table) (hfresh : ∀ e ∈ table, e.id ≠ entryId) :
      AuditRun sha256 (table++[auditEntry sha256 call previousHash entryId now])

end LegalForge.Audit
