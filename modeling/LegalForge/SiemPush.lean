import LegalForge.AuditExport
import LegalForge.AuditWriters
import LegalForge.KeyedTable

/-! Audit entries on their way to the SIEM. The job of an entry is queued when the row is flushed,
and a worker may run it before the transaction has ended. -/
namespace LegalForge.Audit
open Transition ReadCommitted JsonText

inductive SyslogProtocol where
  | udp
  | tcp
  | tls
  deriving DecidableEq

def SyslogProtocol.value : SyslogProtocol → String
  | .udp => "udp"
  | .tcp => "tcp"
  | .tls => "tls"

inductive SiemFormat where
  | json
  | cef
  | syslog
  deriving DecidableEq

structure SiemConfig where
  webhookUrl : Option String := none
  webhookSecretEncrypted : Option String := none
  syslogHost : Option String := none
  syslogPort : Option ℤ := some 514
  syslogProtocol : SyslogProtocol := .udp
  syslogTlsCaCert : Option String := none
  realtimeFormat : SiemFormat := .json

/-- A column of text that counts as set. -/
def nonempty (text : Option String) : Option String :=
  text.filter (fun s => s ≠ "")

def textValue (text : String) : Value :=
  .str (codePoints text.toList)

def nullableValue (text : Option String) : Value :=
  text.elim .null textValue

/-- `event.model_dump()` -/
def eventValue (event : AuditEventJSON) : Value :=
  let key (name : String) : Str := codePoints name.toList
  .obj
    [(key "timestamp", textValue event.timestamp),
     (key "event_id", textValue event.eventId),
     (key "event_type", textValue event.eventType),
     (key "action", textValue event.action),
     (key "entity_type", textValue event.entityType),
     (key "entity_id", textValue event.entityId),
     (key "user_id", nullableValue event.userId),
     (key "user_email", nullableValue event.userEmail),
     (key "ip_address", nullableValue event.ipAddress),
     (key "user_agent", nullableValue event.userAgent),
     (key "changes", event.changes.elim .null .obj),
     (key "integrity_hash", textValue event.integrityHash),
     (key "previous_hash", nullableValue event.previousHash),
     (key "severity", textValue event.severity),
     (key "outcome", textValue event.outcome),
     (key "source", textValue event.source)]

def formattedMessage (format : SiemFormat) (event : AuditEventJSON) : String :=
  match format with
  | .cef => (auditToCef event).toCefString
  | .syslog => (auditToSyslog event).toSyslogString
  | .json => dumps (eventValue event)

/-- The arguments of the jobs that send an entry out. -/
inductive Sending where
  | webhook (url : String) (payload : Value) (secret : String)
  | syslog (host : String) (port : ℤ) (protocol message : String) (tlsCaCert : Option String)

/-- What one attempt of a job meets: the database, and the queue for each further job. -/
structure Attempt where
  databaseUp : Bool := true
  webhookQueued : Bool := true
  syslogQueued : Bool := true
  retryQueued : Bool := true

/-- The entry handed to the senders, and whether the attempt ended with an exception. -/
structure Outcome where
  sent : List (AuditLog × Sending)
  raised : Bool

/-- `secret`, nothing when it cannot be decrypted. -/
def webhookSecret (decryptField : String → Option String) (config : SiemConfig) : Option String :=
  match nonempty config.webhookSecretEncrypted with
  | none => some ""
  | some text => decryptField text

/-- The webhook, if one is configured. Nothing stands for an exception. -/
def pushWebhook (decryptField : String → Option String) (config : SiemConfig) (attempt : Attempt)
    (event : AuditEventJSON) : Option (List Sending) :=
  match nonempty config.webhookUrl with
  | none => some []
  | some url =>
    match webhookSecret decryptField config with
    | none => none
    | some secret =>
      if attempt.webhookQueued then some [.webhook url (eventValue event) secret] else none

def pushSyslog (config : SiemConfig) (attempt : Attempt) (event : AuditEventJSON) :
    Option (List Sending) :=
  match nonempty config.syslogHost with
  | none => some []
  | some host =>
    if attempt.syslogQueued then
      some [.syslog host (if config.syslogPort.getD 0 = 0 then 514 else config.syslogPort.getD 0)
        config.syslogProtocol.value (formattedMessage config.realtimeFormat event)
        config.syslogTlsCaCert]
    else none

/-- The webhook comes first, and an exception there leaves the syslog out. -/
def sendEvent (decryptField : String → Option String) (config : SiemConfig) (attempt : Attempt)
    (log : AuditLog) (event : AuditEventJSON) : Outcome :=
  match pushWebhook decryptField config attempt event with
  | none => ⟨[], true⟩
  | some sent =>
    match pushSyslog config attempt event with
    | none => ⟨sent.map (Prod.mk log), true⟩
    | some sent' => ⟨(sent++sent').map (Prod.mk log), false⟩

/-- `push_siem_event`, against the committed rows. -/
def pushSiemEvent (decryptField : String → Option String) (config : Option SiemConfig)
    (rows : List AuditLog) (attempt : Attempt) (auditLogId : Uuid) : Outcome :=
  if !attempt.databaseUp then ⟨[], true⟩
  else
    match Table.find AuditLog.id auditLogId rows with
    | none => ⟨[], false⟩
    | some log =>
      match config with
      | none => ⟨[], false⟩
      | some config =>
        match auditEvent log with
        | none => ⟨[], true⟩
        | some event => sendEvent decryptField config attempt log event

/-- A job in the queue, with the retries it has behind it. -/
structure SiemJob where
  auditLogId : Uuid
  retries : ℕ := 0

structure SiemState (Tx : Type*) where
  writers : WriterState Tx
  jobs : List SiemJob
  /-- What has been handed to the senders. -/
  handed : List (AuditLog × Sending)

/-- `queued` tells whether `delay` succeeds; its exceptions are swallowed. -/
inductive SiemLabel (Tx : Type*) where
  | request (l : WriterLabel Tx) (queued : Bool)
  | work (i : ℕ) (attempt : Attempt)

/-- `enqueue_siem_push`, after the flush of an entry. -/
def enqueueSiemPush {Tx : Type*} (queued : Bool) : WriterLabel Tx → List SiemJob
  | .stmt _ (.insert entryId _) => if queued then [⟨entryId, 0⟩] else []
  | _ => []

/-- `self.retry(...)`, at most three times. -/
def retry (attempt : Attempt) (job : SiemJob) : List SiemJob :=
  if job.retries < 3 ∧ attempt.retryQueued then [⟨job.auditLogId, job.retries+1⟩] else []

def siemStep {Tx : Type*} [DecidableEq Tx] (sha256 : String → String)
    (decryptField : String → Option String) (config : Option SiemConfig) (s : SiemState Tx) :
    SiemLabel Tx → Option (SiemState Tx)
  | .request l queued =>
    (step (auditProgram sha256) s.writers l).map fun writers =>
      ⟨writers, s.jobs++enqueueSiemPush queued l, s.handed⟩
  | .work i attempt =>
    s.jobs[i]?.map fun job =>
      let outcome := pushSiemEvent decryptField config s.writers.committed attempt job.auditLogId
      ⟨s.writers, s.jobs.eraseIdx i++(if outcome.raised then retry attempt job else []),
        s.handed++outcome.sent⟩

end LegalForge.Audit
