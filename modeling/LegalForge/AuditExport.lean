import LegalForge.AuditLog
import LegalForge.JsonText
import LegalForge.PythonText

/-! The formats in which the audit log is exported. -/
namespace LegalForge.Audit
open JsonText

structure AuditEventJSON where
  timestamp : String
  eventId : String
  eventType : String
  action : String
  entityType : String
  entityId : String
  userId : Option String
  userEmail : Option String
  ipAddress : Option String
  userAgent : Option String
  changes : Option (List (Str × Value))
  integrityHash : String
  previousHash : Option String
  severity : String
  outcome : String
  source : String := "lexnebulis"

structure AuditEventCEF where
  version : String := "CEF:0"
  deviceVendor : String := "LexNebulis"
  deviceProduct : String := "LexNebulis"
  deviceVersion : String := "1.0.0"
  signatureId : String
  name : String
  severity : ℕ
  extensions : List (String × String)

structure AuditEventSyslog where
  facility : ℕ := 10
  severity : ℕ := 6
  hostname : String := "lexnebulis"
  appName : String := "lexnebulis"
  procId : String := "-"
  msgId : String
  structuredData : String
  message : String

def AuditEventCEF.toCefString (cef : AuditEventCEF) : String :=
  let extStr := " ".intercalate (cef.extensions.map (fun p => p.1++"="++p.2))
  cef.version++"|"++cef.deviceVendor++"|"++cef.deviceProduct++"|"++cef.deviceVersion++
    "|"++cef.signatureId++"|"++cef.name++"|"++toString cef.severity++"|"++extStr

def AuditEventSyslog.toSyslogString (syslog : AuditEventSyslog) : String :=
  let pri := syslog.facility*8+syslog.severity
  "<"++toString pri++">1 "++syslog.structuredData++" "++syslog.hostname++" "++syslog.appName++
    " "++syslog.procId++" "++syslog.msgId++" "++syslog.message

def cefSeverity : List (String × ℕ) :=
  [("info", 1), ("low", 3), ("medium", 5), ("high", 7), ("critical", 9)]

def syslogSeverity : List (String × ℕ) :=
  [("info", 6), ("low", 5), ("medium", 4), ("high", 3), ("critical", 2)]

/-- `text or default` -/
def orDefault (text : Option String) (default : String) : String :=
  match text with
  | none => default
  | some s => if s = "" then default else s

def auditToCef (event : AuditEventJSON) : AuditEventCEF where
  signatureId := "LF-"++Text.upper event.action++"-"++Text.upper event.entityType
  name := event.action++" "++event.entityType
  severity := (cefSeverity.lookup event.severity).getD 1
  extensions :=
    [("src", orDefault event.ipAddress "unknown"),
     ("suser", orDefault event.userEmail "system"),
     ("suid", orDefault event.userId "system"),
     ("act", event.action),
     ("cs1", event.entityType),
     ("cs1Label", "entityType"),
     ("cs2", event.entityId),
     ("cs2Label", "entityId"),
     ("cs3", event.integrityHash),
     ("cs3Label", "integrityHash"),
     ("rt", event.timestamp),
     ("outcome", event.outcome)]

def auditToSyslog (event : AuditEventJSON) : AuditEventSyslog where
  severity := (syslogSeverity.lookup event.severity).getD 6
  msgId := "LF-"++Text.upper event.action
  structuredData :=
    "[lexnebulis@0 eventId=\""++event.eventId++"\" action=\""++event.action++
      "\" entityType=\""++event.entityType++"\" entityId=\""++event.entityId++
      "\" userId=\""++orDefault event.userId "system"++
      "\" integrityHash=\""++event.integrityHash++"\"]"
  message := "User "++orDefault event.userEmail "system"++" performed "++event.action++
    " on "++event.entityType++" "++event.entityId

/-- `json.loads(changes_json) if changes_json else None` as an optional dictionary.
Texts that are no JSON raise, and so do values of other types. -/
def readChanges : Option String → Option (Option (List (Str × Value)))
  | none => some none
  | some text =>
    if text = "" then some none
    else
      match loads text with
      | some (.obj fields) => some (some fields)
      | some .null => some none
      | _ => none

/-- The event of a row, which every export builds first. -/
def auditEvent (log : AuditLog) : Option AuditEventJSON :=
  (readChanges log.changesJson).map fun changes =>
    { timestamp := isoformat log.timestamp
      eventId := strId log.id
      eventType := log.entityType++"."++log.action
      action := log.action
      entityType := log.entityType
      entityId := log.entityId
      userId := log.userId.map strId
      userEmail := log.userEmail
      ipAddress := log.ipAddress
      userAgent := log.userAgent
      changes := changes
      integrityHash := log.integrityHash
      previousHash := log.previousHash
      severity := log.severity
      outcome := log.outcome }

/-- `GET /audit-logs/export/cef`, over the rows the query has found. -/
def exportAuditCef (logs : List AuditLog) : Option String :=
  (logs.mapM auditEvent).map fun events =>
    "\n".intercalate (events.map (fun event => (auditToCef event).toCefString))

/-- `GET /audit-logs/export/syslog` -/
def exportAuditSyslog (logs : List AuditLog) : Option String :=
  (logs.mapM auditEvent).map fun events =>
    "\n".intercalate (events.map (fun event => (auditToSyslog event).toSyslogString))

def digitsValue (digits : List Char) : ℕ :=
  digits.foldl (fun n c => 10*n+(c.toNat- '0'.toNat)) 0

/-- The decimal exponent of a numeral, from what follows its `e`. -/
def exponentValue : List Char → ℤ
  | '-' :: digits => -digitsValue digits
  | '+' :: digits => digitsValue digits
  | digits => digitsValue digits

/-- Whether a numeral is read as a float that is infinite. Integers are exact. -/
def overflows (text : List Char) : Bool :=
  let mantissa := text.takeWhile (fun c => c ≠ 'e' ∧ c ≠ 'E')
  let fraction := (mantissa.dropWhile (fun c => c ≠ '.')).drop 1
  let exponent := exponentValue ((text.drop mantissa.length).drop 1)-fraction.length
  let digits := digitsValue (mantissa.filter Char.isDigit)
  if text.any (fun c => c = '.' ∨ c = 'e' ∨ c = 'E') then
    (2^1024-2^970)*10^(-exponent).toNat ≤ digits*10^exponent.toNat
  else false

mutual

/-- The response of an export can be encoded: no `NaN`, no infinity, no surrogate. -/
def encodable : Value → Bool
  | .null => true
  | .bool _ => true
  | .num text => !overflows text && text ∉ [['N', 'a', 'N'],
      ['I', 'n', 'f', 'i', 'n', 'i', 't', 'y'], ['-', 'I', 'n', 'f', 'i', 'n', 'i', 't', 'y']]
  | .str s => s.all (fun n => n < 0xd800 ∨ 0xdfff < n)
  | .arr items => encodableItems items
  | .obj fields => encodableFields fields

def encodableItems : List Value → Bool
  | [] => true
  | v :: items => encodable v && encodableItems items

def encodableFields : List (Str × Value) → Bool
  | [] => true
  | (key, v) :: fields =>
    key.all (fun n => n < 0xd800 ∨ 0xdfff < n) && encodable v && encodableFields fields

end

/-- `GET /audit-logs/export/json` -/
def exportAuditJson (logs : List AuditLog) : Option (List AuditEventJSON) :=
  (logs.mapM auditEvent).filter fun events =>
    events.all (fun event => encodableFields (event.changes.getD []))

end LegalForge.Audit
