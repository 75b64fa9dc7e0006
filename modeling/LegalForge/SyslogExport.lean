import LegalForge.CefExport
import LegalForge.SyslogFormat

/-! The syslog export starts its lines with the structured data, where the format has
the timestamp. -/
namespace LegalForge.Audit
open Syslog

/-- What the structured data of an event's line is to say. -/
def syslogElement (event : AuditEventJSON) : Element where
  id := "lexnebulis@0".toList
  params :=
    [("eventId", event.eventId), ("action", event.action), ("entityType", event.entityType),
     ("entityId", event.entityId), ("userId", orDefault event.userId "system"),
     ("integrityHash", event.integrityHash)].map (fun p => (p.1.toList, p.2.toList))

/-- The line of an event is a message that has the event's timestamp, message id and
parameters. -/
def SyslogConforms (event : AuditEventJSON) : Prop :=
  ∃ m, parse (auditToSyslog event).toSyslogString.toList = some m ∧
    m.timestamp = event.timestamp.toList ∧ m.msgId = (auditToSyslog event).msgId.toList ∧
    m.structuredData = [syslogElement event]

theorem toList_toSyslogString (syslog : AuditEventSyslog) :
    ∃ rest, syslog.toSyslogString.toList =
      '<' :: ((toString (syslog.facility*8+syslog.severity)).toList++
        '>' :: '1' :: ' ' :: (syslog.structuredData.toList++rest)) := by
  delta AuditEventSyslog.toSyslogString
  simp only [String.toList_append, List.append_assoc]
  exact ⟨_, rfl⟩

/-- The priorities that an event can have: its facility is always 10. -/
theorem priority_mem (event : AuditEventJSON) :
    (auditToSyslog event).facility*8+(auditToSyslog event).severity ∈ [82, 83, 84, 85, 86] := by
  have hmem := lookup_getD_mem event.severity 6 syslogSeverity
  change (auditToSyslog event).severity ∈ [6, 6, 5, 4, 3, 2] at hmem
  have hall : ∀ n ∈ [6, 6, 5, 4, 3, 2], 10*8+n ∈ [82, 83, 84, 85, 86] := by decide
  exact hall _ hmem

theorem readPri_priority (rest : List Char) :
    ∀ pri ∈ [82, 83, 84, 85, 86],
      readPri ('<' :: ((toString pri).toList++ '>' :: rest)) = some (pri, rest) := by
  simp only [List.forall_mem_cons, List.not_mem_nil, false_implies, implies_true, and_true]
  exact ⟨rfl, rfl, rfl, rfl, rfl⟩

/-- After the version comes the opening bracket of the structured data. -/
theorem toList_structuredData (event : AuditEventJSON) :
    ∃ rest, (auditToSyslog event).structuredData.toList = '[' :: rest := by
  simp only [auditToSyslog, String.toList_append, List.append_assoc]
  exact ⟨_, rfl⟩

/-- No line of the export is a message of the format. -/
theorem parse_auditToSyslog (event : AuditEventJSON) :
    parse (auditToSyslog event).toSyslogString.toList = none := by
  obtain ⟨rest, hline⟩ := toList_toSyslogString (auditToSyslog event)
  obtain ⟨params, hdata⟩ := toList_structuredData event
  by_contra hparse
  obtain ⟨m, hm⟩ := Option.ne_none_iff_exists'.mp hparse
  rw [hline, hdata] at hm
  have hpri := readPri_priority ('1' :: ' ' :: ('[' :: params++rest)) _ (priority_mem event)
  have htimestamp := timestamp_of_parse hpri rfl hm
  -- The bracket belongs to no timestamp.
  rw [List.cons_append, List.takeWhile_cons_of_pos (by decide)] at htimestamp
  rcases head_of_isTimestamp htimestamp with hhyphen | hdigit
  · exact absurd hhyphen (by decide)
  · exact absurd hdigit (by decide)

theorem not_syslogConforms (event : AuditEventJSON) : ¬SyslogConforms event := by
  rintro ⟨m, hm, -⟩
  rw [parse_auditToSyslog] at hm
  cases hm

theorem not_syslogConforms_cleanEvent : ¬SyslogConforms cleanEvent := by
  rintro ⟨m, hm, -⟩
  have hnone : parse (auditToSyslog cleanEvent).toSyslogString.toList = none := by decide +kernel
  rw [hnone] at hm
  cases hm

end LegalForge.Audit
