import LegalForge.AuditExport
import LegalForge.CefFormat

/-! The CEF export puts the texts of an event into its line as they are. -/
namespace LegalForge.Audit
open Cef

/-- What the formatter was given, as a record of the format. -/
def cefRecord (cef : AuditEventCEF) : Record where
  version := cef.version.toList
  deviceVendor := cef.deviceVendor.toList
  deviceProduct := cef.deviceProduct.toList
  deviceVersion := cef.deviceVersion.toList
  signatureId := cef.signatureId.toList
  name := cef.name.toList
  severity := (toString cef.severity).toList
  extension := cef.extensions.map (fun p => (p.1.toList, p.2.toList))

def OneLine (text : String) : Prop :=
  '\n' ∉ text.toList ∧ '\r' ∉ text.toList

/-- The line of an event is one line, and says what the event says. -/
def CefDecodes (event : AuditEventJSON) : Prop :=
  OneLine (auditToCef event).toCefString ∧
    parse (auditToCef event).toCefString.toList = some (cefRecord (auditToCef event))

/-- None of the characters `bad` is in the text. -/
def Free (bad : List Char) (text : String) : Prop :=
  ∀ c ∈ bad, c ∉ text.toList

/-- No text of the event has a character that its place in the line would need
escaped. `action` and `entity_type` are also in the header. -/
structure CefSafe (event : AuditEventJSON) : Prop where
  action : Free ['|', '=', '\\', '\n', '\r'] event.action
  entityType : Free ['|', '=', '\\', '\n', '\r'] event.entityType
  entityId : Free ['=', '\\', '\n', '\r'] event.entityId
  ipAddress : Free ['=', '\\', '\n', '\r'] (event.ipAddress.getD "")
  userEmail : Free ['=', '\\', '\n', '\r'] (event.userEmail.getD "")
  userId : Free ['=', '\\', '\n', '\r'] (event.userId.getD "")
  integrityHash : Free ['=', '\\', '\n', '\r'] event.integrityHash
  timestamp : Free ['=', '\\', '\n', '\r'] event.timestamp
  outcome : Free ['=', '\\', '\n', '\r'] event.outcome

theorem printExtension_eq_intercalate (pairs : List (List Char × List Char)) :
    printExtension pairs = [' '].intercalate (pairs.map (fun p => p.1++ '=' :: p.2)) := by
  induction pairs with
  | nil => rfl
  | cons p pairs ih =>
    cases pairs with
    | nil => rw [List.map_singleton, List.intercalate_singleton]; rfl
    | cons q pairs =>
      rw [printExtension_cons_cons, ih]
      simp only [List.map_cons, List.intercalate_cons_cons, List.append_assoc,
        List.cons_append, List.nil_append]

theorem toList_toCefString (cef : AuditEventCEF) :
    cef.toCefString.toList = print (cefRecord cef) := by
  have hextension : (" ".intercalate (cef.extensions.map (fun p => p.1++"="++p.2))).toList =
      printExtension (cefRecord cef).extension := by
    rw [String.toList_intercalate, printExtension_eq_intercalate, cefRecord, List.map_map,
      List.map_map]
    congr 1
    refine List.map_congr_left fun p _ => ?_
    simp [String.toList_append]
  simp [AuditEventCEF.toCefString, String.toList_append, hextension, print, cefRecord]

/-- A character that the format itself does not write. -/
theorem mem_printExtension_iff {c : Char} (hequals : c ≠ '=') (hspace : c ≠ ' ')
    {pairs : List (List Char × List Char)} :
    c ∈ printExtension pairs ↔ ∃ p ∈ pairs, c ∈ p.1 ∨ c ∈ p.2 := by
  induction pairs with
  | nil => simp [printExtension]
  | cons p pairs ih =>
    cases pairs with
    | nil => simp [printExtension, hequals]
    | cons q pairs =>
      rw [printExtension_cons_cons]
      simp only [List.mem_append, List.mem_cons, hequals, hspace, false_or, ih, exists_eq_or_imp,
        or_assoc]

theorem mem_print_iff {c : Char} (hbar : c ≠ '|') (hequals : c ≠ '=') (hspace : c ≠ ' ')
    {r : Record} :
    c ∈ print r ↔ c ∈ r.version ∨ c ∈ r.deviceVendor ∨ c ∈ r.deviceProduct ∨
      c ∈ r.deviceVersion ∨ c ∈ r.signatureId ∨ c ∈ r.name ∨ c ∈ r.severity ∨
      ∃ p ∈ r.extension, c ∈ p.1 ∨ c ∈ p.2 := by
  simp [print, hbar, mem_printExtension_iff hequals hspace]

theorem lookup_getD_mem {κ β : Type} [BEq κ] (k : κ) (default : β) (entries : List (κ × β)) :
    (entries.lookup k).getD default ∈ default :: entries.map Prod.snd := by
  induction entries with
  | nil => simp
  | cons entry entries ih =>
    rw [List.lookup]
    split
    · simp
    · rcases List.mem_cons.mp ih with hdefault | hmem
      · exact List.mem_cons.mpr (.inl hdefault)
      · exact List.mem_cons_of_mem _ (List.mem_cons_of_mem _ hmem)

/-- A severity is one digit. -/
theorem severity_text {event : AuditEventJSON} {c : Char}
    (h : c ∈ (toString (auditToCef event).severity).toList) : c.isDigit = true := by
  have hmem := lookup_getD_mem event.severity 1 cefSeverity
  change (auditToCef event).severity ∈ [1, 1, 3, 5, 7, 9] at hmem
  have hdigits : ∀ n ∈ [1, 1, 3, 5, 7, 9], (toString n).toList.all Char.isDigit = true := by decide
  exact List.all_eq_true.mp (hdigits _ hmem) c h

theorem mem_orDefault {c : Char} {text : Option String} {default : String}
    (h : c ∉ default.toList) :
    c ∈ (orDefault text default).toList → c ∈ (text.getD "").toList := by
  cases text with
  | none => exact fun hmem => absurd hmem h
  | some s =>
    simp only [orDefault, Option.getD_some]
    split_ifs
    · exact fun hmem => absurd hmem h
    · exact id

theorem mem_orDefault_of_mem {c : Char} {text : Option String} {default : String}
    (h : c ∈ (text.getD "").toList) : c ∈ (orDefault text default).toList := by
  cases text with
  | none => cases h
  | some s =>
    rw [Option.getD_some] at h
    have hs : s ≠ "" := by
      rintro rfl
      cases h
    rw [orDefault, if_neg hs]
    exact h

/-- The characters that no part of the format's own text has. -/
def reserved : List Char :=
  ['|', '=', '\\', '\n', '\r']

theorem free_signatureId_iff {event : AuditEventJSON} {c : Char} (hc : c ∈ reserved) :
    c ∉ (auditToCef event).signatureId.toList ↔
      c ∉ event.action.toList ∧ c ∉ event.entityType.toList := by
  have hcaseless : Text.caseless c = true := by
    have hall : ∀ c ∈ reserved, Text.caseless c = true :=
      List.forall_iff_forall_mem.mp (by decide +kernel)
    exact hall c hc
  have hprefix : c ∉ "LF-".toList ∧ c ∉ "-".toList := by
    have hall : ∀ c ∈ reserved, c ∉ "LF-".toList ∧ c ∉ "-".toList :=
      List.forall_iff_forall_mem.mp (by decide)
    exact hall c hc
  simp only [auditToCef, String.toList_append, List.mem_append, hprefix.1, hprefix.2, false_or,
    or_false, Text.mem_upper_iff hcaseless, not_or]

theorem free_name_iff {event : AuditEventJSON} {c : Char} (hc : c ∈ reserved) :
    c ∉ (auditToCef event).name.toList ↔
      c ∉ event.action.toList ∧ c ∉ event.entityType.toList := by
  have hspace : c ∉ " ".toList := by
    have hall : ∀ c ∈ reserved, c ∉ " ".toList := List.forall_iff_forall_mem.mp (by decide)
    exact hall c hc
  simp only [auditToCef, String.toList_append, List.mem_append, hspace, or_false, not_or]

/-- The values of the extension that the event decides. -/
theorem free_extension_iff {event : AuditEventJSON} {c : Char} (hc : c ∈ reserved) :
    (∀ p ∈ (cefRecord (auditToCef event)).extension, c ∉ p.2) ↔
      c ∉ (event.ipAddress.getD "").toList ∧ c ∉ (event.userEmail.getD "").toList ∧
      c ∉ (event.userId.getD "").toList ∧ c ∉ event.action.toList ∧
      c ∉ event.entityType.toList ∧ c ∉ event.entityId.toList ∧
      c ∉ event.integrityHash.toList ∧ c ∉ event.timestamp.toList ∧ c ∉ event.outcome.toList := by
  have hconst : c ∉ "unknown".toList ∧ c ∉ "system".toList ∧ c ∉ "entityType".toList ∧
      c ∉ "entityId".toList ∧ c ∉ "integrityHash".toList := by
    have hall : ∀ c ∈ reserved, c ∉ "unknown".toList ∧ c ∉ "system".toList ∧
        c ∉ "entityType".toList ∧ c ∉ "entityId".toList ∧ c ∉ "integrityHash".toList :=
      List.forall_iff_forall_mem.mp (by decide)
    exact hall c hc
  obtain ⟨hunknown, hsystem, htype, hid, hhash⟩ := hconst
  have horDefault (text : Option String) {default : String} (h : c ∉ default.toList) :
      c ∉ (orDefault text default).toList ↔ c ∉ (text.getD "").toList :=
    not_congr ⟨mem_orDefault h, mem_orDefault_of_mem⟩
  simp only [cefRecord, auditToCef, List.map_cons, List.map_nil, List.forall_mem_cons,
    horDefault _ hunknown, horDefault _ hsystem, htype, hid, hhash, not_false_eq_true, true_and,
    List.not_mem_nil, false_implies, implies_true, and_true]

def cefKeys : List String :=
  ["src", "suser", "suid", "act", "cs1", "cs1Label", "cs2", "cs2Label", "cs3", "cs3Label", "rt",
    "outcome"]

theorem keys_extension (event : AuditEventJSON) :
    (cefRecord (auditToCef event)).extension.map Prod.fst = cefKeys.map String.toList := by
  simp only [cefRecord, auditToCef, cefKeys, List.map_cons, List.map_nil]

theorem isKey_extension (event : AuditEventJSON) :
    ∀ p ∈ (cefRecord (auditToCef event)).extension,
      isKey p.1 = true ∧ ∀ c ∈ ['\n', '\r'], c ∉ p.1 := by
  have hall : ∀ key ∈ cefKeys.map String.toList, isKey key = true ∧ '\n' ∉ key ∧ '\r' ∉ key := by
    decide
  intro p hp
  have hmem := List.mem_map_of_mem (f := Prod.fst) hp
  rw [keys_extension] at hmem
  obtain ⟨hkey, hnl, hcr⟩ := hall p.1 hmem
  exact ⟨hkey, List.forall_mem_cons.mpr ⟨hnl, List.forall_mem_singleton.mpr hcr⟩⟩

/-- The parts of the header that are the same in every line. -/
theorem free_constants :
    ∀ c ∈ ['|', '\\', '\n', '\r'], c ∉ "CEF:0".toList ∧ c ∉ "LexNebulis".toList ∧
      c ∉ "1.0.0".toList ∧ c.isDigit = false :=
  List.forall_iff_forall_mem.mp (by decide)

/-- The parts of a line that no event decides. -/
structure Standard (cef : AuditEventCEF) : Prop where
  version : cef.version = "CEF:0"
  deviceVendor : cef.deviceVendor = "LexNebulis"
  deviceProduct : cef.deviceProduct = "LexNebulis"
  deviceVersion : cef.deviceVersion = "1.0.0"
  severity : ∀ c ∈ (toString cef.severity).toList, c.isDigit = true
  keys : ∀ p ∈ (cefRecord cef).extension, isKey p.1 = true ∧ ∀ c ∈ ['\n', '\r'], c ∉ p.1

theorem standard_auditToCef (event : AuditEventJSON) : Standard (auditToCef event) :=
  ⟨rfl, rfl, rfl, rfl, fun _ => severity_text, isKey_extension event⟩

/-- What the standard parts of the header hold for a character that they lack. -/
theorem Standard.free {cef : AuditEventCEF} (h : Standard cef) {c : Char}
    (hc : c ∈ ['|', '\\', '\n', '\r']) :
    c ∉ (cefRecord cef).version ∧ c ∉ (cefRecord cef).deviceVendor ∧
      c ∉ (cefRecord cef).deviceProduct ∧ c ∉ (cefRecord cef).deviceVersion ∧
      c ∉ (cefRecord cef).severity := by
  obtain ⟨hversion, hvendor, hdevice, hdigit⟩ := free_constants c hc
  simp only [cefRecord, h.version, h.deviceVendor, h.deviceProduct, h.deviceVersion]
  refine ⟨hversion, hvendor, hvendor, hdevice, fun hmem => ?_⟩
  rw [h.severity c hmem] at hdigit
  cases hdigit

/-- A line break comes from a text of the event. -/
theorem Standard.lineBreak_iff {cef : AuditEventCEF} (h : Standard cef) {c : Char}
    (hc : c ∈ ['\n', '\r']) :
    c ∉ print (cefRecord cef) ↔ (c ∉ (cefRecord cef).signatureId ∧ c ∉ (cefRecord cef).name) ∧
      ∀ p ∈ (cefRecord cef).extension, c ∉ p.2 := by
  have hne : c ≠ '|' ∧ c ≠ '=' ∧ c ≠ ' ' := by
    have hall : ∀ c ∈ ['\n', '\r'], c ≠ '|' ∧ c ≠ '=' ∧ c ≠ ' ' :=
      List.forall_iff_forall_mem.mp (by decide)
    exact hall c hc
  obtain ⟨hversion, hvendor, hproduct, hdevice, hseverity⟩ :=
    h.free (List.mem_cons_of_mem _ (List.mem_cons_of_mem _ hc))
  rw [mem_print_iff hne.1 hne.2.1 hne.2.2]
  simp only [hversion, hvendor, hproduct, hdevice, hseverity, false_or, not_or, not_exists, not_and,
    and_assoc]
  refine and_congr_right fun _ => and_congr_right fun _ => ?_
  refine forall_congr' fun p => imp_congr_right fun hp => ?_
  exact and_iff_right ((h.keys p hp).2 c hc)

theorem Standard.plain_iff {cef : AuditEventCEF} (h : Standard cef) :
    (cefRecord cef).Plain ↔
      (PlainField (cefRecord cef).signatureId ∧ PlainField (cefRecord cef).name) ∧
        ∀ p ∈ (cefRecord cef).extension, PlainValue p.2 := by
  constructor
  · exact fun hplain => ⟨⟨hplain.signatureId, hplain.name⟩, hplain.extension⟩
  · rintro ⟨⟨hsignature, hname⟩, hextension⟩
    have hbar := h.free (c := '|') (by decide)
    have hslash := h.free (c := '\\') (by decide)
    exact ⟨⟨hbar.1, hslash.1⟩, ⟨hbar.2.1, hslash.2.1⟩, ⟨hbar.2.2.1, hslash.2.2.1⟩,
      ⟨hbar.2.2.2.1, hslash.2.2.2.1⟩, hsignature, hname, ⟨hbar.2.2.2.2, hslash.2.2.2.2⟩, hextension⟩

/-- The line is read back exactly when each character is missing where it would need
an escape: in the header, and in the values. -/
theorem Standard.decodes_iff {cef : AuditEventCEF} (h : Standard cef) :
    (OneLine cef.toCefString ∧ parse cef.toCefString.toList = some (cefRecord cef)) ↔
      (∀ c ∈ ['|', '\\', '\n', '\r'], c ∉ cef.signatureId.toList ∧ c ∉ cef.name.toList) ∧
        ∀ c ∈ ['=', '\\', '\n', '\r'], ∀ p ∈ (cefRecord cef).extension, c ∉ p.2 := by
  rw [OneLine, toList_toCefString, parse_print_iff (fun p hp => (h.keys p hp).1), h.plain_iff,
    h.lineBreak_iff (by decide), h.lineBreak_iff (by decide)]
  change _ ↔ (∀ c ∈ ['|', '\\', '\n', '\r'], c ∉ (cefRecord cef).signatureId ∧
    c ∉ (cefRecord cef).name) ∧ _
  generalize (cefRecord cef).signatureId = signature
  generalize (cefRecord cef).name = name
  generalize (cefRecord cef).extension = pairs
  simp only [List.forall_mem_cons, List.not_mem_nil, false_implies, implies_true, and_true,
    PlainField, PlainValue]
  constructor
  · rintro ⟨⟨⟨hnl, hnl'⟩, hcr, hcr'⟩, ⟨⟨hbar, hslash⟩, hbar', hslash'⟩, hvalues⟩
    exact ⟨⟨⟨hbar, hbar'⟩, ⟨hslash, hslash'⟩, hnl, hcr⟩, fun p hp => (hvalues p hp).1,
      fun p hp => (hvalues p hp).2, hnl', hcr'⟩
  · rintro ⟨⟨⟨hbar, hbar'⟩, ⟨hslash, hslash'⟩, hnl, hcr⟩, hequals, hslashes, hnl', hcr'⟩
    exact ⟨⟨⟨hnl, hnl'⟩, hcr, hcr'⟩, ⟨⟨hbar, hslash⟩, hbar', hslash'⟩,
      fun p hp => ⟨hequals p hp, hslashes p hp⟩⟩

/-- The CEF line of an event can be read back exactly when no text of the event needs
an escape. -/
theorem cefDecodes_iff (event : AuditEventJSON) : CefDecodes event ↔ CefSafe event := by
  rw [CefDecodes, (standard_auditToCef event).decodes_iff]
  have hheader : ∀ c ∈ ['|', '\\', '\n', '\r'], c ∈ reserved :=
    List.forall_iff_forall_mem.mp (by decide)
  have hvalue : ∀ c ∈ ['=', '\\', '\n', '\r'], c ∈ reserved :=
    List.forall_iff_forall_mem.mp (by decide)
  constructor
  · rintro ⟨hheaders, hvalues⟩
    have hparts := fun c hc => (free_extension_iff (hvalue c hc)).mp (hvalues c hc)
    have hbar := (free_name_iff (hheader '|' (by decide))).mp (hheaders '|' (by decide)).2
    exact
      { action := List.forall_mem_cons.mpr ⟨hbar.1, fun c hc => (hparts c hc).2.2.2.1⟩
        entityType := List.forall_mem_cons.mpr ⟨hbar.2, fun c hc => (hparts c hc).2.2.2.2.1⟩
        entityId := fun c hc => (hparts c hc).2.2.2.2.2.1
        ipAddress := fun c hc => (hparts c hc).1
        userEmail := fun c hc => (hparts c hc).2.1
        userId := fun c hc => (hparts c hc).2.2.1
        integrityHash := fun c hc => (hparts c hc).2.2.2.2.2.2.1
        timestamp := fun c hc => (hparts c hc).2.2.2.2.2.2.2.1
        outcome := fun c hc => (hparts c hc).2.2.2.2.2.2.2.2 }
  · intro h
    constructor
    · intro c hc
      have hboth : c ∉ event.action.toList ∧ c ∉ event.entityType.toList :=
        ⟨h.action c (hheader c hc), h.entityType c (hheader c hc)⟩
      exact ⟨(free_signatureId_iff (hheader c hc)).mpr hboth, (free_name_iff (hheader c hc)).mpr hboth⟩
    · intro c hc
      exact (free_extension_iff (hvalue c hc)).mpr
        ⟨h.ipAddress c hc, h.userEmail c hc, h.userId c hc, h.action c (hvalue c hc),
          h.entityType c (hvalue c hc), h.entityId c hc, h.integrityHash c hc, h.timestamp c hc,
          h.outcome c hc⟩

def cleanEvent : AuditEventJSON where
  timestamp := "2026-03-01T12:00:00+00:00"
  eventId := "1"
  eventType := "user.login"
  action := "login"
  entityType := "user"
  entityId := "7"
  userId := some "7"
  userEmail := none
  ipAddress := none
  userAgent := none
  changes := none
  integrityHash := "00"
  previousHash := none
  severity := "info"
  outcome := "success"

example : CefSafe cleanEvent := by
  constructor <;> exact List.forall_iff_forall_mem.mp (by decide)

/-- An address with an equals sign, which addresses may have. -/
def equalsEvent : AuditEventJSON :=
  { cleanEvent with userEmail := some "ann=lee@firm.test" }

theorem not_cefDecodes_equals : ¬CefDecodes equalsEvent := by
  intro h
  have hvalues := ((standard_auditToCef equalsEvent).decodes_iff.mp h).2 '=' List.mem_cons_self
  have hemail := ((free_extension_iff (by decide)).mp hvalues).2.1
  exact hemail (by decide)

end LegalForge.Audit
