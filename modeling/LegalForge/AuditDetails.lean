import LegalForge.AuditChain
import LegalForge.AuditExport
import LegalForge.JsonRoundTrip
import LegalForge.ScimUsers
import LegalForge.SsoLogin
import LegalForge.TransitionRun

/-! The `changes_json` column and its writers. Provisioning over SCIM formats the text
itself and a failed SAML login stores a message. Every other operation passes nothing
or `json.dumps` of a dictionary. -/
namespace LegalForge.Audit
open JsonText Transition

structure AuditState where
  db : Auth.Db
  logs : List AuditLog

/-- What one `create_audit_log` call reads and draws. -/
structure AuditDraw where
  previousHash : Option String
  entryId : Uuid
  now : Datetime

def createAuditLog (sha256 : String → String) (s : AuditState) (call : AuditCall)
    (draw : AuditDraw) : AuditState :=
  { s with logs := s.logs++[auditEntry sha256 call draw.previousHash draw.entryId draw.now] }

def scimCreateChanges (user : Auth.User) : String :=
  "\x7b\"email\": \""++user.email++"\", \"role\": \""++user.role.value++"\"\x7d"

/-- Of `update_user` and of `patch_user`. -/
def scimUpdateChanges (user : Auth.User) : String :=
  "\x7b\"email\": \""++user.email++"\"\x7d"

def scimDeleteChanges (user : Auth.User) : String :=
  "\x7b\"email\": \""++user.email++"\", \"is_active\": false\x7d"

def scimAudited (action : String) (changes : Auth.User → String) (user : Auth.User) :
    AuditCall where
  userId := none
  entityType := "user"
  entityId := strId user.id
  action := action
  changesJson := some (changes user)

/-- The end of a SCIM request, once the user is written or it has failed. -/
def scimServe (sha256 : String → String) (s : AuditState) (action : String)
    (changes : Auth.User → String) (draw : AuditDraw) :
    Except HttpError Auth.User × Auth.Db → AuditState
  | (.error _, db) => { s with db := db }
  | (.ok user, db) =>
    createAuditLog sha256 { s with db := db } (scimAudited action changes user) draw

def samlFailed (message : String) (client : Option String) : AuditCall where
  userId := none
  entityType := "user"
  entityId := "unknown"
  action := "saml_login_failed"
  changesJson := some message
  ipAddress := client
  outcome := "failure"

/-- `POST /saml/callback` of a provider that exists, from the answer of
`handle_saml_callback`. -/
def samlServe (sha256 : String → String) (s : AuditState) (client : Option String)
    (draw : AuditDraw) : Except Sso.Failure Sso.SignedIn × Auth.Db → AuditState
  | (.ok out, db) =>
    createAuditLog sha256 { s with db := db }
      { userId := some out.user.id
        entityType := "user"
        entityId := strId out.user.id
        action := "saml_login"
        ipAddress := client } draw
  | (.error (.refused message), db) =>
    createAuditLog sha256 { s with db := db } (samlFailed message client) draw
  | (.error .unexpected, db) =>
    createAuditLog sha256 { s with db := db }
      (samlFailed "Unexpected SAML authentication error" client) draw
  -- after a failed flush the session takes no further statement
  | (.error .flush, _) => s

inductive ExportFormat where
  | json
  | cef
  | syslog
  deriving DecidableEq

def ExportFormat.value : ExportFormat → String
  | json => "json"
  | cef => "cef"
  | syslog => "syslog"

/-- The export of the rows is answered. -/
def exportCompletes (format : ExportFormat) (logs : List AuditLog) : Bool :=
  match format with
  | .json => (exportAuditJson logs).isSome
  | .cef => (exportAuditCef logs).isSome
  | .syslog => (exportAuditSyslog logs).isSome

/-- The details of the export's own row. -/
def exportChanges (format : ExportFormat) (logs : List AuditLog) : List (Str × Value) :=
  [(codePoints "format".toList, .str (codePoints format.value.toList)),
   (codePoints "count".toList, .num (Nat.toDigits 10 logs.length))]

/-- An operation of the program, as far as it writes users or audit rows. -/
inductive Operation where
  | scimCreateUser (scimData : Json) (userId : Uuid) (passwordHash : String) (draw : AuditDraw)
  | scimUpdateUser (userId : Uuid) (scimData : Json) (draw : AuditDraw)
  | scimPatchUser (userId : Uuid) (scimData : Json) (draw : AuditDraw)
  | scimDeleteUser (userId : Uuid) (draw : AuditDraw)
  | samlCallback (cfg : Auth.Config) (providerId : Uuid)
      (assertion : Except Sso.Failure Sso.SamlAssertion) (login : Sso.Draw) (now : Auth.Instant)
      (client : Option String) (draw : AuditDraw)
  /-- `logs` is what the query has found. -/
  | exportLogs (format : ExportFormat) (logs : List AuditLog) (adminId : Uuid) (adminEmail : String)
      (draw : AuditDraw)
  /-- Any other write of the tables. -/
  | write (db : Auth.Db)
  /-- Any other call of `create_audit_log`. -/
  | audit (call : AuditCall) (changes : Option (List (Str × Value))) (draw : AuditDraw)

def auditStep (sha256 : String → String) (s : AuditState) : Operation → Option AuditState
  | .scimCreateUser scimData userId passwordHash draw =>
    some (scimServe sha256 s "scim_create_user" scimCreateChanges draw
      (Scim.createUser s.db scimData userId passwordHash))
  | .scimUpdateUser userId scimData draw =>
    some (scimServe sha256 s "scim_update_user" scimUpdateChanges draw
      (Scim.updateUser s.db userId scimData))
  | .scimPatchUser userId scimData draw =>
    some (scimServe sha256 s "scim_patch_user" scimUpdateChanges draw
      (Scim.patchUser s.db userId scimData))
  | .scimDeleteUser userId draw =>
    some (scimServe sha256 s "scim_deactivate_user" scimDeleteChanges draw
      (Scim.deleteUser s.db userId))
  | .samlCallback cfg providerId assertion login now client draw =>
    match Table.find Auth.SSOProvider.id providerId s.db.providers with
    | none => some s
    | some _ =>
      some (samlServe sha256 s client draw
        (Sso.samlCallback cfg s.db providerId assertion login now))
  | .exportLogs format logs adminId adminEmail draw =>
    if ∀ log ∈ logs, log ∈ s.logs then
      if exportCompletes format logs then
        some (createAuditLog sha256 s
          { userId := some adminId
            entityType := "audit_log"
            entityId := "export"
            action := "export"
            changesJson := some (dumps (.obj (exportChanges format logs)))
            userEmail := some adminEmail } draw)
      else some s
    else none
  | .write db => some { s with db := db }
  | .audit call changes draw =>
    some (createAuditLog sha256 s
      { call with changesJson := changes.map (fun fields => dumps (.obj fields)) } draw)

/-! What is to hold. -/

/-- `changes_json` is null or the text of a JSON object. -/
def HasDetails (changesJson : Option String) : Prop :=
  ∀ text, changesJson = some text → ∃ fields, loads text = some (.obj fields)

/-- The details of every row can be read, and every export of rows is answered. -/
structure Parseable (s : AuditState) : Prop where
  details : ∀ log ∈ s.logs, HasDetails log.changesJson
  exports : ∀ logs : List AuditLog, (∀ log ∈ logs, log ∈ s.logs) →
    ∀ format, exportCompletes format logs = true

/-- Details that every export can also encode. -/
def Sound (changesJson : Option String) : Prop :=
  ∀ text, changesJson = some text →
    ∃ fields, loads text = some (.obj fields) ∧ encodableFields fields = true

theorem sound_none : Sound none := fun _ h => by cases h

theorem sound_some {text : String} {fields : List (Str × Value)}
    (hloads : loads text = some (.obj fields)) (hfields : encodableFields fields = true) :
    Sound (some text) := by
  intro text' h
  obtain rfl := Option.some.inj h
  exact ⟨fields, hloads, hfields⟩

theorem readChanges_of_sound {changesJson : Option String} (h : Sound changesJson) :
    ∃ changes, readChanges changesJson = some changes ∧
      encodableFields (changes.getD []) = true := by
  cases changesJson with
  | none => exact ⟨none, rfl, rfl⟩
  | some text =>
    obtain ⟨fields, hloads, hfields⟩ := h text rfl
    by_cases hempty : text = ""
    · exact ⟨none, by rw [readChanges, if_pos hempty], rfl⟩
    · refine ⟨some fields, ?_, hfields⟩
      rw [readChanges, if_neg hempty, hloads]

theorem mapM_of_forall {α β : Type} {f : α → Option β} {P : β → Prop} {as : List α}
    (h : ∀ a ∈ as, ∃ b, f a = some b ∧ P b) : ∃ bs, as.mapM f = some bs ∧ ∀ b ∈ bs, P b := by
  induction as with
  | nil => exact ⟨[], rfl, nofun⟩
  | cons a as ih =>
    obtain ⟨b, hb, hP⟩ := h a List.mem_cons_self
    obtain ⟨bs, hbs, hall⟩ := ih fun a' ha' => h a' (List.mem_cons_of_mem a ha')
    exact ⟨b :: bs, by simp [hb, hbs], List.forall_mem_cons.mpr ⟨hP, hall⟩⟩

/-- Rows with sound details are exported in every format. -/
theorem exportCompletes_of_sound {logs : List AuditLog} (h : ∀ log ∈ logs, Sound log.changesJson)
    (format : ExportFormat) : exportCompletes format logs = true := by
  have hevent : ∀ log ∈ logs, ∃ event, auditEvent log = some event ∧
      encodableFields (event.changes.getD []) = true := by
    intro log hlog
    obtain ⟨changes, hread, hencodable⟩ := readChanges_of_sound (h log hlog)
    exact ⟨_, by rw [auditEvent, hread, Option.map_some], hencodable⟩
  obtain ⟨events, hevents, hall⟩ := mapM_of_forall hevent
  cases format with
  | json =>
    have hencodable : events.all (fun event => encodableFields (event.changes.getD [])) = true :=
      List.all_eq_true.mpr hall
    simp [exportCompletes, exportAuditJson, hevents, Option.filter, hencodable]
  | cef => simp [exportCompletes, exportAuditCef, hevents]
  | syslog => simp [exportCompletes, exportAuditSyslog, hevents]

def AllSound (s : AuditState) : Prop :=
  ∀ log ∈ s.logs, Sound log.changesJson

theorem AllSound.parseable {s : AuditState} (h : AllSound s) : Parseable s := by
  constructor
  · intro log hlog text htext
    obtain ⟨fields, hloads, -⟩ := h log hlog text htext
    exact ⟨fields, hloads⟩
  · exact fun logs hlogs => exportCompletes_of_sound fun log hlog => h log (hlogs log hlog)

/-- Details that the exports read are sound. -/
theorem Parseable.allSound {s : AuditState} (h : Parseable s) : AllSound s := by
  intro log hlog text htext
  obtain ⟨fields, hloads⟩ := h.details log hlog text htext
  refine ⟨fields, hloads, ?_⟩
  have hempty : text ≠ "" := by
    rintro rfl
    cases hloads
  have hexport := h.exports [log] (fun log' h' => List.mem_singleton.mp h' ▸ hlog) .json
  have hread : readChanges log.changesJson = some (some fields) := by
    rw [htext, readChanges, if_neg hempty, hloads]
  simpa [exportCompletes, exportAuditJson, auditEvent, hread, Option.filter] using hexport

/-! What the formatted texts hold. -/

/-- No character needs an escape: no quote, no backslash, no control character. -/
def Plain (text : String) : Prop :=
  ∀ c ∈ text.toList, plainChar c = true

theorem encodable_codePoints (text : List Char) :
    (codePoints text).all (fun n => n < 0xd800 ∨ 0xdfff < n) = true := by
  refine List.all_eq_true.mpr fun n hn => decide_eq_true ?_
  have hscalar := scalar_of_mem_codePoints hn
  unfold Scalar at hscalar
  omega

/-- The value of a member that SCIM writes. -/
theorem encodableFields_text {key text : List Char} {fields : List (Str × Value)}
    (h : encodableFields fields = true) :
    encodableFields ((codePoints key, .str (codePoints text)) :: fields) = true := by
  simp only [encodableFields, encodable, encodable_codePoints, h, Bool.and_self]

theorem plain_emailKey : ∀ c ∈ "email".toList, plainChar c = true :=
  List.forall_iff_forall_mem.mp (by decide)

theorem loads_scimUpdateChanges {user : Auth.User} (h : Plain user.email) :
    loads (scimUpdateChanges user) =
      some (.obj [(codePoints "email".toList, .str (codePoints user.email.toList))]) := by
  have htext : (scimUpdateChanges user).toList = '{' :: '"' :: ("email".toList++ '"' :: ':' :: ' ' ::
      '"' :: (user.email.toList++ '"' :: ['}'])) := by
    delta scimUpdateChanges
    simp only [String.toList_append, List.append_assoc]
    rfl
  exact loads_object htext (by simp) (fun fuel => scanMember_raw plain_emailKey h fuel _)
    (fun fuel => rfl)

theorem plain_role (role : Auth.UserRole) : ∀ c ∈ role.value.toList, plainChar c = true := by
  cases role <;> exact List.forall_iff_forall_mem.mp (by decide)

theorem loads_scimCreateChanges {user : Auth.User} (h : Plain user.email) :
    loads (scimCreateChanges user) =
      some (.obj [(codePoints "email".toList, .str (codePoints user.email.toList)),
        (codePoints "role".toList, .str (codePoints user.role.value.toList))]) := by
  have htext : (scimCreateChanges user).toList = '{' :: '"' :: ("email".toList++ '"' :: ':' :: ' ' ::
      '"' :: (user.email.toList++ '"' :: ',' :: ' ' :: '"' :: ("role".toList++ '"' :: ':' :: ' ' ::
        '"' :: (user.role.value.toList++ '"' :: ['}'])))) := by
    delta scimCreateChanges
    simp only [String.toList_append, List.append_assoc]
    rfl
  have hrole : ∀ c ∈ "role".toList, plainChar c = true :=
    List.forall_iff_forall_mem.mp (by decide)
  exact loads_object htext (by simp) (fun fuel => scanMember_raw plain_emailKey h fuel _)
    (fun fuel => scanFields_raw hrole (plain_role user.role) rfl)

theorem loads_scimDeleteChanges {user : Auth.User} (h : Plain user.email) :
    loads (scimDeleteChanges user) =
      some (.obj [(codePoints "email".toList, .str (codePoints user.email.toList)),
        (codePoints "is_active".toList, .bool false)]) := by
  have htext : (scimDeleteChanges user).toList = '{' :: '"' :: ("email".toList++ '"' :: ':' :: ' ' ::
      '"' :: (user.email.toList++ '"' :: printFields [(codePoints "is_active".toList, .bool false)])) := by
    delta scimDeleteChanges
    simp only [String.toList_append, List.append_assoc]
    rfl
  exact loads_object htext (by simp) (fun fuel => scanMember_raw plain_emailKey h fuel _)
    (fun fuel => rfl)

theorem sound_scimCreateChanges {user : Auth.User} (h : Plain user.email) :
    Sound (some (scimCreateChanges user)) :=
  sound_some (loads_scimCreateChanges h) (encodableFields_text (encodableFields_text rfl))

theorem sound_scimUpdateChanges {user : Auth.User} (h : Plain user.email) :
    Sound (some (scimUpdateChanges user)) :=
  sound_some (loads_scimUpdateChanges h) (encodableFields_text rfl)

theorem sound_scimDeleteChanges {user : Auth.User} (h : Plain user.email) :
    Sound (some (scimDeleteChanges user)) := by
  refine sound_some (loads_scimDeleteChanges h) (encodableFields_text ?_)
  rw [encodableFields, encodable_codePoints]
  rfl

/-- `json.dumps` of a dictionary without `NaN`, infinities and surrogates. -/
def Dumpable (fields : List (Str × Value)) : Prop :=
  WellFormed (.obj fields) ∧ encodableFields fields = true

theorem Dumpable.sound {fields : List (Str × Value)} (h : Dumpable fields) :
    Sound (some (dumps (.obj fields))) :=
  sound_some (loads_dumps h.1) h.2

theorem encodable_toDigits (n : ℕ) : encodable (.num (Nat.toDigits 10 n)) = true := by
  have hdigits : ∀ c ∈ Nat.toDigits 10 n, c.isDigit = true := fun c hc =>
    Nat.isDigit_of_mem_toDigits (by decide) (by decide) hc
  have hfree (c : Char) (hc : c.isDigit = false) : c ∉ Nat.toDigits 10 n := by
    intro hmem
    rw [hdigits c hmem] at hc
    cases hc
  have hoverflows : overflows (Nat.toDigits 10 n) = false := by
    have hany : (Nat.toDigits 10 n).any (fun c => c = '.' ∨ c = 'e' ∨ c = 'E') = false := by
      refine List.any_eq_false.mpr fun c hc => ?_
      rw [decide_eq_true_eq]
      rintro (rfl | rfl | rfl) <;> exact hfree _ (by decide) hc
    simp only [overflows, hany]
    rfl
  have hletters : Nat.toDigits 10 n ∉ [['N', 'a', 'N'], ['I', 'n', 'f', 'i', 'n', 'i', 't', 'y'],
      ['-', 'I', 'n', 'f', 'i', 'n', 'i', 't', 'y']] := by
    -- each of the three has a capital letter
    have hall : ∀ text ∈ [['N', 'a', 'N'], ['I', 'n', 'f', 'i', 'n', 'i', 't', 'y'],
        ['-', 'I', 'n', 'f', 'i', 'n', 'i', 't', 'y']], 'N' ∈ text ∨ 'I' ∈ text := by decide
    intro hmem
    rcases hall _ hmem with hN | hI
    · exact hfree 'N' (by decide) hN
    · exact hfree 'I' (by decide) hI
  rw [encodable, hoverflows, decide_eq_true hletters]
  rfl

theorem dumpable_exportChanges (format : ExportFormat) (logs : List AuditLog) :
    Dumpable (exportChanges format logs) := by
  have hkeys : ((exportChanges format logs).map Prod.fst).Nodup := by
    simp only [exportChanges, List.map_cons, List.map_nil]
    decide
  have hscalar : ∀ text : List Char, ∀ n ∈ codePoints text, Scalar n :=
    fun text n hn => scalar_of_mem_codePoints hn
  refine ⟨⟨hkeys, hscalar _, hscalar _, hscalar _, scanNumber_toDigits _, trivial⟩, ?_⟩
  refine encodableFields_text ?_
  rw [encodableFields, encodable_codePoints, encodable_toDigits]
  rfl

/-! The operations that keep the details in order. -/

/-- The e-mail that a SCIM request leaves its user with needs no escape, no SAML login
is refused once its provider is found, and no other details hold `NaN`, an infinity or
a surrogate. -/
def Harmless (s : AuditState) : Operation → Prop
  | .scimCreateUser scimData userId passwordHash _ =>
    ∀ user, (Scim.createUser s.db scimData userId passwordHash).1 = .ok user → Plain user.email
  | .scimUpdateUser userId scimData _ =>
    ∀ user, (Scim.updateUser s.db userId scimData).1 = .ok user → Plain user.email
  | .scimPatchUser userId scimData _ =>
    ∀ user, (Scim.patchUser s.db userId scimData).1 = .ok user → Plain user.email
  | .scimDeleteUser userId _ =>
    ∀ user, (Scim.deleteUser s.db userId).1 = .ok user → Plain user.email
  | .samlCallback cfg providerId assertion login now _ _ =>
    Table.find Auth.SSOProvider.id providerId s.db.providers ≠ none →
      ∀ failure, (Sso.samlCallback cfg s.db providerId assertion login now).1 = .error failure →
        failure = .flush
  | .exportLogs _ _ _ _ _ => True
  | .write _ => True
  | .audit _ changes _ => ∀ fields, changes = some fields → Dumpable fields

variable {sha256 : String → String}

theorem AllSound.createAuditLog {s : AuditState} (h : AllSound s) {call : AuditCall}
    (hcall : Sound call.changesJson) (draw : AuditDraw) :
    AllSound (createAuditLog sha256 s call draw) := by
  intro log hlog
  rcases List.mem_append.mp hlog with hold | hnew
  · exact h log hold
  · rw [List.mem_singleton.mp hnew]
    exact hcall

theorem AllSound.scimServe {s : AuditState} (h : AllSound s) {action : String}
    {changes : Auth.User → String} {draw : AuditDraw}
    {out : Except HttpError Auth.User × Auth.Db}
    (hchanges : ∀ user, out.1 = .ok user → Sound (some (changes user))) :
    AllSound (scimServe sha256 s action changes draw out) := by
  obtain ⟨answer, db⟩ := out
  cases answer with
  | error e => exact h
  | ok user =>
    have hdb : AllSound { s with db := db } := h
    exact hdb.createAuditLog (hchanges user rfl) draw

theorem AllSound.samlServe {s : AuditState} (h : AllSound s) {client : Option String}
    {draw : AuditDraw} {out : Except Sso.Failure Sso.SignedIn × Auth.Db}
    (hflush : ∀ failure, out.1 = .error failure → failure = .flush) :
    AllSound (samlServe sha256 s client draw out) := by
  obtain ⟨answer, db⟩ := out
  have hdb : AllSound { s with db := db } := h
  cases answer with
  | ok signedIn => exact hdb.createAuditLog sound_none draw
  | error failure =>
    obtain rfl := hflush failure rfl
    exact h

/-- One harmless operation. -/
theorem AllSound.step {s t : AuditState} {op : Operation} (h : AllSound s)
    (hstep : auditStep sha256 s op = some t) (hharmless : Harmless s op) : AllSound t := by
  cases op with
  | scimCreateUser scimData userId passwordHash draw =>
    obtain rfl := Option.some.inj hstep
    exact h.scimServe fun user huser => sound_scimCreateChanges (hharmless user huser)
  | scimUpdateUser userId scimData draw =>
    obtain rfl := Option.some.inj hstep
    exact h.scimServe fun user huser => sound_scimUpdateChanges (hharmless user huser)
  | scimPatchUser userId scimData draw =>
    obtain rfl := Option.some.inj hstep
    exact h.scimServe fun user huser => sound_scimUpdateChanges (hharmless user huser)
  | scimDeleteUser userId draw =>
    obtain rfl := Option.some.inj hstep
    exact h.scimServe fun user huser => sound_scimDeleteChanges (hharmless user huser)
  | samlCallback cfg providerId assertion login now client draw =>
    cases hfind : Table.find Auth.SSOProvider.id providerId s.db.providers with
    | none =>
      simp only [auditStep, hfind, Option.some.injEq] at hstep
      exact hstep ▸ h
    | some provider =>
      simp only [auditStep, hfind, Option.some.injEq] at hstep
      have hflush := hharmless (by rw [hfind]; exact Option.some_ne_none provider)
      exact hstep ▸ h.samlServe hflush
  | exportLogs format logs adminId adminEmail draw =>
    simp only [auditStep, Option.ite_none_right_eq_some] at hstep
    obtain ⟨-, hstep⟩ := hstep
    split_ifs at hstep
    · obtain rfl := Option.some.inj hstep
      exact h.createAuditLog (dumpable_exportChanges format logs).sound draw
    · exact Option.some.inj hstep ▸ h
  | write db =>
    obtain rfl := Option.some.inj hstep
    exact h
  | audit call changes draw =>
    obtain rfl := Option.some.inj hstep
    refine h.createAuditLog ?_ draw
    cases changes with
    | none => exact sound_none
    | some fields => exact (hharmless fields rfl).sound

/-- A run of harmless operations keeps every row readable and every export alive. -/
theorem parseable_throughout {s : AuditState} {ops : List Operation} (hs : Parseable s)
    (hops : Along (auditStep sha256) (fun s op _ => Harmless s op) s ops) :
    Throughout (auditStep sha256) Parseable s ops := by
  refine throughout_iff_prefix.mpr fun bs cs t hsplit hrun => AllSound.parseable ?_
  subst hsplit
  exact hops.left.exec_invariant (fun s op t h hstep hop => h.step hstep hop) hs.allSound hrun

/-! A failed SAML login always breaks the exports. -/

/-- The first letters of the messages: no JSON text starts with one of them. -/
def messageLetters : List Char :=
  ['S', 'C', 'U']

theorem loads_message {text : String} {c : Char} {rest : List Char} (htext : text.toList = c :: rest)
    (hc : c ∈ messageLetters) : loads text = none := by
  have hletter : isSpace c = false ∧ c.isDigit = false ∧ c ∉ ['"', '[', '{', '-', '0'] ∧
      ∀ constant ∈ constants, constant.1.head? ≠ some c := by
    have hall : ∀ c ∈ messageLetters, isSpace c = false ∧ c.isDigit = false ∧
        c ∉ ['"', '[', '{', '-', '0'] ∧ ∀ constant ∈ constants, constant.1.head? ≠ some c :=
      List.forall_iff_forall_mem.mp (by decide)
    exact hall c hc
  obtain ⟨hspace, hdigit, hopen, hconstant⟩ := hletter
  simp only [List.mem_cons, List.not_mem_nil, or_false, not_or] at hopen
  obtain ⟨hquote, hbracket, hbrace, hminus, hzero⟩ := hopen
  -- the letter begins no number,
  have hsign : minusSign (c :: rest) = [] := by
    unfold minusSign
    split
    · rename_i heq
      exact absurd (List.cons.inj heq).1 hminus
    · rfl
  have hwhole : scanWhole (c :: rest) = none := by
    unfold scanWhole
    split
    · rename_i heq
      exact absurd (List.cons.inj heq).1 hzero
    · rw [List.takeWhile_cons_of_neg (by rw [hdigit]; decide), if_pos rfl]
  have hnumber : scanNumber (c :: rest) = none := by
    simp only [scanNumber, hsign, List.length_nil, List.drop_zero, hwhole, Option.map_none]
  -- no constant,
  have hfind : constants.find? (fun constant => constant.1.isPrefixOf (c :: rest)) = none := by
    refine List.find?_eq_none.mpr fun constant hmem hprefix => ?_
    obtain ⟨tail, htail⟩ := List.isPrefixOf_iff_prefix.mp hprefix
    have hne : constant.1 ≠ [] := by
      have hall : ∀ constant ∈ constants, constant.1 ≠ [] := by decide
      exact hall constant hmem
    obtain ⟨d, ds, hd⟩ := List.exists_cons_of_ne_nil hne
    rw [hd, List.cons_append] at htail
    exact hconstant constant hmem (by rw [hd, (List.cons.inj htail).1]; rfl)
  -- and no string, list or object
  have hscan (fuel : ℕ) : scanValue (fuel+1) (c :: rest) = none := by
    rw [scanValue]
    · rw [scanAtom, hnumber]
      simp only [hfind, Option.map_none]
    · exact fun q heq => hquote (List.cons.inj heq).1
    · exact fun q heq => hbracket (List.cons.inj heq).1
    · exact fun q heq => hbrace (List.cons.inj heq).1
  simp only [loads, htext, skipSpace_cons hspace, hscan]

def StartsMessage (text : String) : Prop :=
  ∃ c rest, text.toList = c :: rest ∧ c ∈ messageLetters

theorem StartsMessage.append {text : String} (h : StartsMessage text) (more : String) :
    StartsMessage (text++more) := by
  obtain ⟨c, rest, htext, hc⟩ := h
  exact ⟨c, rest++more.toList, by rw [String.toList_append, htext, List.cons_append], hc⟩

theorem completeLogin_refused {cfg : Auth.Config} {db : Auth.Db} {who : Sso.Identity}
    {login : Sso.Draw} {now : Auth.Instant} {message : String}
    (h : Sso.completeLogin cfg db who login now = .error (.refused message)) :
    StartsMessage message := by
  unfold Sso.completeLogin at h
  split at h
  · rename_i failure hfind
    obtain rfl := Except.error.inj h
    unfold Sso.findOrCreateUser at hfind
    split at hfind
    · cases hfind
    · split_ifs at hfind
      · obtain rfl := Sso.Failure.refused.inj (Except.error.inj hfind)
        have huser : StartsMessage "User " := ⟨'U', _, rfl, by decide⟩
        exact (huser.append _).append _
      · -- the branches after this one fail without a message
        repeat' split at hfind
        all_goals cases hfind
  · repeat' split at h
    all_goals cases h

theorem samlIdentity_error {provider : Auth.SSOProvider} {assertion : Sso.SamlAssertion}
    {failure : Sso.Failure} (h : Sso.samlIdentity provider assertion = .error failure) :
    failure = .refused "Could not extract email from SAML response" := by
  unfold Sso.samlIdentity at h
  simp only [] at h
  split_ifs at h
  exact (Except.error.inj h).symm

/-- The messages of a callback are those of the service. -/
theorem samlCallback_refused {cfg : Auth.Config} {db : Auth.Db} {providerId : Uuid}
    {assertion : Except Sso.Failure Sso.SamlAssertion} {login : Sso.Draw} {now : Auth.Instant}
    {message : String} (hfind : Table.find Auth.SSOProvider.id providerId db.providers ≠ none)
    (hassertion : ∀ m, assertion = .error (.refused m) → StartsMessage m)
    (h : (Sso.samlCallback cfg db providerId assertion login now).1 = .error (.refused message)) :
    StartsMessage message := by
  obtain ⟨provider, hprovider⟩ := Option.ne_none_iff_exists'.mp hfind
  simp only [Sso.samlCallback, hprovider] at h
  split at h
  · rename_i failure hbind
    obtain rfl := Except.error.inj h
    cases assertion with
    | error refusal => exact hassertion message (congrArg Except.error (Except.error.inj hbind))
    | ok found =>
      obtain rfl := Sso.Failure.refused.inj (samlIdentity_error hbind)
      exact ⟨'C', _, rfl, by decide⟩
  · split at h
    · rename_i failure hcomplete
      obtain rfl := Except.error.inj h
      exact completeLogin_refused hcomplete
    · cases h

/-- Whatever the reason is, unless a flush has failed: the log cannot be exported
any more. `hassertion` says that `process_response` is refused with a message of
the service. -/
theorem not_parseable_of_samlFailed {s t : AuditState} {cfg : Auth.Config} {providerId : Uuid}
    {assertion : Except Sso.Failure Sso.SamlAssertion} {login : Sso.Draw} {now : Auth.Instant}
    {client : Option String} {draw : AuditDraw} {failure : Sso.Failure}
    (hstep : auditStep sha256 s (.samlCallback cfg providerId assertion login now client draw) = some t)
    (hfind : Table.find Auth.SSOProvider.id providerId s.db.providers ≠ none)
    (hassertion : ∀ m, assertion = .error (.refused m) → StartsMessage m)
    (hfailed : (Sso.samlCallback cfg s.db providerId assertion login now).1 = .error failure)
    (hflush : failure ≠ .flush) : ¬Parseable t := by
  obtain ⟨message, hmessage, hlogged⟩ : ∃ message, StartsMessage message ∧
      ∃ log ∈ t.logs, log.changesJson = some message := by
    obtain ⟨provider, hprovider⟩ := Option.ne_none_iff_exists'.mp hfind
    simp only [auditStep, hprovider, Option.some.injEq] at hstep
    subst hstep
    cases failure with
    | refused message =>
      refine ⟨message, samlCallback_refused hfind hassertion hfailed, ?_⟩
      generalize Sso.samlCallback cfg s.db providerId assertion login now = out at hfailed
      obtain ⟨answer, db⟩ := out
      obtain rfl : answer = _ := hfailed
      exact ⟨_, List.mem_append_right _ List.mem_cons_self, rfl⟩
    | unexpected =>
      refine ⟨"Unexpected SAML authentication error", ⟨'U', _, rfl, by decide⟩, ?_⟩
      generalize Sso.samlCallback cfg s.db providerId assertion login now = out at hfailed
      obtain ⟨answer, db⟩ := out
      obtain rfl : answer = _ := hfailed
      exact ⟨_, List.mem_append_right _ List.mem_cons_self, rfl⟩
    | flush => exact absurd rfl hflush
  obtain ⟨c, rest, htext, hc⟩ := hmessage
  obtain ⟨log, hlog, hchanges⟩ := hlogged
  intro hparseable
  obtain ⟨fields, hfields⟩ := hparseable.details log hlog message hchanges
  rw [loads_message htext hc] at hfields
  cases hfields

def emptyTables : AuditState :=
  ⟨⟨[], [], [], []⟩, []⟩

theorem parseable_emptyTables : Parseable emptyTables :=
  AllSound.parseable fun _ h => absurd h List.not_mem_nil

def provisionDraw : AuditDraw :=
  ⟨none, 1, noon 5 (by decide)⟩

def provisioned (userName : String) : Operation :=
  .scimCreateUser (.obj [("userName", .str userName)]) 3 "" provisionDraw

def provisionedUser (userName : String) : Auth.User where
  id := 3
  email := userName
  passwordHash := ""
  firstName := ""
  lastName := ""

theorem step_provisioned (sha256 : String → String) {userName : String} {db : Auth.Db}
    (h : Scim.createUser emptyTables.db (.obj [("userName", .str userName)]) 3 "" =
      (.ok (provisionedUser userName), db)) :
    auditStep sha256 emptyTables (provisioned userName) =
      some (createAuditLog sha256 { emptyTables with db := db }
        (scimAudited "scim_create_user" scimCreateChanges (provisionedUser userName))
        provisionDraw) := by
  rw [provisioned, auditStep, h]
  rfl

/-- SHA-256 on the text that is hashed for the row. -/
def provisionDigest (_ : String) : String :=
  "841357988887e251857b4320a9af80cb35f18dde6079173e691ec681a2d3cd2a"

theorem parseable_throughout_provisioned :
    Throughout (auditStep provisionDigest) Parseable emptyTables [provisioned "ann@firm.test"] := by
  refine parseable_throughout parseable_emptyTables ?_
  have hcreated : Scim.createUser emptyTables.db (.obj [("userName", .str "ann@firm.test")]) 3 "" =
      (.ok (provisionedUser "ann@firm.test"), _) := rfl
  refine Along.cons (step_provisioned provisionDigest hcreated) ?_ trivial
  intro user huser
  rw [hcreated] at huser
  obtain rfl := Except.ok.inj huser
  exact List.forall_iff_forall_mem.mp (by decide)

/-- A quote in the user name ends the text of the member. -/
theorem not_parseable_quotedUser :
    ¬∃ sha256, Throughout (auditStep sha256) Parseable emptyTables [provisioned "a\"b@firm.test"] := by
  rintro ⟨sha256, h⟩
  have hcreated : Scim.createUser emptyTables.db (.obj [("userName", .str "a\"b@firm.test")]) 3 "" =
      (.ok (provisionedUser "a\"b@firm.test"), _) := rfl
  have hstep := step_provisioned sha256 hcreated
  have hparseable := h.final (exec_cons_eq_some.mpr ⟨_, hstep, rfl⟩)
  obtain ⟨fields, hfields⟩ := hparseable.details _ List.mem_cons_self _ rfl
  have hnone : loads (scimCreateChanges (provisionedUser "a\"b@firm.test")) = none := by
    decide +kernel
  rw [hnone] at hfields
  cases hfields

end LegalForge.Audit
