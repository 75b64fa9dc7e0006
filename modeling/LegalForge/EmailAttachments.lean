import LegalForge.Deadlines
import LegalForge.DelimitedText
import LegalForge.KeyedTable
import LegalForge.ReadCommitted

/-! Emails with the counters of their attachments. A request that adds an attachment reads the
counter, and writes it back increased. -/
namespace LegalForge.Attachments
open Auth Transition ReadCommitted
open Deadlines (BoundedText boundedVarchar intColumn nullable)
open Delimited (mapM_eq_some_iff)

/-- The columns of a filed email that the attachments concern. -/
structure FiledEmail where
  id : Uuid
  hasAttachments : Bool := false
  attachmentCount : ℤ := 0
  deriving DecidableEq

structure EmailAttachment where
  id : Uuid
  emailId : Uuid
  filename : String
  mimeType : Option String
  sizeBytes : Option ℤ
  deriving DecidableEq

structure EmailAttachmentCreate where
  filename : BoundedText 1 500
  mimeType : Option (BoundedText 0 255) := none
  sizeBytes : Option ℤ := none

structure AttachmentDb where
  emails : List FiledEmail
  attachments : List EmailAttachment

/-- The row of a new attachment, if its columns can hold the values. -/
def newAttachment (id emailId : Uuid) (data : EmailAttachmentCreate) : Option EmailAttachment := do
  let filename ← boundedVarchar data.filename
  let mimeType ← nullable boundedVarchar data.mimeType
  let sizeBytes ← nullable intColumn data.sizeBytes
  some
    { id := id
      emailId := emailId
      filename := filename
      mimeType := mimeType
      sizeBytes := sizeBytes }

/-- `file_email_with_attachments`: the email, and its attachments under new ids. -/
def newEmail (emailId : Uuid) (attachments : List (Uuid × EmailAttachmentCreate)) :
    Option (FiledEmail × List EmailAttachment) := do
  let rows ← attachments.mapM fun (id, data) => newAttachment id emailId data
  if attachments = [] then some ({ id := emailId }, rows)
  else do
    let count ← intColumn attachments.length
    some ({ id := emailId, hasAttachments := true, attachmentCount := count }, rows)

/-- Where one request stands. -/
inductive Uploader where
  | idle
  /-- The email is filed; only COMMIT is left. -/
  | filed (email : FiledEmail) (attachments : List EmailAttachment)
  /-- `get_filed_email` has found the email. -/
  | loaded (email : FiledEmail)
  | inserted (email : FiledEmail) (attachment : EmailAttachment)
  /-- The counter is written; only COMMIT is left. -/
  | counted (email : FiledEmail) (attachment : EmailAttachment)
  | failed (error : HttpError)

inductive UploadStatement where
  | fileEmail (emailId : Uuid) (attachments : List (Uuid × EmailAttachmentCreate))
  | getEmail (emailId : Uuid)
  /-- INSERT of the attachment, which the second query for the email flushes. That query does not
  refresh the email that is loaded already. -/
  | insert (attachmentId : Uuid) (data : EmailAttachmentCreate)
  /-- UPDATE of the email -/
  | flush

/-- Rows that a statement locks. -/
inductive UploadKey where
  | email (id : Uuid)
  | attachment (id : Uuid)
  deriving DecidableEq

def emailNotFound : HttpError := ⟨404, "Email not found"⟩

/-- `has_attachments = True` and `attachment_count + 1`. -/
def withOneMore (email : FiledEmail) : FiledEmail :=
  { email with hasAttachments := true, attachmentCount := email.attachmentCount+1 }

/-- The UPDATE writes the columns that the session has changed since it loaded the row. -/
def writeCounters (loaded row : FiledEmail) : FiledEmail :=
  { row with
    hasAttachments :=
      Table.assigned loaded.hasAttachments (withOneMore loaded).hasAttachments row.hasAttachments
    attachmentCount :=
      Table.assigned loaded.attachmentCount (withOneMore loaded).attachmentCount
        row.attachmentCount }

/-- The rows after `file_email_with_attachments` commits. -/
def fileRows (db : AttachmentDb) (email : FiledEmail) (attachments : List EmailAttachment) :
    AttachmentDb :=
  ⟨db.emails++[email], db.attachments++attachments⟩

/-- The rows after `add_attachment` commits. -/
def addRow (db : AttachmentDb) (email : FiledEmail) (attachment : EmailAttachment) : AttachmentDb :=
  ⟨Table.alter FiledEmail.id email.id (writeCounters email) db.emails,
    db.attachments++[attachment]⟩

/-- The ids are all new, and different from each other. -/
def idsFree (db : AttachmentDb) (ids : List Uuid) : Bool :=
  decide ids.Nodup && ids.all fun id => id ∉ db.attachments.map EmailAttachment.id

def uploadProgram : Program AttachmentDb Uploader UploadStatement UploadKey where
  locks _ m a :=
    match m, a with
    | .idle, .fileEmail emailId attachments =>
      .email emailId :: attachments.map fun row => .attachment row.1
    | .loaded _, .insert attachmentId _ => [.attachment attachmentId]
    | .inserted email _, .flush => [.email email.id]
    | _, _ => []
  stmt db m a :=
    match m, a with
    | .idle, .fileEmail emailId attachments =>
      match newEmail emailId attachments with
      | none => some (.failed .internal)
      | some (email, rows) =>
        if emailId ∉ db.emails.map FiledEmail.id ∧ idsFree db (rows.map EmailAttachment.id) then
          some (.filed email rows)
        else some (.failed .internal)
    | .idle, .getEmail emailId =>
      match Table.find FiledEmail.id emailId db.emails with
      | none => some (.failed emailNotFound)
      | some email => some (.loaded email)
    | .loaded email, .insert attachmentId data =>
      match newAttachment attachmentId email.id data with
      | none => some (.failed .internal)
      | some attachment =>
        if idsFree db [attachmentId] then some (.inserted email attachment)
        else some (.failed .internal)
    | .inserted email attachment, .flush =>
      match intColumn (email.attachmentCount+1) with
      | none => some (.failed .internal)
      | some _ => some (.counted email attachment)
    | _, _ => none
  publish db m :=
    match m with
    | .filed email attachments => some (fileRows db email attachments, .idle)
    | .counted email attachment => some (addRow db email attachment, .idle)
    | _ => none
  abort _ := .idle

/-- The attachments of an email. -/
def attachmentsOf (db : AttachmentDb) (emailId : Uuid) : List EmailAttachment :=
  db.attachments.filter fun a => a.emailId = emailId

/-- The counter of each email is the number of its attachments, and the flag tells whether there
are any. -/
def CountersAgree (db : AttachmentDb) : Prop :=
  ∀ email ∈ db.emails, email.attachmentCount = (attachmentsOf db email.id).length ∧
    (email.hasAttachments = true ↔ 0 < (attachmentsOf db email.id).length)

/-- The counter that the session has read is still the committed one. -/
def CounterCurrent (db : AttachmentDb) (m : Uploader) : Prop :=
  ∀ email attachment, m = .counted email attachment →
    ∀ row ∈ db.emails, row.id = email.id → row.attachmentCount = email.attachmentCount

/-! What the requests have in hand. -/

/-- Rows have keys, and attachments belong to emails. -/
structure UploadInv (db : AttachmentDb) : Prop where
  ids : (db.emails.map FiledEmail.id).Nodup
  known : ∀ a ∈ db.attachments, a.emailId ∈ db.emails.map FiledEmail.id

/-- The email that was loaded is committed, and once it has attachments it keeps the flag. -/
def StillThere (db : AttachmentDb) (email : FiledEmail) : Prop :=
  ∃ row ∈ db.emails, row.id = email.id ∧
    (email.hasAttachments = true → row.hasAttachments = true)

/-- Counter and flag of a new email are right. -/
structure NewEmailOk (email : FiledEmail) (attachments : List EmailAttachment) : Prop where
  count : email.attachmentCount = attachments.length
  flag : email.hasAttachments = true ↔ 0 < attachments.length
  owner : ∀ a ∈ attachments, a.emailId = email.id

def UploaderOk (db : AttachmentDb) (held : Set UploadKey) : Uploader → Prop
  | .filed email attachments => NewEmailOk email attachments ∧
      email.id ∉ db.emails.map FiledEmail.id ∧ UploadKey.email email.id ∈ held
  | .loaded email => StillThere db email
  | .inserted email a => StillThere db email ∧ a.emailId = email.id
  | .counted email a => StillThere db email ∧ a.emailId = email.id
  | .idle => True
  | .failed _ => True

theorem emailId_of_newAttachment {id emailId : Uuid} {data : EmailAttachmentCreate}
    {a : EmailAttachment} (h : newAttachment id emailId data = some a) : a.emailId = emailId := by
  unfold newAttachment at h
  obtain ⟨_, -, h⟩ := Option.bind_eq_some_iff.mp h
  obtain ⟨_, -, h⟩ := Option.bind_eq_some_iff.mp h
  obtain ⟨_, -, h⟩ := Option.bind_eq_some_iff.mp h
  rw [← Option.some.inj h]

theorem newEmailOk_of_newEmail {emailId : Uuid} {data : List (Uuid × EmailAttachmentCreate)}
    {email : FiledEmail} {rows : List EmailAttachment}
    (h : newEmail emailId data = some (email, rows)) : email.id = emailId ∧ NewEmailOk email rows := by
  unfold newEmail at h
  obtain ⟨rows', hrows, h⟩ := Option.bind_eq_some_iff.mp h
  have hall := mapM_eq_some_iff.mp hrows
  -- each row is made for this email
  have howner : ∀ a ∈ rows', a.emailId = emailId := by
    intro a ha
    obtain ⟨i, hi, rfl⟩ := List.getElem_of_mem ha
    exact emailId_of_newAttachment (hall.get (hall.length_eq ▸ hi) hi)
  have hlength : rows'.length = data.length := hall.length_eq.symm
  split_ifs at h with hnone
  · cases h
    rw [hnone] at hlength
    exact ⟨rfl, by simp [hlength], by simp [hlength], howner⟩
  · obtain ⟨count, hcount, h⟩ := Option.bind_eq_some_iff.mp h
    cases h
    refine ⟨rfl, ?_, ?_, howner⟩
    · rw [Deadlines.intColumn_eq_some hcount, hlength]
    · have hpos := List.length_pos_iff.mpr hnone
      simp [hlength, hpos]

/-! The rows after a commit. -/

section
variable {db : AttachmentDb} {email : FiledEmail} {rows : List EmailAttachment} {a : EmailAttachment}

theorem attachmentsOf_eq_nil (hinv : UploadInv db) {id : Uuid}
    (h : id ∉ db.emails.map FiledEmail.id) : attachmentsOf db id = [] := by
  apply List.filter_eq_nil_iff.mpr
  intro a ha
  have hne : a.emailId ≠ id := fun heq => h (heq ▸ hinv.known a ha)
  simpa using hne

theorem attachmentsOf_fileRows (id : Uuid) : attachmentsOf (fileRows db email rows) id =
    attachmentsOf db id++rows.filter fun a => a.emailId = id :=
  List.filter_append ..

theorem NewEmailOk.filter_self (h : NewEmailOk email rows) :
    rows.filter (fun a => a.emailId = email.id) = rows :=
  List.filter_eq_self.mpr fun a ha => decide_eq_true (h.owner a ha)

theorem NewEmailOk.filter_of_ne (h : NewEmailOk email rows) {id : Uuid} (hne : email.id ≠ id) :
    rows.filter (fun a => a.emailId = id) = [] := by
  apply List.filter_eq_nil_iff.mpr
  intro a ha
  rw [h.owner a ha]
  simpa using hne

theorem attachmentsOf_addRow (id : Uuid) : attachmentsOf (addRow db email a) id =
    attachmentsOf db id++[a].filter fun a => a.emailId = id :=
  List.filter_append ..

theorem length_attachmentsOf_addRow_self (h : a.emailId = email.id) :
    (attachmentsOf (addRow db email a) email.id).length =
      (attachmentsOf db email.id).length+1 := by
  rw [attachmentsOf_addRow, List.filter_singleton, h]
  simp

theorem attachmentsOf_addRow_of_ne (h : a.emailId = email.id) {id : Uuid} (hne : email.id ≠ id) :
    attachmentsOf (addRow db email a) id = attachmentsOf db id := by
  rw [attachmentsOf_addRow, List.filter_singleton, h]
  simp [hne]

theorem id_writeCounters (loaded row : FiledEmail) : (writeCounters loaded row).id = row.id := rfl

/-- The counter has changed since the session loaded it, so it is written. -/
theorem attachmentCount_writeCounters (loaded row : FiledEmail) :
    (writeCounters loaded row).attachmentCount = loaded.attachmentCount+1 := by
  have hchanged : loaded.attachmentCount+1 ≠ loaded.attachmentCount := by omega
  exact if_neg hchanged

theorem hasAttachments_writeCounters {loaded row : FiledEmail}
    (h : loaded.hasAttachments = true → row.hasAttachments = true) :
    (writeCounters loaded row).hasAttachments = true := by
  change (if true = loaded.hasAttachments then row.hasAttachments else true) = true
  split_ifs with hflag
  · exact h hflag.symm
  · rfl

theorem ids_addRow : (addRow db email a).emails.map FiledEmail.id = db.emails.map FiledEmail.id := by
  have hkey : ∀ row : FiledEmail, row.id = email.id → (writeCounters email row).id = email.id :=
    fun _ h => h
  exact Table.map_key_alter hkey db.emails

/-- The committed row of the email that was loaded. -/
theorem StillThere.flag (h : StillThere db email) (hinv : UploadInv db) {row : FiledEmail}
    (hrow : row ∈ db.emails) (hid : row.id = email.id) (hflag : email.hasAttachments = true) :
    row.hasAttachments = true := by
  obtain ⟨row', hrow', hid', hkept⟩ := h
  have hsame : row = row' := List.inj_on_of_nodup_map hinv.ids hrow hrow' (hid.trans hid'.symm)
  rw [hsame]
  exact hkept hflag

theorem StillThere.mem_ids (h : StillThere db email) : email.id ∈ db.emails.map FiledEmail.id := by
  obtain ⟨row, hrow, hid, -⟩ := h
  rw [← hid]
  exact List.mem_map_of_mem hrow

theorem UploadInv.fileRows (hinv : UploadInv db) (h : NewEmailOk email rows)
    (hnew : email.id ∉ db.emails.map FiledEmail.id) : UploadInv (fileRows db email rows) := by
  have hids : (Attachments.fileRows db email rows).emails.map FiledEmail.id =
      db.emails.map FiledEmail.id++[email.id] := List.map_append
  constructor
  · exact Table.nodup_append_singleton hinv.ids fun x hx heq => hnew (heq ▸ List.mem_map_of_mem hx)
  · intro a ha
    rw [hids]
    rcases List.mem_append.mp ha with hold | hadded
    · exact List.mem_append_left _ (hinv.known a hold)
    · rw [h.owner a hadded]
      exact List.mem_append_right _ (List.mem_singleton_self _)

theorem UploadInv.addRow (hinv : UploadInv db) (h : StillThere db email)
    (howner : a.emailId = email.id) : UploadInv (addRow db email a) := by
  constructor
  · rw [ids_addRow]
    exact hinv.ids
  · intro a' ha'
    rw [ids_addRow]
    rcases List.mem_append.mp ha' with hold | hadded
    · exact hinv.known a' hold
    · rw [List.mem_singleton.mp hadded, howner]
      exact h.mem_ids

/-- Emails are filed, and their flags are set, but neither is undone. -/
theorem StillThere.fileRows {loaded : FiledEmail} (h : StillThere db loaded) :
    StillThere (fileRows db email rows) loaded := by
  obtain ⟨row, hrow, hid, hkept⟩ := h
  exact ⟨row, List.mem_append_left _ hrow, hid, hkept⟩

theorem StillThere.addRow {loaded : FiledEmail} (h : StillThere db loaded) (hinv : UploadInv db)
    (hemail : StillThere db email) : StillThere (addRow db email a) loaded := by
  obtain ⟨row, hrow, hid, hkept⟩ := h
  by_cases heq : row.id = email.id
  · refine ⟨writeCounters email row, Table.mem_alter.mpr ⟨row, hrow, if_pos heq⟩, hid, ?_⟩
    intro _
    exact hasAttachments_writeCounters (hemail.flag hinv hrow heq)
  · exact ⟨row, Table.mem_alter.mpr ⟨row, hrow, if_neg heq⟩, hid, hkept⟩

/-- Filing counts right. -/
theorem CountersAgree.fileRows (hagree : CountersAgree db) (hinv : UploadInv db)
    (h : NewEmailOk email rows) (hnew : email.id ∉ db.emails.map FiledEmail.id) :
    CountersAgree (fileRows db email rows) := by
  intro row hrow
  rw [attachmentsOf_fileRows]
  rcases List.mem_append.mp hrow with hold | hadded
  · have hne : email.id ≠ row.id := fun heq => hnew (heq ▸ List.mem_map_of_mem hold)
    rw [h.filter_of_ne hne, List.append_nil]
    exact hagree row hold
  · rw [List.mem_singleton.mp hadded, attachmentsOf_eq_nil hinv hnew, h.filter_self]
    exact ⟨h.count, h.flag⟩

/-- Adding an attachment counts right exactly if the counter is the one that was read. -/
theorem countersAgree_addRow_iff (hagree : CountersAgree db) (hinv : UploadInv db)
    (h : StillThere db email) (howner : a.emailId = email.id) :
    CountersAgree (addRow db email a) ↔
      ∀ row ∈ db.emails, row.id = email.id → row.attachmentCount = email.attachmentCount := by
  have hlength : (attachmentsOf (addRow db email a) email.id).length =
      (attachmentsOf db email.id).length+1 := length_attachmentsOf_addRow_self howner
  constructor
  · -- the counter is written from what was read, and there is one attachment more
    intro hafter row hrow hid
    have hwritten : writeCounters email row ∈ (addRow db email a).emails :=
      Table.mem_alter.mpr ⟨row, hrow, if_pos hid⟩
    have hcount := (hafter _ hwritten).1
    rw [attachmentCount_writeCounters, id_writeCounters, hid, hlength] at hcount
    have hbefore := (hagree row hrow).1
    rw [hid] at hbefore
    omega
  · intro hcurrent row' hrow'
    obtain ⟨row, hrow, rfl⟩ := Table.mem_alter.mp hrow'
    split_ifs with hid
    · have hbefore := (hagree row hrow).1
      rw [hcurrent row hrow hid, hid] at hbefore
      have hflag : (writeCounters email row).hasAttachments = true :=
        hasAttachments_writeCounters (h.flag hinv hrow hid)
      rw [attachmentCount_writeCounters, id_writeCounters, hid, hlength, hbefore]
      exact ⟨by omega, iff_of_true hflag (Nat.succ_pos _)⟩
    · -- other emails keep their attachments
      rw [attachmentsOf_addRow_of_ne howner (Ne.symm hid)]
      exact hagree row hrow

end

/-! Runs. -/

theorem uploaderOk_fileEmail {db : AttachmentDb} {held : Set UploadKey} {m' : Uploader} {emailId : Uuid}
    {data : List (Uuid × EmailAttachmentCreate)} (hlock : UploadKey.email emailId ∈ held)
    (hstmt : uploadProgram.stmt db .idle (.fileEmail emailId data) = some m') :
    UploaderOk db held m' := by
  simp only [uploadProgram] at hstmt
  cases hemail : newEmail emailId data with
  | none =>
    rw [hemail] at hstmt
    cases hstmt
    trivial
  | some filed =>
    obtain ⟨hid, hok⟩ := newEmailOk_of_newEmail hemail
    rw [hemail] at hstmt
    dsimp only at hstmt
    split_ifs at hstmt with hfree
    · cases hstmt
      rw [← hid] at hfree hlock
      exact ⟨hok, hfree.1, hlock⟩
    · cases hstmt
      trivial

theorem uploaderOk_getEmail {db : AttachmentDb} {held : Set UploadKey} {m' : Uploader} {emailId : Uuid}
    (hstmt : uploadProgram.stmt db .idle (.getEmail emailId) = some m') : UploaderOk db held m' := by
  simp only [uploadProgram] at hstmt
  cases hfind : Table.find FiledEmail.id emailId db.emails with
  | none =>
    rw [hfind] at hstmt
    cases hstmt
    trivial
  | some email =>
    rw [hfind] at hstmt
    cases hstmt
    exact ⟨email, Table.mem_of_find hfind, rfl, id⟩

theorem uploaderOk_insert {db : AttachmentDb} {held : Set UploadKey} {m' : Uploader}
    {email : FiledEmail} {attachmentId : Uuid} {data : EmailAttachmentCreate}
    (h : StillThere db email)
    (hstmt : uploadProgram.stmt db (.loaded email) (.insert attachmentId data) = some m') :
    UploaderOk db held m' := by
  simp only [uploadProgram] at hstmt
  cases hnew : newAttachment attachmentId email.id data with
  | none =>
    rw [hnew] at hstmt
    cases hstmt
    trivial
  | some attachment =>
    rw [hnew] at hstmt
    dsimp only at hstmt
    split_ifs at hstmt
    · cases hstmt
      exact ⟨h, emailId_of_newAttachment hnew⟩
    · cases hstmt
      trivial

theorem uploaderOk_flush {db : AttachmentDb} {held : Set UploadKey} {m' : Uploader}
    {email : FiledEmail} {attachment : EmailAttachment} (h : StillThere db email)
    (howner : attachment.emailId = email.id)
    (hstmt : uploadProgram.stmt db (.inserted email attachment) .flush = some m') :
    UploaderOk db held m' := by
  simp only [uploadProgram] at hstmt
  cases hcount : intColumn (email.attachmentCount+1) with
  | none =>
    rw [hcount] at hstmt
    cases hstmt
    trivial
  | some count =>
    rw [hcount] at hstmt
    cases hstmt
    exact ⟨h, howner⟩

/-- What a request that commits has done. -/
theorem publish_eq_some {db db' : AttachmentDb} {m m' : Uploader}
    (h : uploadProgram.publish db m = some (db', m')) :
    (∃ email rows, m = .filed email rows ∧ db' = fileRows db email rows ∧ m' = .idle) ∨
      ∃ email a, m = .counted email a ∧ db' = addRow db email a ∧ m' = .idle := by
  cases m with
  | filed email rows =>
    cases h
    exact Or.inl ⟨email, rows, rfl, rfl, rfl⟩
  | counted email a =>
    cases h
    exact Or.inr ⟨email, a, rfl, rfl, rfl⟩
  | idle => cases h
  | loaded email => cases h
  | inserted email a => cases h
  | failed error => cases h

/-- One case for each statement that a request has where it is. -/
theorem uploaderOk_stmt {db : AttachmentDb} {held : Set UploadKey} {m m' : Uploader}
    {a : UploadStatement} (h : UploaderOk db held m) (hstmt : uploadProgram.stmt db m a = some m') :
    UploaderOk db (held ∪ {r | r ∈ uploadProgram.locks db m a}) m' := by
  cases m with
  | idle =>
    cases a with
    | fileEmail emailId data => exact uploaderOk_fileEmail (Or.inr List.mem_cons_self) hstmt
    | getEmail emailId => exact uploaderOk_getEmail hstmt
    | _ => cases hstmt
  | loaded email =>
    cases a with
    | insert attachmentId data => exact uploaderOk_insert h hstmt
    | _ => cases hstmt
  | inserted email attachment =>
    cases a with
    | flush => exact uploaderOk_flush h.1 h.2 hstmt
    | _ => cases hstmt
  | filed email rows => cases a <;> cases hstmt
  | counted email attachment => cases a <;> cases hstmt
  | failed error => cases a <;> cases hstmt

theorem UploaderOk.fileRows {db : AttachmentDb} {held held' : Set UploadKey} {email : FiledEmail}
    {rows : List EmailAttachment} {n : Uploader} (h : UploaderOk db held (.filed email rows))
    (hdisjoint : Disjoint held held') (hn : UploaderOk db held' n) :
    UploaderOk (fileRows db email rows) held' n := by
  cases n with
  | filed email' rows' =>
    obtain ⟨hok, hnew, hlock⟩ := hn
    -- both hold the lock of the email's id
    have hne : email'.id ≠ email.id := fun heq =>
      Set.disjoint_left.mp hdisjoint h.2.2 (heq ▸ hlock)
    exact ⟨hok, Table.notMem_append_singleton hnew hne, hlock⟩
  | loaded email' => exact StillThere.fileRows hn
  | inserted email' a => exact ⟨hn.1.fileRows, hn.2⟩
  | counted email' a => exact ⟨hn.1.fileRows, hn.2⟩
  | idle => trivial
  | failed error => trivial

theorem UploaderOk.addRow {db : AttachmentDb} {held : Set UploadKey} {email : FiledEmail}
    {a : EmailAttachment} {n : Uploader} (hinv : UploadInv db) (h : StillThere db email)
    (hn : UploaderOk db held n) : UploaderOk (addRow db email a) held n := by
  cases n with
  | filed email' rows' =>
    refine ⟨hn.1, ?_, hn.2.2⟩
    rw [ids_addRow]
    exact hn.2.1
  | loaded email' => exact StillThere.addRow hn hinv h
  | inserted email' a' => exact ⟨hn.1.addRow hinv h, hn.2⟩
  | counted email' a' => exact ⟨hn.1.addRow hinv h, hn.2⟩
  | idle => trivial
  | failed error => trivial

theorem upload_outline : Outline uploadProgram UploadInv UploaderOk where
  stmt _ h hstmt := uploaderOk_stmt h hstmt
  commit := by
    intro db held m db' m' hinv h hpub
    rcases publish_eq_some hpub with ⟨email, rows, rfl, rfl, rfl⟩ | ⟨email, a, rfl, rfl, rfl⟩
    · exact ⟨hinv.fileRows h.1 h.2.1, trivial⟩
    · exact ⟨hinv.addRow h.1 h.2, trivial⟩
  abort _ _ := trivial
  stable := by
    intro db held m db' m' held' n hinv h hpub hdisjoint hn
    rcases publish_eq_some hpub with ⟨email, rows, rfl, rfl, -⟩ | ⟨email, a, rfl, rfl, -⟩
    · exact h.fileRows hdisjoint hn
    · exact hn.addRow hinv h.1

section
variable {Tx : Type*} [DecidableEq Tx]

abbrev UploadState (Tx : Type*) := State AttachmentDb Uploader UploadKey Tx
abbrev UploadLabel (Tx : Type*) := Label UploadStatement Tx

theorem counters_commit_iff {s s' : UploadState Tx} {t : Tx} (h : Holds UploadInv UploaderOk s)
    (hagree : CountersAgree s.committed) (hstep : step uploadProgram s (.commit t) = some s') :
    CountersAgree s'.committed ↔ CounterCurrent s.committed (s.session t) := by
  obtain ⟨db, m, hpub, rfl⟩ := step_commit_eq_some.mp hstep
  have hok := h.2 t
  rcases publish_eq_some hpub with ⟨email, rows, hsession, rfl, rfl⟩ | ⟨email, a, hsession, rfl, rfl⟩
  · rw [hsession] at hok ⊢
    exact iff_of_true (hagree.fileRows h.1 hok.1 hok.2.1) nofun
  · rw [hsession] at hok ⊢
    rw [countersAgree_addRow_iff hagree h.1 hok.1 hok.2]
    constructor
    · intro hcurrent email' a' heq
      cases heq
      exact hcurrent
    · exact fun hcurrent => hcurrent email a rfl

/-- No email is filed yet. -/
def noEmails : AttachmentDb := ⟨[], []⟩

/-- In every interleaving the counters agree with the attachments in every committed state exactly
if each request that commits finds the counter that it has read. -/
theorem counters_throughout_iff (ls : List (UploadLabel Tx)) :
    Throughout (step uploadProgram) (fun s => CountersAgree s.committed) (start noEmails .idle) ls ↔
      Along (step uploadProgram) (fun s l _ => AtCommit CounterCurrent s l)
        (start noEmails .idle) ls := by
  have hstart : CountersAgree noEmails := fun email hemail => nomatch hemail
  have hinv : UploadInv noEmails := ⟨List.nodup_nil, fun a ha => nomatch ha⟩
  have hholds : Holds UploadInv UploaderOk (start noEmails .idle : UploadState Tx) :=
    holds_start hinv trivial
  rw [throughout_atCommit_iff (I := Holds UploadInv UploaderOk)
    (fun s l s' h _ hstep _ => upload_outline.holds_step h hstep) ?_
    (fun s t s' h hagree hstep => counters_commit_iff h hagree hstep) hholds ls]
  · exact and_iff_right hstart
  · intro s l s' _ hagree hstep hl
    rw [step_committed_eq hstep hl]
    exact hagree

end

def scannedPage (name : String) (h : 1 ≤ name.length ∧ name.length ≤ 500) : EmailAttachmentCreate where
  filename := ⟨name, h⟩

def uploadOf (t : Bool) : List (UploadLabel Bool) :=
  [.stmt t (.getEmail 31), .stmt t (.insert (if t then 33 else 34) (scannedPage "page.pdf" (by decide))),
    .stmt t .flush]

/-- An email is filed with one attachment. Then two requests both read its counter before the
first of them commits. -/
def overlappingUploads : List (UploadLabel Bool) :=
  [.stmt true (.fileEmail 31 [(32, scannedPage "cover.pdf" (by decide))]), .commit true,
    .stmt false (.getEmail 31)]++uploadOf true++[.commit true]++(uploadOf false).tail++[.commit false]

/-- The email has three attachments, and the counter says two. -/
theorem overlapping_miscounted : ¬Throughout (step uploadProgram)
    (fun s => CountersAgree s.committed) (start noEmails .idle) overlappingUploads := by
  intro h
  have hlast := throughout_iff_prefix.mp h overlappingUploads [] _ (List.append_nil _).symm rfl
  have hcount := (hlast ⟨31, true, 2⟩ (by decide +kernel)).1
  revert hcount
  decide +kernel

end LegalForge.Attachments
