import LegalForge.DocumentContents
import LegalForge.GrownFamilies

/-! The versions of documents. An upload that names a parent gets the version after that of the
parent, and is not looked at any further. -/
namespace LegalForge.Documents
open Auth Matters Esign UnitOfWork Transition Families Relation

/-- A document names another one as its parent. -/
def Names (db : DocumentsDb) (a b : Uuid) : Prop := ⟨a, b⟩ ∈ db.parents

/-- The documents connected with one by their parents. -/
def family (db : DocumentsDb) (documentId : Uuid) : Set Document :=
  {doc | doc ∈ db.documents ∧ EqvGen (Names db) documentId doc.id}

/-- Each family belongs to one matter, and its versions are 1, 2 and so on, without repetition. -/
def LinearHistory (db : DocumentsDb) : Prop :=
  ∀ doc ∈ db.documents, (∀ other ∈ family db doc.id, other.matterId = doc.matterId) ∧
    Numbered Document.version (family db doc.id)

/-- The parent is a document of the same matter that has no later version yet. -/
def Succeeds (db : DocumentsDb) (matterId parentId : Uuid) : Prop :=
  ∀ parent ∈ db.documents, parent.id = parentId → parent.matterId = matterId ∧
    ∀ childId, Names db childId parentId → childId = parentId

/-- The upload, if it is committed, continues the history of its parent. -/
def UploadSucceeds (s : Stores) (call : UploadServices × Uuid × UploadRequest) : Prop :=
  UploadCommits call.1 call.2.1 call.2.2 s.1 → ∀ parentId, call.2.2.parentDocumentId = some parentId →
    Succeeds s.1 call.2.2.matterId parentId

/-- Uploads by any users, one after the other. -/
def uploadHandle (call : UploadServices × Uuid × UploadRequest) :
    Handler Stores HttpError DocumentsResponse :=
  uploadNewDocument call.1 call.2.1 call.2.2

/-- What uploads keep, whatever they name. -/
structure VersionsOk (db : DocumentsDb) : Prop where
  ids : (db.documents.map Document.id).Nodup
  named : ∀ a b, Names db a b → a ∈ db.documents.map Document.id ∧ b ∈ db.documents.map Document.id
  /-- The version of a document is the one after its parent's. -/
  next : ∀ child ∈ db.documents, ∀ parent ∈ db.documents, Names db child.id parent.id →
    child.id ≠ parent.id → child.version = parent.version+1
  /-- A document that is no first version has a parent. -/
  rooted : ∀ doc ∈ db.documents, doc.version = 1 ∨
    ∃ parent ∈ db.documents, Names db doc.id parent.id ∧ doc.id ≠ parent.id

section
variable {db db' : DocumentsDb} {doc row : Document} {parentDocumentId : Option Uuid}

/-- What a new row is. -/
theorem insertDocument_eq_some (h : insertDocument db doc parentDocumentId = some (row, db')) :
    row.id = doc.id ∧ row.matterId = doc.matterId ∧ row.version = doc.version ∧
      (∀ other ∈ db.documents, other.id ≠ doc.id) ∧ db'.documents = db.documents++[row] ∧
      db'.parents = db.parents++parentDocumentId.toList.map (DocumentParent.mk doc.id) ∧
      ∀ parentId, parentDocumentId = some parentId → parentId ∈ (db.documents++[row]).map Document.id := by
  unfold insertDocument at h
  simp only [Option.bind_eq_bind, Option.bind_eq_some_iff] at h
  obtain ⟨_, -, _, -, _, -, _, -, version, hversion, _, -, rows, hinsert, h⟩ := h
  split_ifs at h with hkeys
  obtain ⟨rfl, rfl⟩ := Prod.mk.inj (Option.some.inj h)
  obtain ⟨hfresh, rfl⟩ := Table.insert_eq_some_iff.mp hinsert
  refine ⟨rfl, rfl, ?_, hfresh, rfl, rfl, ?_⟩
  · exact Deadlines.intColumn_eq_some hversion
  · rintro parentId rfl
    have hfound := hkeys.2.2
    exact Table.exists_find_iff.mp (Option.isSome_iff_exists.mp hfound)

theorem getDocument_eq_some_iff (hids : (db.documents.map Document.id).Nodup) {documentId : Uuid} :
    getDocument db.toTrailDb documentId = some doc ↔ doc ∈ db.documents ∧ doc.id = documentId :=
  Table.find_eq_some_iff hids

theorem nextVersion_of_mem (hids : (db.documents.map Document.id).Nodup) (hdoc : doc ∈ db.documents) :
    nextVersion db (some doc.id) = doc.version+1 := by
  unfold nextVersion
  rw [Option.bind_some, (getDocument_eq_some_iff hids).mpr ⟨hdoc, rfl⟩]

theorem nextVersion_of_notMem {parentId : Uuid} (h : ∀ d ∈ db.documents, d.id ≠ parentId) :
    nextVersion db (some parentId) = 1 := by
  have hnone : getDocument db.toTrailDb parentId = none := Table.find_eq_none_iff.mpr h
  unfold nextVersion
  rw [Option.bind_some, hnone]

end

/-- A row that is added, with the document it goes to: its parent, or itself. -/
structure Adds (db db' : DocumentsDb) (row : Document) (targetId : Uuid) : Prop where
  documents : db'.documents = db.documents++[row]
  fresh : ∀ other ∈ db.documents, other.id ≠ row.id
  grows : Grows (Names db) (Names db') row.id targetId
  /-- It goes to itself with the first version, or to a document with the version after. -/
  version : (targetId = row.id ∧ row.version = 1) ∨
    ∃ parent ∈ db.documents, parent.id = targetId ∧ row.version = parent.version+1

section
variable {db db' : DocumentsDb} {doc row other : Document} {targetId : Uuid}

theorem adds_of_insertDocument (hok : VersionsOk db) {parentDocumentId : Option Uuid}
    (h : insertDocument db { doc with version := nextVersion db parentDocumentId }
      parentDocumentId = some (row, db')) : Adds db db' row (parentDocumentId.getD doc.id) := by
  obtain ⟨hid, -, hversion, hfresh, hdocuments, hparents, hkey⟩ := insertDocument_eq_some h
  dsimp only at hid hversion hfresh hparents
  rw [← hid] at hfresh hparents ⊢
  constructor
  · exact hdocuments
  · exact hfresh
  · constructor
    · intro a b hab
      unfold Names
      rw [hparents]
      exact List.mem_append_left _ hab
    · intro a b hab
      unfold Names at hab
      rw [hparents, List.mem_append] at hab
      rcases hab with hold | hnew
      · exact Or.inl hold
      · right
        cases parentDocumentId with
        | none => cases hnew
        | some parentId =>
          cases List.mem_singleton.mp hnew
          exact ⟨rfl, rfl⟩
    · intro hne
      unfold Names
      rw [hparents]
      cases parentDocumentId with
      | none => exact absurd rfl hne
      | some parentId => exact List.mem_append_right _ (List.mem_singleton_self _)
    · intro a b hab
      obtain ⟨ha, hb⟩ := hok.named a b hab
      exact ⟨Table.ne_of_fresh ha hfresh, Table.ne_of_fresh hb hfresh⟩
  · cases parentDocumentId with
    | none => exact Or.inl ⟨rfl, hversion⟩
    | some parentId =>
      rw [Option.getD_some]
      -- a parent that is not there yet can only be the new row itself
      by_cases hstored : ∃ parent ∈ db.documents, parent.id = parentId
      · obtain ⟨parent, hparent, rfl⟩ := hstored
        right
        exact ⟨parent, hparent, rfl, hversion.trans (nextVersion_of_mem hok.ids hparent)⟩
      · left
        have hnone : ∀ d ∈ db.documents, d.id ≠ parentId :=
          fun d hd hsame => hstored ⟨d, hd, hsame⟩
        obtain ⟨d, hd, hsame⟩ := List.mem_map.mp (hkey parentId rfl)
        rcases List.mem_append.mp hd with hold | hnew
        · exact absurd hsame (hnone d hold)
        · rw [List.mem_singleton.mp hnew] at hsame
          exact ⟨hsame.symm, hversion.trans (nextVersion_of_notMem hnone)⟩

theorem eq_of_id_eq (hids : (db.documents.map Document.id).Nodup) (hdoc : doc ∈ db.documents)
    (hother : other ∈ db.documents) (h : doc.id = other.id) : doc = other :=
  List.inj_on_of_nodup_map hids hdoc hother h

theorem Adds.mem_iff (h : Adds db db' row targetId) :
    doc ∈ db'.documents ↔ doc ∈ db.documents ∨ doc = row := by
  rw [h.documents, List.mem_append, List.mem_singleton]

/-- A row with an old key is an old row. -/
theorem Adds.mem_of_ne (h : Adds db db' row targetId) (hdoc : doc ∈ db'.documents)
    (hne : doc.id ≠ row.id) : doc ∈ db.documents := by
  rcases h.mem_iff.mp hdoc with hold | hnew
  · exact hold
  · rw [hnew] at hne
    exact absurd rfl hne

theorem Adds.eq_row (h : Adds db db' row targetId) (hdoc : doc ∈ db'.documents)
    (hid : doc.id = row.id) : doc = row := by
  rcases h.mem_iff.mp hdoc with hold | hnew
  · exact absurd hid (h.fresh doc hold)
  · exact hnew

theorem Adds.versionsOk (h : Adds db db' row targetId) (hok : VersionsOk db) : VersionsOk db' := by
  constructor
  · rw [h.documents]
    exact Table.nodup_append_singleton hok.ids h.fresh
  · intro a b hab
    rw [h.documents, List.map_append, List.map_singleton]
    rcases h.grows.adds a b hab with hold | ⟨rfl, rfl⟩
    · obtain ⟨ha, hb⟩ := hok.named a b hold
      exact ⟨List.mem_append_left _ ha, List.mem_append_left _ hb⟩
    · refine ⟨List.mem_append_right _ (List.mem_singleton_self _), ?_⟩
      rcases h.version with ⟨hself, -⟩ | ⟨parent, hparent, hid, -⟩
      · rw [hself]
        exact List.mem_append_right _ (List.mem_singleton_self _)
      · rw [← hid]
        exact List.mem_append_left _ (List.mem_map_of_mem hparent)
  -- the new row comes one after the parent that it continues
  · intro child hchild parent hparent hnames hne
    rcases h.grows.adds _ _ hnames with hold | ⟨hchildId, hparentId⟩
    · obtain ⟨hc, hp⟩ := h.grows.fresh _ _ hold
      exact hok.next child (h.mem_of_ne hchild hc) parent (h.mem_of_ne hparent hp) hold hne
    · rw [h.eq_row hchild hchildId]
      rcases h.version with ⟨hself, -⟩ | ⟨found, hfound, hfoundId, hversion⟩
      · rw [hchildId, hparentId, hself] at hne
        exact absurd rfl hne
      · have hold : parent ∈ db.documents := by
          apply h.mem_of_ne hparent
          rw [← hchildId]
          exact hne.symm
        rw [hversion, eq_of_id_eq hok.ids hold hfound (hparentId.trans hfoundId.symm)]
  -- and it is a first version, or has a parent
  · intro d hd
    rcases h.mem_iff.mp hd with hold | rfl
    · rcases hok.rooted d hold with hone | ⟨parent, hparent, hnames, hne⟩
      · exact Or.inl hone
      · right
        exact ⟨parent, h.mem_iff.mpr (Or.inl hparent), h.grows.keeps _ _ hnames, hne⟩
    · rcases h.version with ⟨-, hone⟩ | ⟨parent, hparent, hid, -⟩
      · exact Or.inl hone
      · right
        have hne : parent.id ≠ d.id := h.fresh parent hparent
        refine ⟨parent, h.mem_iff.mpr (Or.inl hparent), ?_, hne.symm⟩
        rw [hid]
        apply h.grows.names
        rw [← hid]
        exact hne

/-! Families. -/

theorem mem_family_self (hdoc : doc ∈ db.documents) : doc ∈ family db doc.id :=
  ⟨hdoc, .refl _⟩

theorem family_congr {a b : Uuid} (h : EqvGen (Names db) a b) : family db a = family db b := by
  ext d
  constructor
  · intro hd
    exact ⟨hd.1, .trans _ _ _ (.symm _ _ h) hd.2⟩
  · intro hd
    exact ⟨hd.1, .trans _ _ _ h hd.2⟩

theorem Adds.retract_of_mem (h : Adds db db' row targetId) (hdoc : doc ∈ db.documents) :
    retract row.id targetId doc.id = doc.id :=
  retract_of_ne targetId (h.fresh doc hdoc)

/-- The family of the new row is that of its target, and the row. -/
theorem Adds.family_row (h : Adds db db' row targetId) :
    family db' row.id = insert row (family db targetId) := by
  ext d
  rw [Set.mem_insert_iff]
  constructor
  · intro hd
    rcases h.mem_iff.mp hd.1 with hold | hnew
    · right
      have hconnected := h.grows.eqvGen_iff.mp hd.2
      rw [retract_self, h.retract_of_mem hold] at hconnected
      exact ⟨hold, hconnected⟩
    · exact Or.inl hnew
  · rintro (rfl | hd)
    · exact mem_family_self (h.mem_iff.mpr (Or.inr rfl))
    · refine ⟨h.mem_iff.mpr (Or.inl hd.1), ?_⟩
      rw [h.grows.eqvGen_iff, retract_self, h.retract_of_mem hd.1]
      exact hd.2

/-- A family that the row does not join. -/
theorem Adds.family_of_not (h : Adds db db' row targetId) (hdoc : doc ∈ db.documents)
    (hnot : ¬EqvGen (Names db') doc.id row.id) : family db' doc.id = family db doc.id := by
  ext d
  constructor
  · intro hd
    rcases h.mem_iff.mp hd.1 with hold | rfl
    · have hconnected := h.grows.eqvGen_iff.mp hd.2
      rw [h.retract_of_mem hdoc, h.retract_of_mem hold] at hconnected
      exact ⟨hold, hconnected⟩
    · exact absurd hd.2 hnot
  · intro hd
    refine ⟨h.mem_iff.mpr (Or.inl hd.1), ?_⟩
    rw [h.grows.eqvGen_iff, h.retract_of_mem hdoc, h.retract_of_mem hd.1]
    exact hd.2

/-- Nothing is connected with a key that is not there. -/
theorem Adds.family_empty (h : Adds db db' row targetId) (hself : targetId = row.id) :
    family db targetId = ∅ := by
  rw [Set.eq_empty_iff_forall_notMem]
  intro d hd
  have hconnected := hd.2
  rw [hself] at hconnected
  exact h.fresh d hd.1 ((eqvGen_fresh h.grows.fresh hconnected).mp rfl)

/-- The one after a document, in a linear family, names the document. -/
theorem LinearHistory.named_of_version (hlin : LinearHistory db) (hok : VersionsOk db)
    (hdoc : doc ∈ db.documents) (hother : other ∈ family db doc.id)
    (hversion : other.version = doc.version+1) : Names db other.id doc.id ∧ other.id ≠ doc.id := by
  obtain ⟨n, hn⟩ := (hlin doc hdoc).2
  have hpos : 1 ≤ doc.version := (hn.mapsTo (mem_family_self hdoc)).1
  rcases hok.rooted other hother.1 with hone | ⟨parent, hparent, hnames, hne⟩
  · omega
  · have hnext := hok.next other hother.1 parent hparent hnames hne
    have hmem : parent ∈ family db doc.id :=
      ⟨hparent, .trans _ _ _ hother.2 (.rel _ _ hnames)⟩
    have hsame : parent = doc := by
      apply hn.injOn hmem (mem_family_self hdoc)
      omega
    rw [hsame] at hnames hne
    exact ⟨hnames, hne⟩

/-- The family of a row that continues a history. -/
theorem Adds.linear_row (h : Adds db db' row targetId) (hlin : LinearHistory db) (hok : VersionsOk db)
    (hsucceeds : Succeeds db row.matterId targetId) :
    (∀ other ∈ family db' row.id, other.matterId = row.matterId) ∧
      Numbered Document.version (family db' row.id) := by
  rw [h.family_row]
  rcases h.version with ⟨hself, hone⟩ | ⟨parent, hparent, rfl, hversion⟩
  · rw [h.family_empty hself, insert_empty_eq]
    constructor
    · intro d hd
      rw [Set.mem_singleton_iff.mp hd]
    · exact numbered_singleton hone
  · obtain ⟨hmatter, hlast⟩ := hsucceeds parent hparent rfl
    obtain ⟨hsame, hnumbered⟩ := hlin parent hparent
    constructor
    · rintro d (rfl | hd)
      · rfl
      · rw [hsame d hd, hmatter]
    · apply hnumbered.insert (mem_family_self hparent) ?_ hversion
      intro d hd hnext
      obtain ⟨hnames, hne⟩ := hlin.named_of_version hok hparent hd hnext
      exact hne (hlast d.id hnames)

/-- The other families are as before, or the same as that of the row. -/
theorem Adds.linearHistory (h : Adds db db' row targetId) (hlin : LinearHistory db)
    (hok : VersionsOk db) (hsucceeds : Succeeds db row.matterId targetId) : LinearHistory db' := by
  have hrow := h.linear_row hlin hok hsucceeds
  intro d hd
  rcases h.mem_iff.mp hd with hold | rfl
  · by_cases hjoined : EqvGen (Names db') d.id row.id
    · rw [family_congr hjoined]
      have hmatter : d.matterId = row.matterId := by
        apply hrow.1 d
        exact ⟨hd, .symm _ _ hjoined⟩
      rw [hmatter]
      exact hrow
    · rw [h.family_of_not hold hjoined]
      exact hlin d hold
  · exact hrow

/-- A row that makes a linear history has continued one. -/
theorem Adds.succeeds (h : Adds db db' row targetId) (hok : VersionsOk db)
    (hlin : LinearHistory db') : Succeeds db row.matterId targetId := by
  intro parent hparent hid
  have hrow : row ∈ db'.documents := h.mem_iff.mpr (Or.inr rfl)
  obtain ⟨hmatter, n, hn⟩ := hlin row hrow
  have hne : targetId ≠ row.id := by
    rw [← hid]
    exact h.fresh parent hparent
  have hjoined : EqvGen (Names db') row.id targetId := .rel _ _ (h.grows.names hne)
  have hfamily : parent ∈ family db' row.id := by
    refine ⟨h.mem_iff.mpr (Or.inl hparent), ?_⟩
    rw [hid]
    exact hjoined
  refine ⟨hmatter parent hfamily, ?_⟩
  intro childId hnames
  by_contra hother
  obtain ⟨child, hchild, rfl⟩ := List.mem_map.mp (hok.named _ _ hnames).1
  -- the child would have the version of the row
  have hversion : child.version = row.version := by
    rcases h.version with ⟨hself, -⟩ | ⟨found, hfound, hfoundId, hfoundVersion⟩
    · exact absurd hself hne
    · rw [eq_of_id_eq hok.ids hfound hparent (hfoundId.trans hid.symm)] at hfoundVersion
      rw [← hid] at hnames hother
      rw [hok.next child hchild parent hparent hnames hother, hfoundVersion]
  have hmem : child ∈ family db' row.id := by
    refine ⟨h.mem_iff.mpr (Or.inl hchild), .trans _ _ _ hjoined ?_⟩
    exact .symm _ _ (.rel _ _ (h.grows.keeps _ _ hnames))
  have hsame : child = row := hn.injOn hmem (mem_family_self hrow) hversion
  exact h.fresh child hchild (congrArg Document.id hsame)

end

/-! Uploads. -/

/-- An upload leaves the tables as they are, or adds a row. -/
theorem upload_cases {s : Stores} (hok : VersionsOk s.1)
    (call : UploadServices × Uuid × UploadRequest) :
    (¬UploadCommits call.1 call.2.1 call.2.2 s.1 ∧ (settled (uploadHandle call) s).1 = s.1) ∨
    ∃ row, UploadCommits call.1 call.2.1 call.2.2 s.1 ∧ row.matterId = call.2.2.matterId ∧
      Adds s.1 (settled (uploadHandle call) s).1 row
        (call.2.2.parentDocumentId.getD call.1.documentId) ∧ row.id = call.1.documentId := by
  obtain ⟨sv, userId, body⟩ := call
  unfold uploadHandle
  rcases settled_upload_cases s sv userId body with
    ⟨hnot, hrun | hrun⟩ | ⟨row, db, hcommits, hinsert, hrun⟩
  · refine Or.inl ⟨hnot, ?_⟩
    rw [hrun]
  · refine Or.inl ⟨hnot, ?_⟩
    rw [hrun]
  · right
    obtain ⟨hid, hmatter, -⟩ := insertDocument_eq_some hinsert
    refine ⟨row, hcommits, hmatter, ?_, hid⟩
    rw [hrun]
    exact adds_of_insertDocument hok hinsert

theorem versionsOk_upload {s : Stores} (hok : VersionsOk s.1)
    (call : UploadServices × Uuid × UploadRequest) : VersionsOk (settled (uploadHandle call) s).1 := by
  rcases upload_cases hok call with ⟨-, hsame⟩ | ⟨row, -, -, hadds, -⟩
  · rw [hsame]
    exact hok
  · exact hadds.versionsOk hok

/-- One upload keeps the histories linear if and only if it continues one, or begins one. -/
theorem linearHistory_upload_iff {s : Stores} (hok : VersionsOk s.1) (hlin : LinearHistory s.1)
    (call : UploadServices × Uuid × UploadRequest) :
    LinearHistory (settled (uploadHandle call) s).1 ↔ UploadSucceeds s call := by
  rcases upload_cases hok call with ⟨hnot, hsame⟩ | ⟨row, hcommits, hmatter, hadds, hid⟩
  · rw [hsame]
    exact iff_of_true hlin fun hcommits => absurd hcommits hnot
  · constructor
    · intro hlin' _ parentId hparent
      have hsucceeds := hadds.succeeds hok hlin'
      rw [hparent, Option.getD_some, hmatter] at hsucceeds
      exact hsucceeds
    · intro hsucceeds
      apply hadds.linearHistory hlin hok
      rw [hmatter]
      cases hparent : call.2.2.parentDocumentId with
      | some parentId => exact hsucceeds hcommits parentId hparent
      | none =>
        -- nobody has the key of the row yet
        intro parent hmem hsame
        have hfresh := hadds.fresh parent hmem
        rw [hid] at hfresh
        exact absurd hsame hfresh

theorem versionsOk_empty {db : DocumentsDb} (hdocuments : db.documents = [])
    (hparents : db.parents = []) : VersionsOk db := by
  constructor
  · rw [hdocuments]
    exact List.nodup_nil
  · intro a b hab
    unfold Names at hab
    rw [hparents] at hab
    cases hab
  · intro child hchild
    rw [hdocuments] at hchild
    cases hchild
  · intro d hd
    rw [hdocuments] at hd
    cases hd

/-- From tables without documents on, the histories stay linear through a run of uploads if and only
if every upload that is committed continues the history of its parent or begins a new one. -/
theorem linearHistory_throughout_iff {s : Stores} (hdocuments : s.1.documents = [])
    (hparents : s.1.parents = []) (calls : List (UploadServices × Uuid × UploadRequest)) :
    Throughout (serveBoth uploadHandle) (fun s => LinearHistory s.1) s calls ↔
      Along (serveBoth uploadHandle) (fun s call _ => UploadSucceeds s call) s calls := by
  have hlin : LinearHistory s.1 := by
    intro d hd
    rw [hdocuments] at hd
    cases hd
  rw [throughout_iff_along (I := fun s => VersionsOk s.1) ?_ ?_ (versionsOk_empty hdocuments hparents)]
  · exact and_iff_right hlin
  · intro s call t hok hstep
    rw [← Option.some.inj hstep]
    exact versionsOk_upload hok call
  · intro s call t hok hlin hstep
    rw [← Option.some.inj hstep]
    exact linearHistory_upload_iff hok hlin call

/-- The same document gets a second version twice. -/
def twiceContinued : List (UploadServices × Uuid × UploadRequest) :=
  [(plainUpload 11, 1, { matterId := 3, content := [] }),
    (plainUpload 12, 1, { matterId := 3, content := [], parentDocumentId := some 11 }),
    (plainUpload 13, 1, { matterId := 3, content := [], parentDocumentId := some 11 })]

theorem not_linearHistory_twiceContinued :
    ¬Throughout (serveBoth uploadHandle) (fun s => LinearHistory s.1) oneMatter twiceContinued := by
  intro h
  obtain ⟨s, hrun⟩ : ∃ s, exec (serveBoth uploadHandle) oneMatter twiceContinued = some s := ⟨_, rfl⟩
  have hview : (exec (serveBoth uploadHandle) oneMatter twiceContinued).map
      (fun s => (s.1.documents.map fun doc => (doc.id, doc.version), s.1.parents)) =
        some ([(11, 1), (12, 2), (13, 2)], [⟨12, 11⟩, ⟨13, 11⟩]) := by
    decide +kernel
  rw [hrun, Option.map_some, Option.some.injEq, Prod.mk.injEq] at hview
  obtain ⟨hdocuments, hparents⟩ := hview
  obtain ⟨first, rest, hcons, -, hrest⟩ := List.map_eq_cons_iff.mp hdocuments
  obtain ⟨second, rest', rfl, hsecond, hrest'⟩ := List.map_eq_cons_iff.mp hrest
  obtain ⟨third, tail, rfl, hthird, -⟩ := List.map_eq_cons_iff.mp hrest'
  obtain ⟨hid, hversion⟩ := Prod.mk.inj hsecond
  obtain ⟨hid', hversion'⟩ := Prod.mk.inj hthird
  have hmem : second ∈ s.1.documents := by simp [hcons]
  have hmem' : third ∈ s.1.documents := by simp [hcons]
  -- both are connected with the first version
  have hnames : Names s.1 second.id 11 := by simp [Names, hparents, hid]
  have hnames' : Names s.1 third.id 11 := by simp [Names, hparents, hid']
  have hfamily : third ∈ family s.1 second.id :=
    ⟨hmem', (EqvGen.rel _ _ hnames).trans _ _ _ (EqvGen.rel _ _ hnames').symm⟩
  obtain ⟨n, hbij⟩ := (h.final hrun second hmem).2
  have hsame := hbij.injOn ⟨hmem, EqvGen.refl _⟩ hfamily (hversion.trans hversion'.symm)
  rw [hsame, hid'] at hid
  cases hid

theorem linearHistory_throughout_iff_twiceContinued :
    Throughout (serveBoth uploadHandle) (fun s => LinearHistory s.1) oneMatter twiceContinued ↔
      Along (serveBoth uploadHandle) (fun s call _ => UploadSucceeds s call) oneMatter twiceContinued :=
  linearHistory_throughout_iff rfl rfl twiceContinued

end LegalForge.Documents
