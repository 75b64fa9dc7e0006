import LegalForge.AccessControl
import LegalForge.DocumentStorage
import LegalForge.SignatureHistory

/-! No document loses its content. The object store is changed at once, the tables when the
session commits. -/
namespace LegalForge.Documents
open Auth Matters Esign UnitOfWork Transition

/-- The row of an upload is to be committed. -/
def UploadCommits (sv : UploadServices) (userId : Uuid) (body : UploadRequest) (db : DocumentsDb) :
    Prop :=
  body.content.length ≤ maxUploadSize ∧ sv.put = .stored ∧ sv.finished = true ∧
    (insertDocument db
      { uploadedDocument sv userId body with version := nextVersion db body.parentDocumentId }
      body.parentDocumentId).isSome

/-- The column holds the whole key, or what it holds of it is the key of some object. -/
def KeyFits (objects : Objects) (storageKey : String) : Prop :=
  ∀ text, varchar 1000 storageKey = some text → text = storageKey ∨ objects text ≠ none

/-- The object of a document is taken away with its row, and only if no other row needs it. -/
def RemovesWhole (sv : DeleteServices) (s : Stores) (doc : Document) : Prop :=
  (isReferenced s.1 doc.id = false ∧ sv.finished = true) ∧
    ∀ other ∈ s.1.documents, other.id ≠ doc.id → other.storageKey ≠ doc.storageKey

/-- What a request must meet so that no document loses its content. -/
def KeepsContent (s : Stores) : DocumentCall → Prop
  | .upload sv userId body => UploadCommits sv userId body s.1 →
    KeyFits s.2 (uploadedDocument sv userId body).storageKey
  | .delete sv documentId => ∀ doc, getDocument s.1.toTrailDb documentId = some doc →
    sv.remove = .called true → RemovesWhole sv s doc
  | _ => True

section
variable {db db' : DocumentsDb} {objects : Objects}

theorem insertDocument_spec {doc row : Document} {parentDocumentId : Option Uuid}
    (h : insertDocument db doc parentDocumentId = some (row, db')) :
    varchar 1000 doc.storageKey = some row.storageKey ∧
      db'.documents = db.documents++[row] := by
  unfold insertDocument at h
  simp only [Option.bind_eq_bind, Option.bind_eq_some_iff] at h
  obtain ⟨_, -, storageKey, hkey, _, -, _, -, _, -, _, -, rows, hinsert, h⟩ := h
  split_ifs at h
  obtain ⟨rfl, rfl⟩ := Prod.mk.inj (Option.some.inj h)
  obtain ⟨-, rfl⟩ := Table.insert_eq_some_iff.mp hinsert
  exact ⟨hkey, rfl⟩

theorem putObject_ne_none {storageKey text : String} {content : List UInt8} :
    putObject objects storageKey content text ≠ none ↔ text = storageKey ∨ objects text ≠ none := by
  unfold putObject
  by_cases heq : text = storageKey
  · simp [heq]
  · rw [Function.update_of_ne heq]
    exact (or_iff_right heq).symm

theorem removeObject_ne_none {storageKey text : String} :
    removeObject objects storageKey text ≠ none ↔ text ≠ storageKey ∧ objects text ≠ none := by
  unfold removeObject
  by_cases heq : text = storageKey
  · simp [heq]
  · rw [Function.update_of_ne heq]
    exact (and_iff_right heq).symm

/-- More objects do no harm. -/
theorem AllStored.put {s : Stores} (hs : AllStored s) (storageKey : String)
    (content : List UInt8) : AllStored (s.1, putObject s.2 storageKey content) :=
  fun doc hdoc => putObject_ne_none.mpr (Or.inr (hs doc hdoc))

end

/-- A new row has its content exactly when the store knows the key that the column holds. -/
theorem allStored_insert_iff {s : Stores} (hs : AllStored s) {doc row : Document}
    {db : DocumentsDb} {content : List UInt8} {parentDocumentId : Option Uuid}
    (h : insertDocument s.1 doc parentDocumentId = some (row, db)) :
    AllStored (db, putObject s.2 doc.storageKey content) ↔ KeyFits s.2 doc.storageKey := by
  obtain ⟨hkey, hdocuments⟩ := insertDocument_spec h
  constructor
  · intro hall text htext
    obtain rfl := Option.some.inj (hkey.symm.trans htext)
    have hmem : row ∈ db.documents := hdocuments ▸ List.mem_append_right _ (List.mem_singleton_self row)
    exact putObject_ne_none.mp (hall row hmem)
  · intro hfits d hd
    have hd : d ∈ db.documents := hd
    rw [hdocuments, List.mem_append, List.mem_singleton] at hd
    rcases hd with hold | rfl
    · exact hs.put doc.storageKey content d hold
    · exact putObject_ne_none.mpr (hfits _ hkey)

/-- The service fails, with or without the object in the store, or it has stored both. -/
theorem uploadDocument_cases (sv : UploadServices) (s : Stores) (doc : Document) (content : List UInt8)
    (parentDocumentId : Option Uuid) :
    (¬(sv.put = .stored ∧ (insertDocument s.1
        { doc with version := nextVersion s.1 parentDocumentId } parentDocumentId).isSome) ∧
      ∃ objects, (objects = s.2 ∨ objects = putObject s.2 doc.storageKey content) ∧
        uploadDocument sv s doc content parentDocumentId = (.error .internal, (s.1, objects))) ∨
    ∃ row db, sv.put = .stored ∧ insertDocument s.1
        { doc with version := nextVersion s.1 parentDocumentId } parentDocumentId = some (row, db) ∧
      uploadDocument sv s doc content parentDocumentId =
        (.ok row, (db, putObject s.2 doc.storageKey content)) := by
  cases hput : sv.put with
  | raised stored =>
    left
    refine ⟨by simp, _, ?_, by simp only [uploadDocument, hput]; rfl⟩
    cases stored with
    | false => exact Or.inl (if_neg Bool.false_ne_true)
    | true => exact Or.inr (if_pos rfl)
  | stored =>
    cases hinsert : insertDocument s.1
        { doc with version := nextVersion s.1 parentDocumentId } parentDocumentId with
    | none =>
      left
      refine ⟨by simp, putObject s.2 doc.storageKey content, Or.inr rfl, ?_⟩
      simp only [uploadDocument, hput]
      rw [hinsert]
    | some stored =>
      right
      refine ⟨stored.1, stored.2, rfl, rfl, ?_⟩
      simp only [uploadDocument, hput]
      rw [hinsert]

/-- An upload is rolled back, with or without its object in the store, or it is committed. -/
theorem settled_upload_cases (s : Stores) (sv : UploadServices) (userId : Uuid) (body : UploadRequest) :
    (¬UploadCommits sv userId body s.1 ∧
      (settled (uploadNewDocument sv userId body) s = s ∨
        settled (uploadNewDocument sv userId body) s =
          (s.1, putObject s.2 (uploadedDocument sv userId body).storageKey body.content))) ∨
    ∃ row db, UploadCommits sv userId body s.1 ∧
      insertDocument s.1
        { uploadedDocument sv userId body with version := nextVersion s.1 body.parentDocumentId }
        body.parentDocumentId = some (row, db) ∧
      settled (uploadNewDocument sv userId body) s =
        (db, putObject s.2 (uploadedDocument sv userId body).storageKey body.content) := by
  by_cases hsize : maxUploadSize < body.content.length
  · have hrun : uploadNewDocument sv userId body s = (.error fileTooLarge, s) := if_pos hsize
    exact Or.inl ⟨fun hcommits => absurd hcommits.1 hsize.not_ge, Or.inl (settled_of_error hrun)⟩
  -- the object is put before the row is inserted
  rcases uploadDocument_cases sv s (uploadedDocument sv userId body) body.content
    body.parentDocumentId with ⟨hnot, objects, hobjects, hupload⟩ | ⟨row, db, hput, hinsert, hupload⟩
  · left
    have hrun : uploadNewDocument sv userId body s = (.error .internal, (s.1, objects)) := by
      simp only [uploadNewDocument, if_neg hsize, hupload]
    refine ⟨fun hcommits => hnot ⟨hcommits.2.1, hcommits.2.2.2⟩, ?_⟩
    rw [settled_of_error hrun]
    rcases hobjects with rfl | rfl
    · exact Or.inl rfl
    · exact Or.inr rfl
  · cases hfinished : sv.finished with
    | false =>
      left
      have hrun : uploadNewDocument sv userId body s = (.error .internal,
          (db, putObject s.2 (uploadedDocument sv userId body).storageKey body.content)) := by
        simp only [uploadNewDocument, if_neg hsize, hupload, hfinished, Bool.false_eq_true, if_false]
      refine ⟨?_, Or.inr (settled_of_error hrun)⟩
      intro hcommits
      cases hfinished.symm.trans hcommits.2.2.1
    | true =>
      right
      have hrun : uploadNewDocument sv userId body s =
          (.ok (.uploaded row.id row.filename row.sizeBytes row.version),
            (db, putObject s.2 (uploadedDocument sv userId body).storageKey body.content)) := by
        simp only [uploadNewDocument, if_neg hsize, hupload, hfinished, if_true]
      refine ⟨row, db, ⟨not_lt.mp hsize, hput, hfinished, ?_⟩, hinsert, settled_of_ok hrun⟩
      rw [hinsert]
      rfl

theorem allStored_upload_iff {s : Stores} (hs : AllStored s) (sv : UploadServices) (userId : Uuid)
    (body : UploadRequest) : AllStored (settled (uploadNewDocument sv userId body) s) ↔
      KeepsContent s (.upload sv userId body) := by
  rcases settled_upload_cases s sv userId body with
    ⟨hnot, hrun | hrun⟩ | ⟨row, db, hcommits, hinsert, hrun⟩
  · rw [hrun]
    exact iff_of_true hs fun hcommits => absurd hcommits hnot
  · rw [hrun]
    exact iff_of_true (hs.put _ _) fun hcommits => absurd hcommits hnot
  · rw [hrun]
    refine (allStored_insert_iff hs hinsert).trans ?_
    exact ⟨fun hfits _ => hfits, fun hkeeps => hkeeps hcommits⟩

/-- The tables without a document. -/
def withoutDocument (db : DocumentsDb) (documentId : Uuid) : DocumentsDb :=
  { db with
    documents := Table.remove Document.id documentId db.documents
    parents := Table.remove DocumentParent.documentId documentId db.parents }

/-- The deletion is committed: nothing refers to the document, and nothing raises after that. -/
def deletes (sv : DeleteServices) (db : DocumentsDb) (documentId : Uuid) : Bool :=
  !isReferenced db documentId && sv.finished

/-- The row is deleted or not, and the object, in any case, is what the store has made of it. -/
theorem settled_delete {s : Stores} {sv : DeleteServices} {documentId : Uuid} {doc : Document}
    {gone : Bool} (hfind : getDocument s.1.toTrailDb documentId = some doc)
    (hremove : sv.remove = .called gone) :
    settled (deleteExistingDocument sv documentId) s =
      (if deletes sv s.1 documentId then withoutDocument s.1 documentId else s.1,
        if gone then removeObject s.2 doc.storageKey else s.2) := by
  obtain rfl : doc.id = documentId := Table.key_of_find hfind
  cases hreferenced : isReferenced s.1 doc.id with
  | true =>
    have hrun : deleteExistingDocument sv doc.id s =
        (.error .internal, (s.1, if gone then removeObject s.2 doc.storageKey else s.2)) := by
      simp only [deleteExistingDocument, hfind, deleteDocument, hremove, deleteRow, hreferenced,
        if_true]
    rw [settled_of_error hrun, deletes, hreferenced]
    rfl
  | false =>
    cases hfinished : sv.finished with
    | false =>
      have hrun : deleteExistingDocument sv doc.id s = (.error .internal,
          (withoutDocument s.1 doc.id, if gone then removeObject s.2 doc.storageKey else s.2)) := by
        simp only [deleteExistingDocument, hfind, deleteDocument, hremove, deleteRow, hreferenced,
          hfinished, Bool.false_eq_true, if_false]
        rfl
      rw [settled_of_error hrun, deletes, hfinished, Bool.and_false]
      rfl
    | true =>
      have hrun : deleteExistingDocument sv doc.id s = (.ok .deleted,
          (withoutDocument s.1 doc.id, if gone then removeObject s.2 doc.storageKey else s.2)) := by
        simp only [deleteExistingDocument, hfind, deleteDocument, hremove, deleteRow, hreferenced,
          hfinished, Bool.false_eq_true, if_false, if_true]
        rfl
      rw [settled_of_ok hrun, deletes, hreferenced, hfinished]
      rfl

/-- Fewer rows do no harm. -/
theorem AllStored.withoutDocument {s : Stores} (hs : AllStored s) (documentId : Uuid) :
    AllStored (withoutDocument s.1 documentId, s.2) :=
  fun doc hdoc => hs doc (List.mem_of_mem_filter hdoc)

/-- The row is still there without its object. -/
theorem not_allStored_removeObject {s : Stores} {doc : Document} (hmem : doc ∈ s.1.documents) :
    ¬AllStored (s.1, removeObject s.2 doc.storageKey) :=
  fun hall => (removeObject_ne_none.mp (hall doc hmem)).1 rfl

theorem allStored_withoutDocument_iff {s : Stores} (hs : AllStored s) (doc : Document) :
    AllStored (withoutDocument s.1 doc.id, removeObject s.2 doc.storageKey) ↔
      ∀ other ∈ s.1.documents, other.id ≠ doc.id → other.storageKey ≠ doc.storageKey := by
  constructor
  · intro hall other hother hne
    have hmem : other ∈ Table.remove Document.id doc.id s.1.documents :=
      List.mem_filter.mpr ⟨hother, decide_eq_true hne⟩
    exact (removeObject_ne_none.mp (hall other hmem)).1
  · intro hkeys other hother
    obtain ⟨hmem, hne⟩ := List.mem_filter.mp hother
    exact removeObject_ne_none.mpr ⟨hkeys other hmem (of_decide_eq_true hne), hs other hmem⟩

theorem allStored_delete_iff {s : Stores} (hs : AllStored s) (sv : DeleteServices)
    (documentId : Uuid) : AllStored (settled (deleteExistingDocument sv documentId) s) ↔
      KeepsContent s (.delete sv documentId) := by
  rcases hfind : getDocument s.1.toTrailDb documentId with _ | doc
  · have hrun : deleteExistingDocument sv documentId s = (.error documentNotFound, s) := by
      simp only [deleteExistingDocument, hfind]
    rw [settled_of_error hrun]
    refine iff_of_true hs fun doc hdoc => ?_
    cases hfind.symm.trans hdoc
  obtain rfl : doc.id = documentId := Table.key_of_find hfind
  cases hremove : sv.remove with
  -- without a client of the store nothing is deleted
  | noClient =>
    have hrun : deleteExistingDocument sv doc.id s = (.error .internal, s) := by
      simp only [deleteExistingDocument, hfind, deleteDocument, hremove]
    rw [settled_of_error hrun]
    refine iff_of_true hs fun other _ hcalled => ?_
    cases hremove.symm.trans hcalled
  | called gone =>
    rw [settled_delete hfind hremove]
    cases gone with
    -- the object stays, whatever becomes of the row
    | false =>
      refine iff_of_true ?_ fun other _ hcalled => ?_
      · cases deletes sv s.1 doc.id with
        | false => exact hs
        | true => exact hs.withoutDocument doc.id
      · cases hremove.symm.trans hcalled
    -- the object is gone, and the row has to go with it
    | true =>
      have hkeeps : KeepsContent s (.delete sv doc.id) ↔ RemovesWhole sv s doc := by
        constructor
        · exact fun h => h doc hfind hremove
        · intro h other hother _
          obtain rfl : doc = other := Option.some.inj (hfind.symm.trans hother)
          exact h
      have hdeletes : deletes sv s.1 doc.id = true ↔
          isReferenced s.1 doc.id = false ∧ sv.finished = true := by
        rw [deletes, Bool.and_eq_true, Bool.not_eq_true']
      rw [hkeeps, RemovesWhole, ← hdeletes, if_pos rfl]
      cases hcommits : deletes sv s.1 doc.id with
      | false =>
        refine iff_of_false (not_allStored_removeObject (Table.mem_of_find hfind)) ?_
        exact fun h => Bool.false_ne_true h.1
      | true => exact (allStored_withoutDocument_iff hs doc).trans (and_iff_right rfl).symm

/-! Requests for signatures leave the documents. -/

theorem insertSigners_documents {env : Environment} {data : List SignerCreate} {i : ℕ}
    {db db' : TrailDb} (h : insertSigners env data i db = some db') :
    db'.documents = db.documents := by
  induction data generalizing i db with
  | nil => exact congrArg TrailDb.documents (Option.some.inj h).symm
  | cons d data ih =>
    unfold insertSigners at h
    simp only [Option.bind_eq_bind, Option.bind_eq_some_iff] at h
    obtain ⟨_, -, _, -, _, -, _, -, db₁, hsigner, hrest⟩ := h
    obtain ⟨-, rfl⟩ := insertSigner_spec hsigner
    have hkept := ih hrest
    exact hkept

theorem createSignatureRequest_documents {env : Environment} {db db' : TrailDb}
    {data : SignatureRequestCreate} {createdBy : Uuid} {request : SignatureRequest}
    (h : createSignatureRequest env db data createdBy = some (request, db')) :
    db'.documents = db.documents := by
  unfold createSignatureRequest at h
  simp only [Option.bind_eq_bind, Option.bind_eq_some_iff] at h
  obtain ⟨_, -, _, -, db₁, hrequest, db₂, horigin, db₃, hsigners, db₄, hentry, h⟩ := h
  obtain ⟨-, rfl⟩ := Prod.mk.inj (Option.some.inj h)
  obtain ⟨-, rfl⟩ := insertRequest_spec hrequest
  obtain rfl := insertOrigin_spec horigin
  obtain ⟨_, _, _, -, -, -, rfl⟩ := insertEntry_spec hentry
  have hkept := insertSigners_documents hsigners
  exact hkept

theorem esignHandle_create_documents {env : Environment} {db db' : TrailDb}
    {data : SignatureRequestCreate} {createdBy : Uuid} {response : TrailResponse}
    (h : esignHandle (env, .create data createdBy) db = (.ok response, db')) :
    db'.documents = db.documents := by
  obtain ⟨request, hresult⟩ := respondWith_eq_ok h
  exact createSignatureRequest_documents (flushed_eq_ok (andLog_eq_ok hresult))

theorem allStored_createRequest {s : Stores} (hs : AllStored s) (env : Environment)
    (data : SignatureRequestCreate) (createdBy : Uuid) :
    AllStored (settled (createRequest env data createdBy) s) := by
  rcases hresult : esignHandle (env, .create data createdBy) s.1.toTrailDb with ⟨error | response, db⟩
  · have hrun : createRequest env data createdBy s =
        (.error error, ({ s.1 with toTrailDb := db }, s.2)) := by
      simp only [createRequest, hresult]
      rfl
    rw [settled_of_error hrun]
    exact hs
  · have hrun : createRequest env data createdBy s =
        (.ok (.request response), ({ s.1 with toTrailDb := db }, s.2)) := by
      simp only [createRequest, hresult]
      rfl
    rw [settled_of_ok hrun]
    intro doc hdoc
    have hmem : doc ∈ db.documents := hdoc
    rw [esignHandle_create_documents hresult] at hmem
    exact hs doc hmem

theorem allStored_referTo {s : Stores} (hs : AllStored s) (documentIds : List Uuid) :
    AllStored (settled (referTo documentIds) s) := by
  by_cases hfound : ∀ id ∈ documentIds, (Table.find Document.id id s.1.documents).isSome
  · have hrun : referTo documentIds s = (.ok .referred, ({ s.1 with references := documentIds }, s.2)) :=
      if_pos hfound
    rw [settled_of_ok hrun]
    exact hs
  · have hrun : referTo documentIds s = (.error .internal, s) := if_neg hfound
    rw [settled_of_error hrun]
    exact hs

theorem allStored_step_iff {s t : Stores} {call : DocumentCall} (hs : AllStored s)
    (hstep : serveBoth documentsHandle s call = some t) : AllStored t ↔ KeepsContent s call := by
  obtain rfl := Option.some.inj hstep
  cases call with
  | upload sv userId body => exact allStored_upload_iff hs sv userId body
  | delete sv documentId => exact allStored_delete_iff hs sv documentId
  | createRequest env data createdBy =>
    exact iff_of_true (allStored_createRequest hs env data createdBy) trivial
  | refer documentIds => exact iff_of_true (allStored_referTo hs documentIds) trivial

/-- No document has been uploaded yet. -/
def noDocuments (users : List Uuid) (matters : List Matter) (objects : Objects) : Stores :=
  ({ noRequests [] matters with users := users }, objects)

/-- From the start, every document has its content in every state of a run exactly when the
key of every upload fits its column, and every object is removed with its row only. -/
theorem allStored_throughout_iff (users : List Uuid) (matters : List Matter) (objects : Objects)
    (calls : List DocumentCall) :
    Throughout (serveBoth documentsHandle) AllStored (noDocuments users matters objects) calls ↔
      Along (serveBoth documentsHandle) (fun s call _ => KeepsContent s call)
        (noDocuments users matters objects) calls := by
  have hstart : AllStored (noDocuments users matters objects) := by
    intro doc hdoc
    cases hdoc
  rw [throughout_iff_along (I := fun _ => True) (fun _ _ _ _ _ => trivial)
    (fun s call t _ hs hstep => allStored_step_iff hs hstep) trivial calls]
  exact and_iff_right hstart

def plainUpload (documentId : Uuid) : UploadServices where
  documentId := documentId
  objectId := documentId
  put := .stored
  finished := true

/-- A document with a second version is to be deleted. -/
def deleteOfParent : List DocumentCall :=
  [.upload (plainUpload 4) 1 { matterId := 3, content := [] },
    .upload (plainUpload 5) 1 { matterId := 3, content := [], parentDocumentId := some 4 },
    .delete ⟨.called true, true⟩ 4]

def oneMatter : Stores :=
  noDocuments [1] [Access.openMatter] fun _ => none

/-- The row of the document stays, its object is gone. -/
theorem not_allStored_deleteOfParent :
    ¬Throughout (serveBoth documentsHandle) AllStored oneMatter deleteOfParent := by
  intro h
  obtain ⟨s, hrun⟩ : ∃ s, exec (serveBoth documentsHandle) oneMatter deleteOfParent = some s :=
    ⟨_, rfl⟩
  have hview : (exec (serveBoth documentsHandle) oneMatter deleteOfParent).map
      (fun s => s.1.documents.map fun doc => (s.2 doc.storageKey).isNone) = some [true, false] := by
    decide +kernel
  rw [hrun, Option.map_some, Option.some.injEq] at hview
  obtain ⟨doc, rest, hdocuments, hgone, -⟩ := List.map_eq_cons_iff.mp hview
  have hmem : doc ∈ s.1.documents := hdocuments ▸ List.mem_cons_self
  exact h.final hrun doc hmem (Option.isNone_iff_eq_none.mp hgone)

end LegalForge.Documents
