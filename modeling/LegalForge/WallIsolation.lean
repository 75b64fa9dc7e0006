import LegalForge.Noninterference
import LegalForge.Paging
import LegalForge.StaffReads

/-! What a user behind an ethical wall learns of the matter on the other side. -/
namespace LegalForge.StaffReads
open Auth Matters Access Billing Noninterference
open Portal (SharedDocument Message getMessages getSharedDocumentsStaff sharedDocumentItem listPage)

/-- An active wall stands between a matter and a user who is no administrator. -/
structure Walled (user : User) (matterId : Uuid) (db : FirmDb) : Prop where
  user_mem : user ∈ db.users
  active : user.isActive = true
  role_ne : user.role ≠ .admin
  wall : ∃ w ∈ db.walls, w.matterId = matterId ∧ w.userId = user.id ∧ w.isActive = true

/-- The states differ only in rows that belong to the matter. -/
structure AgreeOutside (matterId : Uuid) (db db' : FirmDb) : Prop where
  users : db.users = db'.users
  clientUsers : db.clientUsers = db'.clientUsers
  matters : db.matters = db'.matters
  walls : db.walls = db'.walls
  documents : db.documents.filter (fun d => d.matterId ≠ matterId) =
    db'.documents.filter (fun d => d.matterId ≠ matterId)
  sharedDocuments : db.sharedDocuments.filter (fun sd => sd.matterId ≠ matterId) =
    db'.sharedDocuments.filter (fun sd => sd.matterId ≠ matterId)
  messages : db.messages.filter (fun msg => msg.matterId ≠ matterId) =
    db'.messages.filter (fun msg => msg.matterId ≠ matterId)
  timeEntries : db.timeEntries.filter (fun e => e.matterId ≠ matterId) =
    db'.timeEntries.filter (fun e => e.matterId ≠ matterId)
  invoices : db.invoices.filter (fun inv => inv.matterId ≠ matterId) =
    db'.invoices.filter (fun inv => inv.matterId ≠ matterId)

theorem AgreeOutside.refl (matterId : Uuid) (db : FirmDb) : AgreeOutside matterId db db :=
  ⟨rfl, rfl, rfl, rfl, rfl, rfl, rfl, rfl, rfl⟩

/-- The request of the user tells nothing of the matter behind the wall. -/
def Hides (like : String → String → Bool) (presigned : String → String) (user : User)
    (matterId : Uuid) (request : ReadRequest) : Prop :=
  ∀ db db', Stored db → Stored db' → Walled user matterId db → AgreeOutside matterId db db' →
    read like presigned db user request = read like presigned db' user request

/-- The filter asks for another matter. -/
def OtherMatter (matterId : Uuid) (wanted : Option Uuid) : Prop :=
  ∃ other, wanted = some other ∧ other ≠ matterId

/-- The search term is refused, or no filename meets it. -/
def FindsNothing (like : String → String → Bool) (search : Option String) : Prop :=
  ∀ pattern, searchPattern search = .ok pattern → ∀ filename : String, filename.length ≤ 500 →
    '\x00' ∉ filename.toList → matchesPattern like filename pattern = false

/-- No day lies between the dates of the filter. -/
def NoDay (q : TimeEntryFilters) : Prop :=
  ∃ start, q.startDate = some start ∧ ∃ last, q.endDate = some last ∧ last < start

/-- The request passes the check of the wall, is refused, or leaves the rows of the matter out. -/
def LeavesOut (like : String → String → Bool) (matterId : Uuid) : ReadRequest → Prop
  | .matterDetail _ => True
  | .listDocuments wanted page pageSize search =>
    BadPage page pageSize ∨ OtherMatter matterId wanted ∨ FindsNothing like search
  | .documentDetail _ => False
  | .downloadDocument _ => False
  | .listSharedDocuments wanted page pageSize =>
    BadPage page pageSize ∨ wanted ≠ matterId ∧ (pageSize = 0 ∨ 2^128 ≤ (page-1)*pageSize)
  | .getMessages wanted page pageSize => BadPage page pageSize ∨ wanted ≠ matterId
  | .listTimeEntries page pageSize q =>
    BadPage page pageSize ∨ OtherMatter matterId q.matterId ∨ NoDay q
  | .listInvoices page pageSize q => BadPage page pageSize ∨ OtherMatter matterId q.matterId

section
variable {α β : Type} {order : α → α → Bool} {item : α → Except HttpError β} {page pageSize : ℤ}
  {rows : List α}

/-- The pages of the portal are made like those of the lists. -/
theorem listPage_eq (f : α → β) (rows : List α) : listPage order f page pageSize rows =
    respondPage (fun x => .ok (f x)) page pageSize (selectPage order page pageSize rows) := by
  unfold selectPage
  by_cases hpage : BadPage page pageSize
  · rw [if_pos hpage, respondPage]
    exact if_pos hpage
  · rw [if_neg hpage]
    simp only [respondPage, Paging.mapM_ok]
    exact if_neg hpage

theorem respondPage_badPage (hpage : BadPage page pageSize) :
    respondPage item page pageSize (selectPage order page pageSize rows) = .error .internal := by
  rw [selectPage, if_pos hpage, respondPage]

theorem respondPage_nil (hpage : ¬BadPage page pageSize) :
    respondPage item page pageSize (selectPage order page pageSize []) =
      .ok ⟨[], 0, page, pageSize, 0⟩ := by
  rw [selectPage, if_neg hpage]
  simp only [List.mergeSort_nil, List.drop_nil, List.take_nil, respondPage, List.mapM_nil]
  rfl

theorem total_of_paginated {items : List β} {total : ℕ} {response : PaginatedResponse β}
    (h : paginated items total page pageSize = .ok response) : response.total = total := by
  unfold paginated at h
  split_ifs at h
  all_goals
    obtain rfl := Except.ok.inj h
    rfl

theorem total_of_respondPage {response : PaginatedResponse β}
    (h : respondPage item page pageSize (selectPage order page pageSize rows) = .ok response) :
    response.total = rows.length := by
  unfold selectPage at h
  split_ifs at h
  · cases h
  · rw [respondPage] at h
    split at h
    · cases h
    · exact total_of_paginated h

/-- The total tells an empty list from one with a row. -/
theorem respondPage_ne (hpage : ¬BadPage page pageSize) (x : α) :
    respondPage item page pageSize (selectPage order page pageSize []) ≠
      respondPage item page pageSize (selectPage order page pageSize [x]) := by
  intro h
  rw [respondPage_nil hpage] at h
  have htotal := total_of_respondPage h.symm
  exact absurd htotal Nat.zero_ne_one

/-- An empty page does not depend on how its items are shown. -/
theorem respondPage_congr_item {f g : α → β}
    (h : ((rows.mergeSort order).drop ((page-1)*pageSize).toNat).take pageSize.toNat = []) :
    respondPage (fun x => .ok (f x)) page pageSize (selectPage order page pageSize rows) =
      respondPage (fun x => .ok (g x)) page pageSize (selectPage order page pageSize rows) := by
  unfold selectPage
  split_ifs
  · rfl
  · rw [h, respondPage, respondPage, Paging.mapM_ok, Paging.mapM_ok, List.map_nil, List.map_nil]

theorem paginated_inj {items items' : List β} {total : ℕ} (hsize : pageSize ≠ 0)
    (h : paginated items total page pageSize = paginated items' total page pageSize) :
    items = items' := by
  unfold paginated at h
  split_ifs at h
  · exact congrArg PaginatedResponse.items (Except.ok.inj h)
  · exact congrArg PaginatedResponse.items (Except.ok.inj h)

/-- Equal pages show every row alike. -/
theorem item_eq_of_respondPage {f g : α → β} (hpage : ¬BadPage page pageSize) (hsize : pageSize ≠ 0)
    (h : respondPage (fun x => .ok (f x)) page pageSize (selectPage order page pageSize rows) =
      respondPage (fun x => .ok (g x)) page pageSize (selectPage order page pageSize rows)) :
    ∀ x ∈ ((rows.mergeSort order).drop ((page-1)*pageSize).toNat).take pageSize.toNat, f x = g x := by
  rw [selectPage, if_neg hpage, respondPage, respondPage, Paging.mapM_ok, Paging.mapM_ok] at h
  exact List.map_inj_left.mp (paginated_inj hsize h)

/-- A page that starts before the last row shows one. -/
theorem exists_mem_page (order : α → α → Bool) (hpage : ¬BadPage page pageSize) (hsize : pageSize ≠ 0)
    (hoffset : (page-1)*pageSize < rows.length) : ∃ x ∈ rows,
      x ∈ ((rows.mergeSort order).drop ((page-1)*pageSize).toNat).take pageSize.toNat := by
  obtain ⟨hstart, hlimit⟩ := not_or.mp hpage
  have hlength : 0 <
      (((rows.mergeSort order).drop ((page-1)*pageSize).toNat).take pageSize.toNat).length := by
    rw [List.length_take, List.length_drop, List.length_mergeSort]
    omega
  obtain ⟨x, hx⟩ := List.exists_mem_of_length_pos hlength
  exact ⟨x, List.mem_mergeSort.mp (List.mem_of_mem_drop (List.mem_of_mem_take hx)), hx⟩

end

theorem ne_of_unsetOr {matterId value : Uuid} {wanted : Option Uuid} (h : OtherMatter matterId wanted)
    (hvalue : unsetOr wanted (some value) = true) : value ≠ matterId := by
  obtain ⟨other, rfl, hne⟩ := h
  have hvalue' : value = other := by simpa [unsetOr] using hvalue
  exact hvalue' ▸ hne

theorem not_match_of_noDay {q : TimeEntryFilters} (h : NoDay q) (e : StoredTimeEntry) :
    matchesTimeEntry q e = false := by
  obtain ⟨start, hstart, last, hlast, hlt⟩ := h
  by_contra hmatch
  simp only [matchesTimeEntry, hstart, hlast, Bool.not_eq_false, Bool.and_eq_true,
    decide_eq_true_eq] at hmatch
  obtain ⟨⟨⟨-, hfrom⟩, hto⟩, -⟩ := hmatch
  exact absurd (hfrom.trans hto) (not_le.mpr hlt)

section
variable {like : String → String → Bool} {presigned : String → String} {user : User}
  {matterId : Uuid} {db db' : FirmDb}

theorem AgreeOutside.access (h : AgreeOutside matterId db db') : db.access = db'.access := by
  rw [FirmDb.access, FirmDb.access, h.users, h.matters, h.walls]

theorem AgreeOutside.senderName (h : AgreeOutside matterId db db') :
    Portal.senderName db.portal = Portal.senderName db'.portal := by
  funext msg
  simp only [Portal.senderName, Portal.staffName, Portal.clientUserName, FirmDb.portal, h.users,
    h.clientUsers]

/-- At most so many rows have keys of their own. -/
theorem length_le_of_nodup {γ : Type} {key : γ → Uuid} {rows : List γ} (h : (rows.map key).Nodup) :
    rows.length ≤ 2^128 := by
  have hcard : (rows.map key).length ≤ Fintype.card Uuid := h.length_le_card
  rwa [List.length_map, Fintype.card_congr BitVec.equivFin.toEquiv, Fintype.card_fin] at hcard

theorem selectPage_congr {γ : Type} {order : γ → γ → Bool} {page pageSize : ℤ} {rows rows' : List γ}
    (h : BadPage page pageSize ∨ rows = rows') :
    selectPage order page pageSize rows = selectPage order page pageSize rows' := by
  rcases h with hpage | rfl
  · rw [selectPage, selectPage, if_pos hpage, if_pos hpage]
  · rfl

theorem getDocuments_eq {wanted : Option Uuid} {page pageSize : ℤ} {search : Option String}
    (hstored : Stored db) (hstored' : Stored db') (hagree : AgreeOutside matterId db db')
    (h : BadPage page pageSize ∨ OtherMatter matterId wanted ∨ FindsNothing like search) :
    getDocuments like db wanted page pageSize search =
      getDocuments like db' wanted page pageSize search := by
  unfold getDocuments
  cases hpattern : searchPattern search with
  | error error => rfl
  | ok pattern =>
    apply selectPage_congr
    rcases h with hpage | hother | hnone
    · exact Or.inl hpage
    · refine Or.inr (filter_eq_of_imp (fun d hd => ?_) hagree.documents)
      rw [matchesDocument, Bool.and_eq_true] at hd
      exact decide_eq_true (ne_of_unsetOr hother hd.1)
    · -- no filename of either state meets the pattern
      have hempty : ∀ {db : FirmDb}, Stored db →
          db.documents.filter (matchesDocument like wanted pattern) = [] := by
        intro db hstored
        refine List.filter_eq_nil_iff.mpr fun d hd hmatch => ?_
        obtain ⟨hlength, hzero⟩ := hstored.filename_fits d hd
        rw [matchesDocument, hnone pattern hpattern _ hlength hzero, Bool.and_false] at hmatch
        cases hmatch
      exact Or.inr ((hempty hstored).trans (hempty hstored').symm)

theorem getTimeEntries_eq {page pageSize : ℤ} {q : TimeEntryFilters}
    (hagree : AgreeOutside matterId db db')
    (h : BadPage page pageSize ∨ OtherMatter matterId q.matterId ∨ NoDay q) :
    getTimeEntries db page pageSize q = getTimeEntries db' page pageSize q := by
  apply selectPage_congr
  rcases h with hpage | hother | hday
  · exact Or.inl hpage
  · refine Or.inr (filter_eq_of_imp (fun e he => ?_) hagree.timeEntries)
    simp only [matchesTimeEntry, Bool.and_eq_true] at he
    exact decide_eq_true (ne_of_unsetOr hother he.1.1.1.1)
  · have hempty : ∀ rows : List StoredTimeEntry, rows.filter (matchesTimeEntry q) = [] := by
      intro rows
      refine List.filter_eq_nil_iff.mpr fun e _ hmatch => ?_
      rw [not_match_of_noDay hday] at hmatch
      cases hmatch
    exact Or.inr ((hempty _).trans (hempty _).symm)

theorem getInvoices_eq {page pageSize : ℤ} {q : InvoiceFilters}
    (hagree : AgreeOutside matterId db db')
    (h : BadPage page pageSize ∨ OtherMatter matterId q.matterId) :
    getInvoices db page pageSize q = getInvoices db' page pageSize q := by
  apply selectPage_congr
  rcases h with hpage | hother
  · exact Or.inl hpage
  · refine Or.inr (filter_eq_of_imp (fun inv hinv => ?_) hagree.invoices)
    simp only [matchesInvoice, Bool.and_eq_true] at hinv
    exact decide_eq_true (ne_of_unsetOr hother hinv.1.2)

theorem getMessages_eq {wanted : Uuid} {page pageSize : ℤ} (hagree : AgreeOutside matterId db db')
    (h : BadPage page pageSize ∨ wanted ≠ matterId) :
    getMessages db.portal wanted page pageSize = getMessages db'.portal wanted page pageSize := by
  unfold getMessages
  rw [listPage_eq, listPage_eq, hagree.senderName]
  congr 1
  apply selectPage_congr
  refine h.imp_right fun hne => filter_eq_of_imp (fun msg hmsg => ?_) hagree.messages
  exact decide_eq_true ((of_decide_eq_true hmsg).symm ▸ hne)

/-- Where the page of a matter shows nothing, its documents do not count. -/
theorem getSharedDocumentsStaff_eq {wanted : Uuid} {page pageSize : ℤ} (hstored : Stored db)
    (hagree : AgreeOutside matterId db db')
    (h : BadPage page pageSize ∨
      wanted ≠ matterId ∧ (pageSize = 0 ∨ 2^128 ≤ (page-1)*pageSize)) :
    getSharedDocumentsStaff db.portal wanted page pageSize =
      getSharedDocumentsStaff db'.portal wanted page pageSize := by
  unfold getSharedDocumentsStaff
  rw [listPage_eq, listPage_eq]
  rcases h with hpage | ⟨hne, hempty⟩
  · rw [respondPage_badPage hpage, respondPage_badPage hpage]
  · have hrows : db.sharedDocuments.filter (fun sd => sd.matterId = wanted) =
        db'.sharedDocuments.filter (fun sd => sd.matterId = wanted) := by
      refine filter_eq_of_imp (fun sd hsd => ?_) hagree.sharedDocuments
      exact decide_eq_true ((of_decide_eq_true hsd).symm ▸ hne)
    have hlength : (db.sharedDocuments.filter (fun sd => sd.matterId = wanted)).length ≤ 2^128 :=
      (List.length_filter_le _ _).trans (length_le_of_nodup hstored.shared_nodup)
    change respondPage _ page pageSize (selectPage _ page pageSize
        (db.sharedDocuments.filter (fun sd => sd.matterId = wanted))) =
      respondPage _ page pageSize (selectPage _ page pageSize
        (db'.sharedDocuments.filter (fun sd => sd.matterId = wanted)))
    rw [← hrows]
    apply respondPage_congr_item
    rcases hempty with rfl | hpast
    · exact List.take_zero
    · rw [List.drop_eq_nil_of_le, List.take_nil]
      rw [List.length_mergeSort]
      omega

/-- The detail of the matter is never shown through the wall, whatever its rows are. -/
theorem getMatterDetail_of_walled (hwalled : Walled user matterId db) :
    ∃ error, getMatterDetail db user matterId = .error error := by
  obtain ⟨w, hw, hmatter, huser, -⟩ := hwalled.wall
  have hwalls : wallsOf db.access matterId user.id ≠ [] :=
    List.ne_nil_of_mem (mem_wallsOf.mpr ⟨hw, hmatter, huser⟩)
  cases hfound : getMatter db.access matterId with
  | none =>
    refine ⟨matterNotFound, ?_⟩
    simp only [getMatterDetail, checkMatterAccess, hwalled.role_ne, hfound, if_false]
  | some matter =>
    have hdenied := (checkMatterAccess_eq_ok_iff hwalled.role_ne hfound).not.mpr
      fun h => hwalls h.2
    cases hcheck : checkMatterAccess db.access user matterId with
    | error error => exact ⟨error, by rw [getMatterDetail, hcheck]⟩
    | ok result => exact absurd hcheck hdenied

/-- A request that leaves the rows of the matter out is answered alike. -/
theorem read_eq_of_leavesOut {request : ReadRequest} (hstored : Stored db) (hstored' : Stored db')
    (hagree : AgreeOutside matterId db db') (hleaves : LeavesOut like matterId request) :
    read like presigned db user request = read like presigned db' user request := by
  cases request with
  | matterDetail wanted => simp only [read, getMatterDetail, hagree.access]
  | listDocuments wanted page pageSize search =>
    rw [read, read, getDocuments_eq hstored hstored' hagree hleaves]
  | documentDetail documentId => exact hleaves.elim
  | downloadDocument documentId => exact hleaves.elim
  | listSharedDocuments wanted page pageSize =>
    rw [read, read, getSharedDocumentsStaff_eq hstored hagree hleaves]
  | getMessages wanted page pageSize => rw [read, read, getMessages_eq hagree hleaves]
  | listTimeEntries page pageSize q => rw [read, read, getTimeEntries_eq hagree hleaves]
  | listInvoices page pageSize q => rw [read, read, getInvoices_eq hagree hleaves]

end

/-! States with one wall and at most one table of rows for the matter behind it. -/

def colleagues (user : User) (userId : Uuid) : List User :=
  if userId = user.id then [user] else [user, { user with id := userId }]

def twoMatters (matterId wanted : Uuid) : List Matter :=
  if wanted = matterId then [{ openMatter with id := matterId }]
  else [{ openMatter with id := matterId }, { openMatter with id := wanted }]

def walledFirm (user : User) (matterId userId wanted : Uuid) : FirmDb where
  users := colleagues user userId
  clientUsers := []
  matters := twoMatters matterId wanted
  walls := [⟨0, matterId, user.id, "Former client", user.id, true⟩]
  documents := []
  sharedDocuments := []
  messages := []
  timeEntries := []
  invoices := []

def documentOf (user : User) (matterId documentId : Uuid) (filename : String) : StoredDocument :=
  { id := documentId, matterId := matterId, uploadedBy := user.id, filename := filename
    storageKey := "k", mimeType := "application/pdf", sizeBytes := 12, createdAt := 0 }

def messageOf (matterId : Uuid) : Message :=
  { id := 0, matterId := matterId, senderType := .staff, subject := none, body := "Offer refused"
    parentMessageId := none, createdAt := 0 }

def entryOf (matterId userId : Uuid) (date : Date) (billable : Bool) : StoredTimeEntry :=
  { id := 0, matterId := matterId, userId := userId, date := date, durationMinutes := 30
    description := "Call", billable := billable, rateCents := 30000, invoiceId := none
    createdAt := 0, updatedAt := 0 }

def invoiceOf (matterId clientId : Uuid) (status : InvoiceStatus) : StoredInvoice :=
  { id := 0, invoiceNumber := some 1001, clientId := clientId, matterId := matterId
    issuedDate := none, dueDate := none, status := status, notes := none, createdAt := 0
    updatedAt := 0 }

/-- A document is shared so many times with a matter. -/
def shareOf (user : User) (wanted documentId : Uuid) (i : ℕ) : SharedDocument :=
  ⟨BitVec.ofNat 128 i, documentId, wanted, user.id, 0, none⟩

section
variable {user : User} {matterId userId wanted : Uuid}

theorem mem_colleagues : user ∈ colleagues user userId := by
  unfold colleagues
  split_ifs
  · exact List.mem_singleton_self user
  · exact List.mem_cons_self

theorem userId_mem_colleagues : userId ∈ (colleagues user userId).map User.id := by
  unfold colleagues
  split_ifs with h
  · simp [h]
  · simp

theorem matterId_mem_twoMatters : matterId ∈ (twoMatters matterId wanted).map Matter.id := by
  unfold twoMatters
  split_ifs
  · simp
  · simp

theorem wanted_mem_twoMatters : wanted ∈ (twoMatters matterId wanted).map Matter.id := by
  unfold twoMatters
  split_ifs with h
  · simp [h]
  · simp

theorem stored_walledFirm : Stored (walledFirm user matterId userId wanted) where
  user_nodup := by
    change ((colleagues user userId).map User.id).Nodup
    unfold colleagues
    split_ifs with h
    · simp
    · simpa using Ne.symm h
  matter_nodup := by
    change ((twoMatters matterId wanted).map Matter.id).Nodup
    unfold twoMatters
    split_ifs with h
    · simp
    · simpa using Ne.symm h
  wall_nodup := List.nodup_singleton _
  wall_refers := by
    intro w hw
    obtain rfl := List.mem_singleton.mp hw
    have huser : user.id ∈ (colleagues user userId).map User.id := List.mem_map_of_mem mem_colleagues
    exact ⟨matterId_mem_twoMatters, huser, huser⟩
  document_nodup := List.nodup_nil
  document_refers := List.forall_mem_nil _
  filename_fits := List.forall_mem_nil _
  shared_nodup := List.nodup_nil
  shared_refers := List.forall_mem_nil _
  message_nodup := List.nodup_nil
  message_refers := List.forall_mem_nil _
  timeEntry_nodup := List.nodup_nil
  timeEntry_refers := List.forall_mem_nil _
  invoice_nodup := List.nodup_nil
  invoice_refers := List.forall_mem_nil _

theorem walled_walledFirm (hactive : user.isActive = true) (hrole : user.role ≠ .admin) :
    Walled user matterId (walledFirm user matterId userId wanted) :=
  ⟨mem_colleagues, hactive, hrole, _, List.mem_singleton_self _, rfl, rfl, rfl⟩

/-- The firm with one document of the matter, shared any number of times with another. -/
def firmWithDocument (user : User) (matterId userId wanted documentId : Uuid) (filename : String)
    (shares : ℕ) : FirmDb :=
  { walledFirm user matterId userId wanted with
    documents := [documentOf user matterId documentId filename]
    sharedDocuments := (List.range shares).map (shareOf user wanted documentId) }

theorem stored_firmWithDocument {documentId : Uuid} {filename : String} {shares : ℕ}
    (hlength : filename.length ≤ 500) (hzero : '\x00' ∉ filename.toList) (hshares : shares ≤ 2^128) :
    Stored (firmWithDocument user matterId userId wanted documentId filename shares) :=
  { (stored_walledFirm : Stored (walledFirm user matterId userId wanted)) with
    document_nodup := List.nodup_singleton _
    document_refers := by
      intro d hd
      obtain rfl := List.mem_singleton.mp hd
      exact ⟨matterId_mem_twoMatters, List.mem_map_of_mem mem_colleagues, by rintro _ ⟨⟩⟩
    filename_fits := by
      intro d hd
      obtain rfl := List.mem_singleton.mp hd
      exact ⟨hlength, hzero⟩
    shared_nodup := by
      change (((List.range shares).map (shareOf user wanted documentId)).map SharedDocument.id).Nodup
      rw [List.map_map]
      refine List.nodup_range.map_on fun i hi j hj hij => ?_
      have hlt : ∀ k ∈ List.range shares, k < 2^128 := fun k hk =>
        (List.mem_range.mp hk).trans_le hshares
      have hnat := congrArg BitVec.toNat hij
      simp only [Function.comp_apply, shareOf, BitVec.toNat_ofNat] at hnat
      rwa [Nat.mod_eq_of_lt (hlt i hi), Nat.mod_eq_of_lt (hlt j hj)] at hnat
    shared_refers := by
      intro sd hsd
      obtain ⟨i, -, rfl⟩ := List.mem_map.mp hsd
      exact ⟨wanted_mem_twoMatters, List.mem_singleton_self _, List.mem_map_of_mem mem_colleagues⟩ }

theorem walled_firmWithDocument {documentId : Uuid} {filename : String} {shares : ℕ}
    (hactive : user.isActive = true) (hrole : user.role ≠ .admin) :
    Walled user matterId
      (firmWithDocument user matterId userId wanted documentId filename shares) :=
  ⟨mem_colleagues, hactive, hrole, _, List.mem_singleton_self _, rfl, rfl, rfl⟩

/-- All shares belong to the matter they were made for. -/
theorem filter_shares {documentId : Uuid} {filename : String} {shares : ℕ} :
    (firmWithDocument user matterId userId wanted documentId filename shares).portal.sharedDocuments.filter
        (fun sd => sd.matterId = wanted) =
      (List.range shares).map (shareOf user wanted documentId) := by
  refine List.filter_eq_self.mpr fun sd hsd => ?_
  obtain ⟨i, -, rfl⟩ := List.mem_map.mp hsd
  exact decide_eq_true rfl

theorem filename_shareOf {documentId : Uuid} {filename : String} {shares i : ℕ} :
    (sharedDocumentItem
        (firmWithDocument user matterId userId wanted documentId filename shares).portal
        (shareOf user wanted documentId i)).filename = filename := by
  simp [sharedDocumentItem, FirmDb.portal, firmWithDocument, documentOf, shareOf, Table.find]

/-- The documents of the matter are its own rows, also where they are shared elsewhere. -/
theorem agreeOutside_filenames {documentId : Uuid} {filename filename' : String} {shares : ℕ} :
    AgreeOutside matterId (firmWithDocument user matterId userId wanted documentId filename shares)
      (firmWithDocument user matterId userId wanted documentId filename' shares) :=
  { AgreeOutside.refl matterId
      (firmWithDocument user matterId userId wanted documentId filename shares) with
    documents := by simp [firmWithDocument, documentOf] }

theorem agreeOutside_firmWithDocument {documentId : Uuid} {filename : String} {shares : ℕ} :
    AgreeOutside matterId (walledFirm user matterId userId matterId)
      (firmWithDocument user matterId userId matterId documentId filename shares) :=
  { AgreeOutside.refl matterId (walledFirm user matterId userId matterId) with
    documents := by simp [walledFirm, firmWithDocument, documentOf]
    sharedDocuments := by simp [walledFirm, firmWithDocument, shareOf] }

theorem stored_withMessage :
    Stored { walledFirm user matterId userId wanted with messages := [messageOf matterId] } :=
  { (stored_walledFirm : Stored (walledFirm user matterId userId wanted)) with
    message_nodup := List.nodup_singleton _
    message_refers := by
      intro msg hmsg
      obtain rfl := List.mem_singleton.mp hmsg
      exact ⟨matterId_mem_twoMatters, by rintro _ ⟨⟩, by rintro _ ⟨⟩, by rintro _ ⟨⟩⟩ }

theorem stored_withEntry {date : Date} {billable : Bool} :
    Stored { walledFirm user matterId userId wanted with
      timeEntries := [entryOf matterId userId date billable] } :=
  { (stored_walledFirm : Stored (walledFirm user matterId userId wanted)) with
    timeEntry_nodup := List.nodup_singleton _
    timeEntry_refers := by
      intro e he
      obtain rfl := List.mem_singleton.mp he
      exact ⟨matterId_mem_twoMatters, userId_mem_colleagues, by rintro _ ⟨⟩⟩ }

theorem stored_withInvoice {clientId : Uuid} {status : InvoiceStatus} :
    Stored { walledFirm user matterId userId wanted with
      invoices := [invoiceOf matterId clientId status] } :=
  { (stored_walledFirm : Stored (walledFirm user matterId userId wanted)) with
    timeEntry_refers := List.forall_mem_nil _
    invoice_nodup := List.nodup_singleton _
    invoice_refers := by
      intro inv hinv
      obtain rfl := List.mem_singleton.mp hinv
      exact matterId_mem_twoMatters }

end

theorem unsetOr_of_not_other {matterId : Uuid} {wanted : Option Uuid}
    (h : ¬OtherMatter matterId wanted) : unsetOr wanted (some matterId) = true := by
  cases wanted with
  | none => rfl
  | some other =>
    have heq : other = matterId := by
      by_contra hne
      exact h ⟨other, rfl, hne⟩
    rw [heq]
    exact decide_eq_true rfl

theorem unsetOr_getD {γ : Type} [DecidableEq γ] (wanted : Option γ) (default : γ) :
    unsetOr wanted (some (wanted.getD default)) = true := by
  cases wanted with
  | none => rfl
  | some value => exact decide_eq_true rfl

theorem map_injective {γ δ ε : Type} {f : γ → δ} (hf : Function.Injective f) :
    Function.Injective (Except.map f : Except ε γ → Except ε δ) := by
  intro x y h
  cases x with
  | error error =>
    cases y with
    | error error' => exact congrArg Except.error (Except.error.inj h)
    | ok b => cases h
  | ok a =>
    cases y with
    | error error => cases h
    | ok b => exact congrArg Except.ok (hf (Except.ok.inj h))

/-- The days between the dates of the filter. -/
theorem exists_day {q : TimeEntryFilters} (h : ¬NoDay q) : ∃ day : Date,
    (∀ start ∈ q.startDate, start ≤ day) ∧ ∀ last ∈ q.endDate, day ≤ last := by
  cases hstart : q.startDate with
  | none =>
    cases hlast : q.endDate with
    | none => exact ⟨0, by rintro _ ⟨⟩, by rintro _ ⟨⟩⟩
    | some last => exact ⟨last, by rintro _ ⟨⟩, by rintro _ ⟨⟩; exact le_rfl⟩
  | some start =>
    refine ⟨start, by rintro _ ⟨⟩; exact le_rfl, fun last hlast => ?_⟩
    by_contra hlt
    exact h ⟨start, hstart, last, hlast, not_le.mp hlt⟩

section
variable {like : String → String → Bool} {presigned : String → String} {user : User}
  {matterId : Uuid} {page pageSize : ℤ}
  (hactive : user.isActive = true) (hrole : user.role ≠ .admin)
include hactive hrole

theorem leavesOut_listDocuments {filter : Option Uuid} {search : Option String}
    (h : Hides like presigned user matterId (.listDocuments filter page pageSize search)) :
    LeavesOut like matterId (.listDocuments filter page pageSize search) := by
  by_contra hleaves
  simp only [LeavesOut, not_or] at hleaves
  obtain ⟨hpage, hother, hfinds⟩ := hleaves
  unfold FindsNothing at hfinds
  push Not at hfinds
  obtain ⟨pattern, hpattern, filename, hlength, hzero, hmatch⟩ := hfinds
  have hread := h (walledFirm user matterId user.id matterId)
    (firmWithDocument user matterId user.id matterId 0 filename 0) stored_walledFirm
    (stored_firmWithDocument hlength hzero (Nat.zero_le _)) (walled_walledFirm hactive hrole)
    agreeOutside_firmWithDocument
  have hpages := map_injective (fun _ _ => ReadResponse.documents.inj) hread
  have hfound : matchesDocument like filter pattern (documentOf user matterId 0 filename) = true := by
    rw [matchesDocument, documentOf, unsetOr_of_not_other hother, Bool.true_and]
    exact Bool.eq_true_of_not_eq_false hmatch
  rw [getDocuments, getDocuments, hpattern] at hpages
  simp only [walledFirm, firmWithDocument, List.filter_nil, List.filter_singleton, hfound]
    at hpages
  exact respondPage_ne hpage _ hpages

theorem not_hides_documentDetail {documentId : Uuid} :
    ¬Hides like presigned user matterId (.documentDetail documentId) := by
  intro h
  have hread := h (walledFirm user matterId user.id matterId)
    (firmWithDocument user matterId user.id matterId documentId "Offer.pdf" 0) stored_walledFirm
    (stored_firmWithDocument (by decide) (by decide) (Nat.zero_le _)) (walled_walledFirm hactive hrole)
    agreeOutside_firmWithDocument
  simp [read, getDocumentDetail, getDocument, Table.find, walledFirm, firmWithDocument, documentOf,
    Except.map] at hread

theorem not_hides_downloadDocument {documentId : Uuid} :
    ¬Hides like presigned user matterId (.downloadDocument documentId) := by
  intro h
  have hread := h (walledFirm user matterId user.id matterId)
    (firmWithDocument user matterId user.id matterId documentId "Offer.pdf" 0) stored_walledFirm
    (stored_firmWithDocument (by decide) (by decide) (Nat.zero_le _)) (walled_walledFirm hactive hrole)
    agreeOutside_firmWithDocument
  simp [read, downloadDocument, getDocument, Table.find, walledFirm, firmWithDocument, documentOf,
    Except.map] at hread

theorem leavesOut_getMessages {wanted : Uuid}
    (h : Hides like presigned user matterId (.getMessages wanted page pageSize)) :
    LeavesOut like matterId (.getMessages wanted page pageSize) := by
  by_contra hleaves
  simp only [LeavesOut, not_or, not_not] at hleaves
  obtain ⟨hpage, rfl⟩ := hleaves
  have hread := h (walledFirm user wanted user.id wanted)
    { walledFirm user wanted user.id wanted with messages := [messageOf wanted] } stored_walledFirm
    stored_withMessage (walled_walledFirm hactive hrole)
    { AgreeOutside.refl wanted (walledFirm user wanted user.id wanted) with
      messages := by simp [walledFirm, messageOf] }
  have hpages := map_injective (fun _ _ => ReadResponse.messages.inj) hread
  simp only [getMessages, FirmDb.portal, walledFirm, messageOf, listPage_eq, List.filter_nil,
    List.filter_singleton, decide_true] at hpages
  exact respondPage_ne hpage _ hpages

theorem leavesOut_listTimeEntries {q : TimeEntryFilters}
    (h : Hides like presigned user matterId (.listTimeEntries page pageSize q)) :
    LeavesOut like matterId (.listTimeEntries page pageSize q) := by
  by_contra hleaves
  simp only [LeavesOut, not_or] at hleaves
  obtain ⟨hpage, hother, hday⟩ := hleaves
  obtain ⟨day, hstart, hlast⟩ := exists_day hday
  have hread := h (walledFirm user matterId (q.userId.getD user.id) matterId)
    { walledFirm user matterId (q.userId.getD user.id) matterId with
      timeEntries := [entryOf matterId (q.userId.getD user.id) day (q.billable.getD true)] }
    stored_walledFirm stored_withEntry (walled_walledFirm hactive hrole)
    { AgreeOutside.refl matterId (walledFirm user matterId (q.userId.getD user.id) matterId) with
      timeEntries := by simp [walledFirm, entryOf] }
  have hpages := map_injective (fun _ _ => ReadResponse.timeEntries.inj) hread
  have hfound : matchesTimeEntry q
      (entryOf matterId (q.userId.getD user.id) day (q.billable.getD true)) = true := by
    simp only [matchesTimeEntry, entryOf, unsetOr_of_not_other hother, unsetOr_getD, Bool.true_and,
      Bool.and_true, Bool.and_eq_true]
    constructor
    · cases hdate : q.startDate with
      | none => rfl
      | some start => exact decide_eq_true (hstart start hdate)
    · cases hdate : q.endDate with
      | none => rfl
      | some last => exact decide_eq_true (hlast last hdate)
  simp only [getTimeEntries, walledFirm, List.filter_nil, List.filter_singleton, hfound]
    at hpages
  exact respondPage_ne hpage _ hpages

theorem leavesOut_listInvoices {q : InvoiceFilters}
    (h : Hides like presigned user matterId (.listInvoices page pageSize q)) :
    LeavesOut like matterId (.listInvoices page pageSize q) := by
  by_contra hleaves
  simp only [LeavesOut, not_or] at hleaves
  obtain ⟨hpage, hother⟩ := hleaves
  have hread := h (walledFirm user matterId user.id matterId)
    { walledFirm user matterId user.id matterId with
      invoices := [invoiceOf matterId (q.clientId.getD 8) (q.status.getD .draft)] }
    stored_walledFirm stored_withInvoice (walled_walledFirm hactive hrole)
    { AgreeOutside.refl matterId (walledFirm user matterId user.id matterId) with
      invoices := by simp [walledFirm, invoiceOf] }
  have hpages := map_injective (fun _ _ => ReadResponse.invoices.inj) hread
  have hfound : matchesInvoice q
      (invoiceOf matterId (q.clientId.getD 8) (q.status.getD .draft)) = true := by
    simp only [matchesInvoice, invoiceOf, unsetOr_of_not_other hother, unsetOr_getD, Bool.and_true]
  simp only [getInvoices, walledFirm, List.filter_nil, List.filter_singleton, hfound]
    at hpages
  exact respondPage_ne hpage _ hpages

/-- A page of another matter shows what the documents of this one are called. -/
theorem leavesOut_listSharedDocuments {wanted : Uuid}
    (h : Hides like presigned user matterId (.listSharedDocuments wanted page pageSize)) :
    LeavesOut like matterId (.listSharedDocuments wanted page pageSize) := by
  by_contra hleaves
  simp only [LeavesOut, not_or, not_and_or, not_not, not_le] at hleaves
  obtain ⟨hpage, rfl | ⟨hsize, hoffset⟩⟩ := hleaves
  · have hread := h (walledFirm user wanted user.id wanted)
      (firmWithDocument user wanted user.id wanted 0 "Offer.pdf" 1) stored_walledFirm
      (stored_firmWithDocument (by decide) (by decide) (by decide)) (walled_walledFirm hactive hrole)
      agreeOutside_firmWithDocument
    have hpages := map_injective (fun _ _ => ReadResponse.sharedDocuments.inj) hread
    rw [getSharedDocumentsStaff, getSharedDocumentsStaff, listPage_eq, listPage_eq,
      filter_shares] at hpages
    have hnone := (respondPage_nil hpage).symm.trans hpages
    exact absurd (total_of_respondPage hnone.symm) Nat.zero_ne_one
  · -- so many shares that the page is not empty
    obtain ⟨offset, hnat⟩ : ∃ offset : ℕ, (page-1)*pageSize = offset :=
      Int.eq_ofNat_of_zero_le (not_lt.mp fun hneg => hpage (Or.inl hneg))
    have hread := h (firmWithDocument user matterId user.id wanted 0 "Offer.pdf" (offset+1))
      (firmWithDocument user matterId user.id wanted 0 "Will.pdf" (offset+1))
      (stored_firmWithDocument (by decide) (by decide) (by omega))
      (stored_firmWithDocument (by decide) (by decide) (by omega))
      (walled_firmWithDocument hactive hrole) agreeOutside_filenames
    have hpages := map_injective (fun _ _ => ReadResponse.sharedDocuments.inj) hread
    rw [getSharedDocumentsStaff, getSharedDocumentsStaff, listPage_eq, listPage_eq, filter_shares,
      filter_shares] at hpages
    have hsame := item_eq_of_respondPage hpage hsize hpages
    have hlength : (page-1)*pageSize <
        ((List.range (offset+1)).map (shareOf user wanted 0)).length := by
      rw [List.length_map, List.length_range]
      omega
    obtain ⟨sd, hmem, hsd⟩ := exists_mem_page _ hpage hsize hlength
    obtain ⟨i, -, rfl⟩ := List.mem_map.mp hmem
    have hname := congrArg Portal.SharedDocumentResponse.filename (hsame _ hsd)
    rw [filename_shareOf, filename_shareOf] at hname
    exact absurd hname (by decide)

end

/-- A request of a user behind a wall tells nothing of the matter exactly when it is refused or
leaves the rows of the matter out: only the detail of the matter asks for the wall. -/
theorem hides_iff (like : String → String → Bool) (presigned : String → String) (user : User)
    (matterId : Uuid) (request : ReadRequest) (hactive : user.isActive = true)
    (hrole : user.role ≠ .admin) :
    Hides like presigned user matterId request ↔ LeavesOut like matterId request := by
  constructor
  · intro h
    cases request with
    | matterDetail wanted => trivial
    | listDocuments filter page pageSize search => exact leavesOut_listDocuments hactive hrole h
    | documentDetail documentId => exact not_hides_documentDetail hactive hrole h
    | downloadDocument documentId => exact not_hides_downloadDocument hactive hrole h
    | listSharedDocuments wanted page pageSize =>
      exact leavesOut_listSharedDocuments hactive hrole h
    | getMessages wanted page pageSize => exact leavesOut_getMessages hactive hrole h
    | listTimeEntries page pageSize q => exact leavesOut_listTimeEntries hactive hrole h
    | listInvoices page pageSize q => exact leavesOut_listInvoices hactive hrole h
  · intro hleaves db db' hstored hstored' _ hagree
    exact read_eq_of_leavesOut hstored hstored' hagree hleaves

/-- The wall holds for the portal of another matter, and not for that of its own. -/
theorem hides_iff_messages :
    Hides (fun text pattern => text = pattern) id attorneyKim 3 (.getMessages 4 1 25) ∧
      ¬Hides (fun text pattern => text = pattern) id attorneyKim 3 (.getMessages 3 1 25) := by
  have hother := hides_iff (fun text pattern => text = pattern) id attorneyKim 3
    (.getMessages 4 1 25) rfl (by decide)
  have hown := hides_iff (fun text pattern => text = pattern) id attorneyKim 3
    (.getMessages 3 1 25) rfl (by decide)
  refine ⟨hother.mpr (Or.inr (by decide)), fun h => ?_⟩
  rcases hown.mp h with hpage | hne
  · exact absurd hpage (by decide)
  · exact hne rfl

/-- An attorney behind the wall reads how a document of the matter is called. -/
theorem not_hides_documentRenamed :
    Stored (firmWithDocument attorneyKim 3 1 3 6 "Offer.pdf" 0) ∧
      Stored (firmWithDocument attorneyKim 3 1 3 6 "Will.pdf" 0) ∧
      Walled attorneyKim 3 (firmWithDocument attorneyKim 3 1 3 6 "Offer.pdf" 0) ∧
      AgreeOutside 3 (firmWithDocument attorneyKim 3 1 3 6 "Offer.pdf" 0)
        (firmWithDocument attorneyKim 3 1 3 6 "Will.pdf" 0) ∧
      read (fun text pattern => text = pattern) id (firmWithDocument attorneyKim 3 1 3 6 "Offer.pdf" 0)
          attorneyKim (.documentDetail 6) ≠
        read (fun text pattern => text = pattern) id (firmWithDocument attorneyKim 3 1 3 6 "Will.pdf" 0)
          attorneyKim (.documentDetail 6) := by
  refine ⟨stored_firmWithDocument (by decide) (by decide) (Nat.zero_le _),
    stored_firmWithDocument (by decide) (by decide) (Nat.zero_le _),
    walled_firmWithDocument rfl (by decide), agreeOutside_filenames, fun h => ?_⟩
  have hdocument := ReadResponse.document.inj (Except.ok.inj h)
  have hname := congrArg DocumentResponse.filename hdocument
  exact absurd hname (by decide)

end LegalForge.StaffReads
