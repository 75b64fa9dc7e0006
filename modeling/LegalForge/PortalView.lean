import LegalForge.Noninterference
import LegalForge.Portal

/-! The rows that decide what the users of one client see of the portal. -/
namespace LegalForge.Portal
open Auth Matters UnitOfWork Transition Noninterference

/-- The matter is one of the client's. -/
def owns (db : PortalDb) (clientId matterId : Uuid) : Bool :=
  (clientMatter db clientId matterId).isSome

/-- The rows that belong to a client's matters, and the members of the staff they refer to. -/
def restrict (clientId : Uuid) (staff : List Uuid) (db : PortalDb) : PortalDb where
  users := db.users.filter (fun u => u.id ∈ staff)
  clientUsers := db.clientUsers.filter (fun u => u.clientId = clientId)
  matters := db.matters.filter (fun m => m.clientId = clientId)
  documents := db.documents.filter (fun d => owns db clientId d.matterId)
  sharedDocuments := db.sharedDocuments.filter (fun sd => owns db clientId sd.matterId)
  invoices := db.invoices.filter (fun inv => inv.clientId = clientId)
  messages := db.messages.filter (fun msg => owns db clientId msg.matterId)

/-- Rows of a client's matters refer to rows of the same client and to these members of the
staff. -/
structure Linked (clientId : Uuid) (staff : List Uuid) (db : PortalDb) : Prop where
  attorney_mem : ∀ m ∈ db.matters, m.clientId = clientId → ∀ id ∈ m.assignedAttorneyId, id ∈ staff
  invoice_matter : ∀ inv ∈ db.invoices, inv.clientId = clientId →
    ∀ m, Table.find Matter.id inv.matterId db.matters = some m → m.clientId = clientId
  document_owned : ∀ sd ∈ db.sharedDocuments, owns db clientId sd.matterId = true →
    ∀ d, Table.find Document.id sd.documentId db.documents = some d →
      owns db clientId d.matterId = true
  sharer_mem : ∀ sd ∈ db.sharedDocuments, owns db clientId sd.matterId = true → sd.sharedBy ∈ staff
  sender_mem : ∀ msg ∈ db.messages, owns db clientId msg.matterId = true →
    ∀ id ∈ msg.senderStaffId, id ∈ staff
  sender_client : ∀ msg ∈ db.messages, owns db clientId msg.matterId = true →
    ∀ id ∈ msg.senderClientUserId, ∀ u, Table.find ClientUser.id id db.clientUsers = some u →
      u.clientId = clientId
  message_nodup : (db.messages.map Message.id).Nodup

/-- A message to one of the client's matters answers no message of another client, and draws
no id of one. -/
def Threaded (clientId : Uuid) (db : PortalDb) (data : MessageCreate) (messageId : Uuid) : Prop :=
  owns db clientId data.matterId = true →
    (∀ id ∈ data.parentMessageId, ∀ msg, Table.find Message.id id db.messages = some msg →
      owns db clientId msg.matterId = true) ∧
    ∀ msg, Table.find Message.id messageId db.messages = some msg →
      owns db clientId msg.matterId = true

/-- A document shared with one of the client's matters is of the client's matters. -/
def SharesOwn (clientId : Uuid) (db : PortalDb) (data : ShareDocumentRequest) (sharedId : Uuid) :
    Prop :=
  owns db clientId data.matterId = true →
    (∀ d, Table.find Document.id data.documentId db.documents = some d →
      owns db clientId d.matterId = true) ∧
    ∀ sd, Table.find SharedDocument.id sharedId db.sharedDocuments = some sd →
      owns db clientId sd.matterId = true

/-- A portal request is by a user of the client, a staff request by one of these members of
the staff, and what either writes to the client's matters refers to the client's rows. -/
def Within (clientId : Uuid) (staff : List Uuid) (db : PortalDb) : PortalCall → Prop
  | .login login =>
    ∃ u, Table.find ClientUser.email login.email db.clientUsers = some u ∧ u.clientId = clientId
  | .client userId request =>
    (∃ u, Table.find ClientUser.id userId db.clientUsers = some u ∧ u.clientId = clientId) ∧
      ∀ data messageId now, request = .sendMessage data messageId now →
        Threaded clientId db data messageId
  | .staff userId request =>
    userId ∈ staff ∧
      (∀ data sharedId now, request = .shareDocument data sharedId now →
        SharesOwn clientId db data sharedId) ∧
      ∀ data messageId now, request = .sendMessage data messageId now →
        Threaded clientId db data messageId

/-- The requests of the portal, as opposed to those of the staff. -/
def isPortal : PortalCall → Bool
  | .login _ => true
  | .client _ _ => true
  | .staff _ _ => false

section
variable {clientId : Uuid} {staff : List Uuid} {db : PortalDb}

theorem clientMatter_restrict (matterId : Uuid) :
    clientMatter (restrict clientId staff db) clientId matterId = clientMatter db clientId matterId := by
  unfold clientMatter restrict
  rw [List.find?_filter]
  congr 1
  funext m
  simp only [Bool.decide_and, decide_eq_true_eq, Bool.and_eq_true]
  by_cases hm : m.clientId = clientId
  · simp [hm]
  · simp [hm]

theorem owns_restrict (matterId : Uuid) :
    owns (restrict clientId staff db) clientId matterId = owns db clientId matterId := by
  rw [owns, owns, clientMatter_restrict]

theorem owns_iff {matterId : Uuid} : owns db clientId matterId = true ↔
    ∃ m ∈ db.matters, m.id = matterId ∧ m.clientId = clientId := by
  unfold owns clientMatter
  rw [List.find?_isSome]
  simp only [Bool.decide_and, Bool.and_eq_true, decide_eq_true_eq]

theorem clientMatter_eq_some {matterId : Uuid} {m : Matter}
    (h : clientMatter db clientId matterId = some m) : m ∈ db.matters ∧ m.clientId = clientId := by
  have hm := List.find?_some h
  rw [decide_eq_true_iff] at hm
  exact ⟨List.mem_of_find?_eq_some h, hm.2⟩

theorem find_user_restrict {userId : Uuid} (h : userId ∈ staff) :
    Table.find User.id userId (restrict clientId staff db).users =
      Table.find User.id userId db.users := by
  refine find_filter fun u hu => ?_
  rw [Table.key_of_find hu]
  exact decide_eq_true h

theorem find_clientUser_restrict {κ : Type} [DecidableEq κ] {key : ClientUser → κ} {k : κ}
    (h : ∀ u, Table.find key k db.clientUsers = some u → u.clientId = clientId) :
    Table.find key k (restrict clientId staff db).clientUsers =
      Table.find key k db.clientUsers :=
  find_filter fun u hu => decide_eq_true (h u hu)

theorem staffName_restrict {userId : Option Uuid} (h : ∀ id ∈ userId, id ∈ staff) :
    staffName (restrict clientId staff db) userId = staffName db userId := by
  unfold staffName
  cases userId with
  | none => rfl
  | some id => rw [Option.bind_some, Option.bind_some, find_user_restrict (h id rfl)]

theorem clientUserName_restrict {userId : Option Uuid}
    (h : ∀ id ∈ userId, ∀ u, Table.find ClientUser.id id db.clientUsers = some u →
      u.clientId = clientId) :
    clientUserName (restrict clientId staff db) userId = clientUserName db userId := by
  unfold clientUserName
  cases userId with
  | none => rfl
  | some id => rw [Option.bind_some, Option.bind_some, find_clientUser_restrict (h id rfl)]

theorem listPage_congr {α β : Type} {order : α → α → Bool} {f g : α → β} {page pageSize : ℤ}
    {rows : List α} (h : ∀ x ∈ rows, f x = g x) :
    listPage order f page pageSize rows = listPage order g page pageSize rows := by
  have hitems : ∀ skip size : ℕ, (((rows.mergeSort order).drop skip).take size).map f =
      (((rows.mergeSort order).drop skip).take size).map g := by
    intro skip size
    refine List.map_congr_left fun x hx => h x ?_
    exact List.mem_mergeSort.mp (List.mem_of_mem_drop (List.mem_of_mem_take hx))
  simp only [listPage, hitems]

variable (hlinked : Linked clientId staff db)

include hlinked

theorem portalMatter_restrict {m : Matter} (hm : m ∈ db.matters) (hclient : m.clientId = clientId) :
    portalMatter (restrict clientId staff db) m = portalMatter db m := by
  unfold portalMatter
  rw [staffName_restrict (hlinked.attorney_mem m hm hclient)]

theorem portalInvoice_restrict {inv : Invoice} (hinv : inv ∈ db.invoices)
    (hclient : inv.clientId = clientId) :
    portalInvoice (restrict clientId staff db) inv = portalInvoice db inv := by
  have hmatter : Table.find Matter.id inv.matterId (restrict clientId staff db).matters =
      Table.find Matter.id inv.matterId db.matters :=
    find_filter fun m hm => decide_eq_true (hlinked.invoice_matter inv hinv hclient m hm)
  unfold portalInvoice
  rw [hmatter]

theorem sharedDocumentItem_restrict {sd : SharedDocument} (hsd : sd ∈ db.sharedDocuments)
    (howns : owns db clientId sd.matterId = true) :
    sharedDocumentItem (restrict clientId staff db) sd = sharedDocumentItem db sd := by
  have hdocument : Table.find Document.id sd.documentId (restrict clientId staff db).documents =
      Table.find Document.id sd.documentId db.documents :=
    find_filter (hlinked.document_owned sd hsd howns)
  have hsharer : ∀ id ∈ some sd.sharedBy, id ∈ staff := by
    rintro id ⟨⟩
    exact hlinked.sharer_mem sd hsd howns
  unfold sharedDocumentItem
  rw [hdocument, staffName_restrict hsharer]

theorem senderName_restrict {msg : Message} (hmsg : msg ∈ db.messages)
    (howns : owns db clientId msg.matterId = true) :
    senderName (restrict clientId staff db) msg = senderName db msg := by
  unfold senderName
  rw [staffName_restrict (hlinked.sender_mem msg hmsg howns),
    clientUserName_restrict (hlinked.sender_client msg hmsg howns)]

/-! The read-only requests. -/

theorem getClientMatters_restrict (page pageSize : ℤ) :
    getClientMatters (restrict clientId staff db) clientId page pageSize =
      getClientMatters db clientId page pageSize := by
  unfold getClientMatters
  have hrows : (restrict clientId staff db).matters.filter (fun m => m.clientId = clientId) =
      db.matters.filter (fun m => m.clientId = clientId) := by
    rw [restrict, List.filter_filter]
    exact List.filter_congr fun m _ => Bool.and_self _
  rw [hrows]
  refine listPage_congr fun m hm => ?_
  obtain ⟨hmem, hclient⟩ := List.mem_filter.mp hm
  exact portalMatter_restrict hlinked hmem (of_decide_eq_true hclient)

theorem getClientMatterDetail_restrict (matterId : Uuid) :
    getClientMatterDetail (restrict clientId staff db) clientId matterId =
      getClientMatterDetail db clientId matterId := by
  unfold getClientMatterDetail
  rw [clientMatter_restrict]
  refine Option.map_congr fun m hm => ?_
  obtain ⟨hmem, hclient⟩ := clientMatter_eq_some hm
  exact portalMatter_restrict hlinked hmem hclient

theorem getSharedDocumentsStaff_restrict {matterId : Uuid} (howns : owns db clientId matterId = true)
    (page pageSize : ℤ) :
    getSharedDocumentsStaff (restrict clientId staff db) matterId page pageSize =
      getSharedDocumentsStaff db matterId page pageSize := by
  unfold getSharedDocumentsStaff
  have hrows : (restrict clientId staff db).sharedDocuments.filter (fun sd => sd.matterId = matterId) =
      db.sharedDocuments.filter (fun sd => sd.matterId = matterId) := by
    rw [restrict, List.filter_filter]
    refine List.filter_congr fun sd _ => ?_
    by_cases hsd : sd.matterId = matterId
    · simp [hsd, howns]
    · simp [hsd]
  rw [hrows]
  refine listPage_congr fun sd hsd => ?_
  obtain ⟨hmem, hmatter⟩ := List.mem_filter.mp hsd
  refine sharedDocumentItem_restrict hlinked hmem ?_
  rw [of_decide_eq_true hmatter]
  exact howns

theorem getSharedDocuments_restrict (matterId : Uuid) (page pageSize : ℤ) :
    getSharedDocuments (restrict clientId staff db) matterId clientId page pageSize =
      getSharedDocuments db matterId clientId page pageSize := by
  unfold getSharedDocuments
  rw [clientMatter_restrict]
  cases hmatter : clientMatter db clientId matterId with
  | none => rfl
  | some m =>
    refine getSharedDocumentsStaff_restrict hlinked ?_ page pageSize
    rw [owns, hmatter]
    rfl

theorem getClientInvoices_restrict (page pageSize : ℤ) :
    getClientInvoices (restrict clientId staff db) clientId page pageSize =
      getClientInvoices db clientId page pageSize := by
  unfold getClientInvoices
  have hrows : (restrict clientId staff db).invoices.filter
        (fun inv => inv.clientId = clientId ∧ inv.status ≠ .draft) =
      db.invoices.filter (fun inv => inv.clientId = clientId ∧ inv.status ≠ .draft) := by
    rw [restrict, List.filter_filter]
    refine List.filter_congr fun inv _ => ?_
    by_cases hinv : inv.clientId = clientId
    · simp [hinv]
    · simp [hinv]
  rw [hrows]
  refine listPage_congr fun inv hinv => ?_
  obtain ⟨hmem, hclient⟩ := List.mem_filter.mp hinv
  exact portalInvoice_restrict hlinked hmem (of_decide_eq_true hclient).1

theorem getMessages_restrict {matterId : Uuid} (howns : owns db clientId matterId = true)
    (page pageSize : ℤ) :
    getMessages (restrict clientId staff db) matterId page pageSize =
      getMessages db matterId page pageSize := by
  unfold getMessages
  have hrows : (restrict clientId staff db).messages.filter (fun msg => msg.matterId = matterId) =
      db.messages.filter (fun msg => msg.matterId = matterId) := by
    rw [restrict, List.filter_filter]
    refine List.filter_congr fun msg _ => ?_
    by_cases hmsg : msg.matterId = matterId
    · simp [hmsg, howns]
    · simp [hmsg]
  rw [hrows]
  refine listPage_congr fun msg hmsg => ?_
  obtain ⟨hmem, hmatter⟩ := List.mem_filter.mp hmsg
  rw [senderName_restrict hlinked hmem]
  rw [of_decide_eq_true hmatter]
  exact howns

omit hlinked in
theorem getUnreadCount_restrict :
    getUnreadCount (restrict clientId staff db) clientId = getUnreadCount db clientId := by
  have hids : (restrict clientId staff db).matters.filter (fun m => m.clientId = clientId) =
      db.matters.filter (fun m => m.clientId = clientId) := by
    rw [restrict, List.filter_filter]
    exact List.filter_congr fun m _ => Bool.and_self _
  have hmessages : (restrict clientId staff db).messages =
      db.messages.filter (fun msg => owns db clientId msg.matterId) := rfl
  simp only [getUnreadCount, hids, hmessages, List.filter_filter]
  congr 1
  refine List.filter_congr fun msg _ => ?_
  have howns : owns db clientId msg.matterId =
      decide (msg.matterId ∈ (db.matters.filter (fun m => m.clientId = clientId)).map Matter.id) := by
    rw [Bool.eq_iff_iff, owns_iff, decide_eq_true_iff, List.mem_map]
    constructor
    · rintro ⟨m, hm, hid, hclient⟩
      exact ⟨m, List.mem_filter.mpr ⟨hm, decide_eq_true hclient⟩, hid⟩
    · rintro ⟨m, hm, hid⟩
      obtain ⟨hmem, hclient⟩ := List.mem_filter.mp hm
      exact ⟨m, hmem, hid, of_decide_eq_true hclient⟩
  rw [howns, Bool.decide_and, Bool.and_right_comm, Bool.and_self]

omit hlinked

/-! The requests that write. -/

theorem refers_filter {α : Type} {key : α → Uuid} {p : α → Bool} {rows : List α} {o : Option Uuid}
    (h : ∀ id ∈ o, ∀ x, Table.find key id rows = some x → p x = true) :
    refers key (rows.filter p) o = refers key rows o := by
  cases o with
  | none => rfl
  | some id => rw [refers, refers, find_filter (h id rfl)]

theorem refers_matter {matterId : Uuid} (h : owns db clientId matterId = true) :
    refers Matter.id db.matters (some matterId) = true := by
  obtain ⟨m, hm, hid, -⟩ := owns_iff.mp h
  exact Option.isSome_iff_exists.mpr (Table.exists_find_iff.mpr (hid ▸ List.mem_map_of_mem hm))

theorem refers_matter_restrict {matterId : Uuid} :
    refers Matter.id (restrict clientId staff db).matters (some matterId) =
      owns db clientId matterId := by
  rw [Bool.eq_iff_iff, owns_iff, refers, Option.isSome_iff_exists, Table.exists_find_iff, List.mem_map]
  constructor
  · rintro ⟨m, hm, hid⟩
    obtain ⟨hmem, hclient⟩ := List.mem_filter.mp hm
    exact ⟨m, hmem, hid, of_decide_eq_true hclient⟩
  · rintro ⟨m, hm, hid, hclient⟩
    exact ⟨m, List.mem_filter.mpr ⟨hm, decide_eq_true hclient⟩, hid⟩

theorem refers_user_restrict {o : Option Uuid} (h : ∀ id ∈ o, id ∈ staff) :
    refers User.id (restrict clientId staff db).users o = refers User.id db.users o := by
  refine refers_filter fun id hid u hu => ?_
  rw [Table.key_of_find hu]
  exact decide_eq_true (h id hid)

/-- What a new message of one of the client's matters refers to. -/
structure OwnMessage (clientId : Uuid) (staff : List Uuid) (db : PortalDb) (msg : Message) : Prop where
  sender_mem : ∀ id ∈ msg.senderStaffId, id ∈ staff
  sender_client : ∀ id ∈ msg.senderClientUserId, ∀ u,
    Table.find ClientUser.id id db.clientUsers = some u → u.clientId = clientId
  parent_owned : ∀ id ∈ msg.parentMessageId, ∀ parent,
    Table.find Message.id id db.messages = some parent → owns db clientId parent.matterId = true
  taken_owned : ∀ old, Table.find Message.id msg.id db.messages = some old →
    owns db clientId old.matterId = true

theorem insertMessage_restrict {msg : Message} (howns : owns db clientId msg.matterId = true)
    (h : OwnMessage clientId staff db msg) :
    insertMessage (restrict clientId staff db) msg =
      (insertMessage db msg).map (restrict clientId staff) := by
  have hclient : refers ClientUser.id (restrict clientId staff db).clientUsers
      msg.senderClientUserId = refers ClientUser.id db.clientUsers msg.senderClientUserId :=
    refers_filter fun id hid u hu => decide_eq_true (h.sender_client id hid u hu)
  have hparent : refers Message.id (restrict clientId staff db).messages msg.parentMessageId =
      refers Message.id db.messages msg.parentMessageId :=
    refers_filter h.parent_owned
  have hinsert : Table.insert Message.id msg (restrict clientId staff db).messages =
      (Table.insert Message.id msg db.messages).map
        (List.filter fun msg => owns db clientId msg.matterId) :=
    insert_filter howns h.taken_owned
  unfold insertMessage
  rw [refers_matter_restrict, howns, refers_matter howns, refers_user_restrict h.sender_mem, hclient,
    hparent, hinsert]
  split_ifs
  · cases Table.insert Message.id msg db.messages with
    | none => rfl
    | some rows => rfl
  · rfl

theorem insertMessage_eq_some {msg : Message} {db' : PortalDb} (h : insertMessage db msg = some db') :
    (∀ old ∈ db.messages, old.id ≠ msg.id) ∧ db' = { db with messages := db.messages++[msg] } := by
  unfold insertMessage at h
  split_ifs at h
  obtain ⟨rows, hinsert, h⟩ := Option.bind_eq_some_iff.mp h
  obtain ⟨hfresh, rfl⟩ := Table.insert_eq_some_iff.mp hinsert
  exact ⟨hfresh, (Option.some.inj h).symm⟩

theorem Linked.afterInsert {msg : Message} {db' : PortalDb} (hlinked : Linked clientId staff db)
    (hown : owns db clientId msg.matterId = true → OwnMessage clientId staff db msg)
    (h : insertMessage db msg = some db') : Linked clientId staff db' := by
  obtain ⟨hfresh, rfl⟩ := insertMessage_eq_some h
  refine ⟨hlinked.attorney_mem, hlinked.invoice_matter, hlinked.document_owned, hlinked.sharer_mem,
    fun msg' hmsg' howns => ?_, fun msg' hmsg' howns => ?_,
    Table.nodup_append_singleton hlinked.message_nodup hfresh⟩
  · rcases List.mem_append.mp hmsg' with hold | hnew
    · exact hlinked.sender_mem msg' hold howns
    · rw [List.mem_singleton.mp hnew] at howns ⊢
      exact (hown howns).sender_mem
  · rcases List.mem_append.mp hmsg' with hold | hnew
    · exact hlinked.sender_client msg' hold howns
    · rw [List.mem_singleton.mp hnew] at howns ⊢
      exact (hown howns).sender_client

/-- A message to a matter of another client is not in the view. -/
theorem restrict_insertMessage {msg : Message} {db' : PortalDb}
    (howns : owns db clientId msg.matterId = false) (h : insertMessage db msg = some db') :
    restrict clientId staff db' = restrict clientId staff db := by
  obtain ⟨-, rfl⟩ := insertMessage_eq_some h
  have hmessages : (db.messages++[msg]).filter (fun msg => owns db clientId msg.matterId) =
      db.messages.filter (fun msg => owns db clientId msg.matterId) := by
    rw [List.filter_append, List.filter_singleton, howns]
    exact List.append_nil _
  exact congrArg (fun rows => { restrict clientId staff db with messages := rows }) hmessages

theorem newMessage_eq_some {data : MessageCreate} {senderType : SenderType}
    {messageId senderId : Uuid} {now : Instant} {msg : Message}
    (h : newMessage data senderType messageId senderId now = some msg) :
    msg.matterId = data.matterId ∧ msg.id = messageId ∧ msg.parentMessageId = data.parentMessageId ∧
      msg.senderStaffId = (if senderType = .staff then some senderId else none) ∧
      msg.senderClientUserId = if senderType = .staff then none else some senderId := by
  obtain ⟨subject, -, h⟩ := Option.bind_eq_some_iff.mp h
  obtain ⟨body, -, h⟩ := Option.bind_eq_some_iff.mp h
  obtain rfl := Option.some.inj h
  exact ⟨rfl, rfl, rfl, rfl, rfl⟩

/-- The sender is one of these members of the staff, or a user of the client. -/
def SenderFits (clientId : Uuid) (staff : List Uuid) (db : PortalDb) (senderId : Uuid) :
    SenderType → Prop
  | .staff => senderId ∈ staff
  | .client => ∀ u, Table.find ClientUser.id senderId db.clientUsers = some u → u.clientId = clientId

section
variable {data : MessageCreate} {senderType : SenderType} {messageId senderId : Uuid} {now : Instant}

theorem ownMessage_of_new {msg : Message} (hthreaded : Threaded clientId db data messageId)
    (hsender : SenderFits clientId staff db senderId senderType)
    (hnew : newMessage data senderType messageId senderId now = some msg)
    (howns : owns db clientId msg.matterId = true) : OwnMessage clientId staff db msg := by
  obtain ⟨hmatter, hid, hparent, hstaff, hclient⟩ := newMessage_eq_some hnew
  rw [hmatter] at howns
  obtain ⟨hparent_owned, htaken⟩ := hthreaded howns
  rw [← hparent] at hparent_owned
  rw [← hid] at htaken
  refine ⟨fun id hmem => ?_, fun id hmem => ?_, hparent_owned, htaken⟩
  · cases senderType with
    | staff =>
      rw [hstaff] at hmem
      obtain rfl := Option.some.inj hmem
      exact hsender
    | client =>
      rw [hstaff] at hmem
      cases hmem
  · cases senderType with
    | staff =>
      rw [hclient] at hmem
      cases hmem
    | client =>
      rw [hclient] at hmem
      obtain rfl := Option.some.inj hmem
      exact hsender

theorem sendMessage_restrict (howns : owns db clientId data.matterId = true)
    (hthreaded : Threaded clientId db data messageId)
    (hsender : SenderFits clientId staff db senderId senderType) :
    sendMessage (restrict clientId staff db) data senderType messageId senderId now =
      (sendMessage db data senderType messageId senderId now).map
        (Prod.map id (restrict clientId staff)) := by
  unfold sendMessage
  cases hnew : newMessage data senderType messageId senderId now with
  | none => rfl
  | some msg =>
    have hmsg : owns db clientId msg.matterId = true := by
      rw [(newMessage_eq_some hnew).1]
      exact howns
    have hinsert := insertMessage_restrict hmsg (ownMessage_of_new hthreaded hsender hnew hmsg)
    rw [Option.bind_eq_bind, Option.bind_eq_bind, Option.bind_some, Option.bind_some, hinsert]
    cases insertMessage db msg with
    | none => rfl
    | some db' => rfl

theorem Linked.afterSend {msg : Message} {db' : PortalDb} (hlinked : Linked clientId staff db)
    (hthreaded : Threaded clientId db data messageId)
    (hsender : SenderFits clientId staff db senderId senderType)
    (h : sendMessage db data senderType messageId senderId now = some (msg, db')) :
    Linked clientId staff db' := by
  obtain ⟨msg', hnew, h⟩ := Option.bind_eq_some_iff.mp h
  obtain ⟨db₁, hinsert, h⟩ := Option.bind_eq_some_iff.mp h
  obtain ⟨rfl, rfl⟩ := Prod.mk.inj (Option.some.inj h)
  exact hlinked.afterInsert (ownMessage_of_new hthreaded hsender hnew) hinsert

theorem restrict_sendMessage {msg : Message} {db' : PortalDb}
    (howns : owns db clientId data.matterId = false)
    (h : sendMessage db data senderType messageId senderId now = some (msg, db')) :
    restrict clientId staff db' = restrict clientId staff db := by
  obtain ⟨msg', hnew, h⟩ := Option.bind_eq_some_iff.mp h
  obtain ⟨db₁, hinsert, h⟩ := Option.bind_eq_some_iff.mp h
  obtain ⟨rfl, rfl⟩ := Prod.mk.inj (Option.some.inj h)
  refine restrict_insertMessage ?_ hinsert
  rw [(newMessage_eq_some hnew).1]
  exact howns

/-- In the view there is no matter of another client to write to. -/
theorem sendMessage_restrict_foreign (howns : owns db clientId data.matterId = false) :
    sendMessage (restrict clientId staff db) data senderType messageId senderId now = none := by
  unfold sendMessage
  cases hnew : newMessage data senderType messageId senderId now with
  | none => rfl
  | some msg =>
    rw [Option.bind_eq_bind, Option.bind_some, insertMessage, refers_matter_restrict,
      (newMessage_eq_some hnew).1, howns, if_neg (fun h => Bool.noConfusion h.1)]
    rfl

end

section
variable {data : ShareDocumentRequest} {sharedId sharedBy : Uuid} {now : Instant} {sd : SharedDocument}
  {db' : PortalDb}

theorem newSharedDocument_eq_some (h : newSharedDocument data sharedId sharedBy now = some sd) :
    sd.id = sharedId ∧ sd.documentId = data.documentId ∧ sd.matterId = data.matterId ∧
      sd.sharedBy = sharedBy := by
  obtain ⟨note, -, h⟩ := Option.bind_eq_some_iff.mp h
  obtain rfl := Option.some.inj h
  exact ⟨rfl, rfl, rfl, rfl⟩

theorem insertSharedDocument_eq_some (h : insertSharedDocument db sd = some db') :
    db' = { db with sharedDocuments := db.sharedDocuments++[sd] } := by
  unfold insertSharedDocument at h
  split_ifs at h
  obtain ⟨rows, hinsert, h⟩ := Option.bind_eq_some_iff.mp h
  obtain ⟨-, rfl⟩ := Table.insert_eq_some_iff.mp hinsert
  exact (Option.some.inj h).symm

theorem insertSharedDocument_restrict (howns : owns db clientId sd.matterId = true)
    (hsharer : sd.sharedBy ∈ staff)
    (hdocument : ∀ d, Table.find Document.id sd.documentId db.documents = some d →
      owns db clientId d.matterId = true)
    (htaken : ∀ old, Table.find SharedDocument.id sd.id db.sharedDocuments = some old →
      owns db clientId old.matterId = true) :
    insertSharedDocument (restrict clientId staff db) sd =
      (insertSharedDocument db sd).map (restrict clientId staff) := by
  have hrefers : refers Document.id (restrict clientId staff db).documents (some sd.documentId) =
      refers Document.id db.documents (some sd.documentId) := by
    refine refers_filter fun id hid => ?_
    obtain rfl := Option.some.inj hid
    exact hdocument
  have hstaff : ∀ id ∈ some sd.sharedBy, id ∈ staff := by
    rintro id ⟨⟩
    exact hsharer
  have hinsert : Table.insert SharedDocument.id sd (restrict clientId staff db).sharedDocuments =
      (Table.insert SharedDocument.id sd db.sharedDocuments).map
        (List.filter fun sd => owns db clientId sd.matterId) :=
    insert_filter howns htaken
  unfold insertSharedDocument
  rw [hrefers, refers_matter_restrict, howns, refers_matter howns, refers_user_restrict hstaff, hinsert]
  split_ifs
  · cases Table.insert SharedDocument.id sd db.sharedDocuments with
    | none => rfl
    | some rows => rfl
  · rfl

theorem shareDocument_restrict (howns : owns db clientId data.matterId = true)
    (hshares : SharesOwn clientId db data sharedId) (hsharer : sharedBy ∈ staff) :
    shareDocument (restrict clientId staff db) data sharedId sharedBy now =
      (shareDocument db data sharedId sharedBy now).map (Prod.map id (restrict clientId staff)) := by
  unfold shareDocument
  cases hnew : newSharedDocument data sharedId sharedBy now with
  | none => rfl
  | some sd =>
    obtain ⟨hid, hdocument, hmatter, hby⟩ := newSharedDocument_eq_some hnew
    obtain ⟨howned, htaken⟩ := hshares howns
    rw [← hmatter] at howns
    rw [← hdocument] at howned
    rw [← hid] at htaken
    rw [← hby] at hsharer
    have hinsert := insertSharedDocument_restrict howns hsharer howned htaken
    rw [Option.bind_eq_bind, Option.bind_eq_bind, Option.bind_some, Option.bind_some, hinsert]
    cases insertSharedDocument db sd with
    | none => rfl
    | some db' => rfl

theorem Linked.afterShare (hlinked : Linked clientId staff db)
    (hshares : SharesOwn clientId db data sharedId) (hsharer : sharedBy ∈ staff)
    (h : shareDocument db data sharedId sharedBy now = some (sd, db')) : Linked clientId staff db' := by
  obtain ⟨sd', hnew, h⟩ := Option.bind_eq_some_iff.mp h
  obtain ⟨db₁, hinsert, h⟩ := Option.bind_eq_some_iff.mp h
  obtain ⟨rfl, rfl⟩ := Prod.mk.inj (Option.some.inj h)
  obtain rfl := insertSharedDocument_eq_some hinsert
  obtain ⟨-, hdocument, hmatter, hby⟩ := newSharedDocument_eq_some hnew
  refine ⟨hlinked.attorney_mem, hlinked.invoice_matter, fun sd₀ hsd₀ howns => ?_,
    fun sd₀ hsd₀ howns => ?_, hlinked.sender_mem, hlinked.sender_client, hlinked.message_nodup⟩
  · rcases List.mem_append.mp hsd₀ with hold | hnew₀
    · exact hlinked.document_owned sd₀ hold howns
    · rw [List.mem_singleton.mp hnew₀, hmatter] at howns
      rw [List.mem_singleton.mp hnew₀, hdocument]
      exact (hshares howns).1
  · rcases List.mem_append.mp hsd₀ with hold | hnew₀
    · exact hlinked.sharer_mem sd₀ hold howns
    · rw [List.mem_singleton.mp hnew₀, hby]
      exact hsharer

theorem restrict_shareDocument (howns : owns db clientId data.matterId = false)
    (h : shareDocument db data sharedId sharedBy now = some (sd, db')) :
    restrict clientId staff db' = restrict clientId staff db := by
  obtain ⟨sd', hnew, h⟩ := Option.bind_eq_some_iff.mp h
  obtain ⟨db₁, hinsert, h⟩ := Option.bind_eq_some_iff.mp h
  obtain ⟨rfl, rfl⟩ := Prod.mk.inj (Option.some.inj h)
  obtain rfl := insertSharedDocument_eq_some hinsert
  have hrows : (db.sharedDocuments++[sd']).filter (fun sd => owns db clientId sd.matterId) =
      db.sharedDocuments.filter (fun sd => owns db clientId sd.matterId) := by
    rw [List.filter_append, List.filter_singleton, (newSharedDocument_eq_some hnew).2.2.1, howns]
    exact List.append_nil _
  exact congrArg (fun rows => { restrict clientId staff db with sharedDocuments := rows }) hrows

theorem shareDocument_restrict_foreign (howns : owns db clientId data.matterId = false) :
    shareDocument (restrict clientId staff db) data sharedId sharedBy now = none := by
  unfold shareDocument
  cases hnew : newSharedDocument data sharedId sharedBy now with
  | none => rfl
  | some sd =>
    rw [Option.bind_eq_bind, Option.bind_some, insertSharedDocument, refers_matter_restrict,
      (newSharedDocument_eq_some hnew).2.2.1, howns, if_neg (fun h => Bool.noConfusion h.2.1)]
    rfl

end

/-! Marks and logins change rows in place. -/

/-- The tables once a message is marked as read. -/
def markedRead (db : PortalDb) (messageId : Uuid) (now : Instant) : PortalDb :=
  { db with messages := Table.alter Message.id messageId (readMessage now) db.messages }

theorem restrict_markedRead (messageId : Uuid) (now : Instant) :
    restrict clientId staff (markedRead db messageId now) =
      markedRead (restrict clientId staff db) messageId now := by
  have hmessages : (Table.alter Message.id messageId (readMessage now) db.messages).filter
        (fun msg => owns db clientId msg.matterId) =
      Table.alter Message.id messageId (readMessage now)
        (db.messages.filter (fun msg => owns db clientId msg.matterId)) :=
    filter_alter fun _ => rfl
  exact congrArg (fun rows => { restrict clientId staff db with messages := rows }) hmessages

theorem Linked.afterMark (hlinked : Linked clientId staff db) (messageId : Uuid) (now : Instant) :
    Linked clientId staff (markedRead db messageId now) := by
  refine ⟨hlinked.attorney_mem, hlinked.invoice_matter, hlinked.document_owned, hlinked.sharer_mem,
    fun msg hmsg howns => ?_, fun msg hmsg howns => ?_, ?_⟩
  · obtain ⟨old, hold, rfl⟩ := Table.mem_alter.mp hmsg
    split_ifs at howns ⊢
    · exact hlinked.sender_mem old hold howns
    · exact hlinked.sender_mem old hold howns
  · obtain ⟨old, hold, rfl⟩ := Table.mem_alter.mp hmsg
    split_ifs at howns ⊢
    · exact hlinked.sender_client old hold howns
    · exact hlinked.sender_client old hold howns
  · have hkeys : (markedRead db messageId now).messages.map Message.id =
        db.messages.map Message.id := by
      refine Table.map_key_alter ?_ db.messages
      exact fun msg hid => hid
    exact hkeys ▸ hlinked.message_nodup

theorem restrict_loggedIn (userId : Uuid) (login : ClientLogin) :
    restrict clientId staff
        { db with clientUsers := Table.alter ClientUser.id userId (loggedIn login) db.clientUsers } =
      { restrict clientId staff db with
        clientUsers := Table.alter ClientUser.id userId (loggedIn login)
          (restrict clientId staff db).clientUsers } := by
  have husers : (Table.alter ClientUser.id userId (loggedIn login) db.clientUsers).filter
        (fun u => u.clientId = clientId) =
      Table.alter ClientUser.id userId (loggedIn login)
        (db.clientUsers.filter (fun u => u.clientId = clientId)) :=
    filter_alter fun _ => rfl
  exact congrArg (fun rows => { restrict clientId staff db with clientUsers := rows }) husers

theorem Linked.afterLogin (hlinked : Linked clientId staff db) (userId : Uuid) (login : ClientLogin) :
    Linked clientId staff
      { db with clientUsers := Table.alter ClientUser.id userId (loggedIn login) db.clientUsers } := by
  refine ⟨hlinked.attorney_mem, hlinked.invoice_matter, hlinked.document_owned, hlinked.sharer_mem,
    hlinked.sender_mem, fun msg hmsg howns id hid u hu => ?_, hlinked.message_nodup⟩
  have hkeys : ∀ x : ClientUser, (if x.id = userId then loggedIn login x else x).id = x.id := by
    refine Table.key_alter_row ?_
    exact fun x hkey => hkey
  obtain ⟨old, hold, rfl⟩ := Option.map_eq_some_iff.mp
    ((Table.find_map hkeys id db.clientUsers).symm.trans hu)
  have hclient := hlinked.sender_client msg hmsg howns id hid old hold
  split_ifs
  · exact hclient
  · exact hclient

theorem clientMatter_eq_none_iff {matterId : Uuid} :
    clientMatter db clientId matterId = none ↔ owns db clientId matterId = false := by
  rw [owns, Option.isSome_eq_false_iff, Option.isNone_iff_eq_none]

section
variable {user : ClientUser} {messageId : Uuid} {now : Instant} {msg : Message}

theorem mark_of_not_found (h : Table.find Message.id messageId db.messages = none) :
    clientRequest user (.markMessageRead messageId now) db = (.error messageNotFound, db) := by
  simp only [clientRequest, markMessageRead, h, Option.map_none]

/-- The mark is made and flushed before the owner of the matter is looked up. -/
theorem mark_of_foreign (h : Table.find Message.id messageId db.messages = some msg)
    (howns : owns db user.clientId msg.matterId = false) :
    clientRequest user (.markMessageRead messageId now) db =
      (.error messageNotFound, markedRead db messageId now) := by
  have hmatter : clientMatter (markedRead db messageId now) user.clientId
      (readMessage now msg).matterId = none :=
    clientMatter_eq_none_iff.mpr howns
  rw [markedRead] at hmatter
  simp only [clientRequest, markMessageRead, h, Option.map_some, hmatter, markedRead]

theorem mark_of_owned (h : Table.find Message.id messageId db.messages = some msg)
    (howns : owns db user.clientId msg.matterId = true) :
    clientRequest user (.markMessageRead messageId now) db =
      (.ok (.message (messageResponse (senderName db msg) (readMessage now msg))),
        markedRead db messageId now) := by
  obtain ⟨m, hm⟩ := Option.isSome_iff_exists.mp howns
  have hmatter : clientMatter (markedRead db messageId now) user.clientId
      (readMessage now msg).matterId = some m := hm
  have hname : senderName (markedRead db messageId now) (readMessage now msg) = senderName db msg := rfl
  rw [markedRead] at hmatter hname
  simp only [clientRequest, markMessageRead, h, Option.map_some, hmatter, hname, markedRead]

/-- A mark on a message of another client is refused, and is not in the view. -/
theorem markMessageRead_restrict (hlinked : Linked user.clientId staff db) :
    clientRequest user (.markMessageRead messageId now) (restrict user.clientId staff db) =
      ((clientRequest user (.markMessageRead messageId now) db).1,
        restrict user.clientId staff (clientRequest user (.markMessageRead messageId now) db).2) := by
  cases hfind : Table.find Message.id messageId db.messages with
  | none =>
    have hview : Table.find Message.id messageId (restrict user.clientId staff db).messages = none := by
      rw [← hfind]
      refine find_filter fun msg hmsg => ?_
      rw [hfind] at hmsg
      cases hmsg
    rw [mark_of_not_found hfind, mark_of_not_found hview]
  | some msg =>
    cases howns : owns db user.clientId msg.matterId with
    | false =>
      have hview : Table.find Message.id messageId (restrict user.clientId staff db).messages = none :=
        find_filter_of_not hlinked.message_nodup hfind howns
      have hsame : markedRead (restrict user.clientId staff db) messageId now =
          restrict user.clientId staff db := by
        rw [markedRead, Table.alter_of_not_found hview]
      rw [mark_of_foreign hfind howns, mark_of_not_found hview, restrict_markedRead, hsame]
    | true =>
      have hview : Table.find Message.id messageId (restrict user.clientId staff db).messages =
          some msg := by
        rw [← hfind]
        refine find_filter fun msg' hmsg' => ?_
        rw [hfind] at hmsg'
        exact Option.some.inj hmsg' ▸ howns
      rw [mark_of_owned hfind howns, mark_of_owned hview ((owns_restrict msg.matterId).trans howns),
        restrict_markedRead, senderName_restrict hlinked (Table.mem_of_find hfind) howns]

end

/-- A user of the client is answered from the view, and changes it in the same way. -/
theorem clientRequest_restrict {user : ClientUser} {request : ClientRequest}
    (hlinked : Linked user.clientId staff db)
    (hsender : SenderFits user.clientId staff db user.id .client)
    (hsend : ∀ data messageId now, request = .sendMessage data messageId now →
      Threaded user.clientId db data messageId) :
    clientRequest user request (restrict user.clientId staff db) =
      ((clientRequest user request db).1,
        restrict user.clientId staff (clientRequest user request db).2) := by
  cases request with
  | getMe => rfl
  | listMatters page pageSize =>
    simp only [clientRequest, answer, getClientMatters_restrict hlinked]
  | getMatter matterId =>
    simp only [clientRequest, getClientMatterDetail_restrict hlinked]
    cases getClientMatterDetail db user.clientId matterId with
    | none => rfl
    | some detail => rfl
  | getDocuments matterId page pageSize =>
    simp only [clientRequest, answer, getSharedDocuments_restrict hlinked]
  | listInvoices page pageSize =>
    simp only [clientRequest, answer, getClientInvoices_restrict hlinked]
  | getMessages matterId page pageSize =>
    simp only [clientRequest, answer, clientMatter_restrict]
    cases hmatter : clientMatter db user.clientId matterId with
    | none => rfl
    | some m =>
      have howns : owns db user.clientId matterId = true := by
        rw [owns, hmatter]
        rfl
      simp only [getMessages_restrict hlinked howns]
  | sendMessage data messageId now =>
    simp only [clientRequest, clientMatter_restrict]
    cases hmatter : clientMatter db user.clientId data.matterId with
    | none => rfl
    | some m =>
      have howns : owns db user.clientId data.matterId = true := by
        rw [owns, hmatter]
        rfl
      simp only [sendMessage_restrict howns (hsend data messageId now rfl) hsender]
      cases sendMessage db data .client messageId user.id now with
      | none => rfl
      | some result => rfl
  | markMessageRead messageId now => exact markMessageRead_restrict hlinked
  | getUnreadCount => simp only [clientRequest, getUnreadCount_restrict]

/-- What a portal request leaves in its session. -/
theorem Linked.afterClient {user : ClientUser} {request : ClientRequest}
    (hlinked : Linked clientId staff db) (hsender : SenderFits clientId staff db user.id .client)
    (hsend : ∀ data messageId now, request = .sendMessage data messageId now →
      Threaded clientId db data messageId) :
    Linked clientId staff (clientRequest user request db).2 := by
  cases request with
  | getMe => exact hlinked
  | listMatters page pageSize => exact hlinked
  | getMatter matterId =>
    simp only [clientRequest]
    split
    · exact hlinked
    · exact hlinked
  | getDocuments matterId page pageSize => exact hlinked
  | listInvoices page pageSize => exact hlinked
  | getMessages matterId page pageSize =>
    simp only [clientRequest]
    split
    · exact hlinked
    · exact hlinked
  | sendMessage data messageId now =>
    simp only [clientRequest]
    split
    · exact hlinked
    · split
      · exact hlinked
      · rename_i msg db' hsent
        exact hlinked.afterSend (hsend data messageId now rfl) hsender hsent
  -- a foreign message is marked in the session before the request is refused
  | markMessageRead messageId now =>
    cases hfind : Table.find Message.id messageId db.messages with
    | none =>
      rw [mark_of_not_found hfind]
      exact hlinked
    | some msg =>
      cases howns : owns db user.clientId msg.matterId with
      | false =>
        rw [mark_of_foreign hfind howns]
        exact hlinked.afterMark messageId now
      | true =>
        rw [mark_of_owned hfind howns]
        exact hlinked.afterMark messageId now
  | getUnreadCount => exact hlinked

theorem getCurrentUser_restrict {userId : Uuid} (h : userId ∈ staff) :
    getCurrentUser (restrict clientId staff db) userId = getCurrentUser db userId := by
  rw [getCurrentUser, getCurrentUser, find_user_restrict h]

theorem getCurrentUser_eq_ok {userId : Uuid} {user : User} (h : getCurrentUser db userId = .ok user) :
    user.id = userId := by
  unfold getCurrentUser at h
  split at h
  · cases h
  · rename_i u hfind
    split_ifs at h
    obtain rfl := Except.ok.inj h
    exact Table.key_of_find hfind

theorem getCurrentClientUser_eq_ok {userId : Uuid} {user : ClientUser}
    (h : getCurrentClientUser db userId = .ok user) :
    Table.find ClientUser.id userId db.clientUsers = some user ∧ user.id = userId := by
  unfold getCurrentClientUser at h
  split at h
  · cases h
  · rename_i u hfind
    split_ifs at h
    obtain rfl := Except.ok.inj h
    exact ⟨hfind, Table.key_of_find hfind⟩

theorem committed_share {user : User} (data : ShareDocumentRequest) (sharedId : Uuid) (now : Instant) :
    committed (staffRequest user (.shareDocument data sharedId now)) db =
      ((shareDocument db data sharedId user.id now).map Prod.snd).getD db := by
  unfold committed
  simp only [staffRequest]
  cases shareDocument db data sharedId user.id now with
  | none => rfl
  | some result => rfl

theorem committed_send {user : User} (data : MessageCreate) (messageId : Uuid) (now : Instant) :
    committed (staffRequest user (.sendMessage data messageId now)) db =
      ((sendMessage db data .staff messageId user.id now).map Prod.snd).getD db := by
  unfold committed
  simp only [staffRequest]
  cases sendMessage db data .staff messageId user.id now with
  | none => rfl
  | some result => rfl

/-- What a request of the staff writes to the client's matters it writes to the view, and
what it writes to others is not in the view. -/
theorem staffRequest_restrict {user : User} {request : StaffRequest} (huser : user.id ∈ staff)
    (hshare : ∀ data sharedId now, request = .shareDocument data sharedId now →
      SharesOwn clientId db data sharedId)
    (hsend : ∀ data messageId now, request = .sendMessage data messageId now →
      Threaded clientId db data messageId) :
    committed (staffRequest user request) (restrict clientId staff db) =
      restrict clientId staff (committed (staffRequest user request) db) := by
  cases request with
  | listSharedDocuments matterId page pageSize =>
    rw [committed_of_snd rfl, committed_of_snd rfl]
  | getMessages matterId page pageSize =>
    rw [committed_of_snd rfl, committed_of_snd rfl]
  | shareDocument data sharedId now =>
    rw [committed_share, committed_share]
    cases howns : owns db clientId data.matterId with
    | true =>
      rw [shareDocument_restrict howns (hshare data sharedId now rfl) huser]
      cases shareDocument db data sharedId user.id now with
      | none => rfl
      | some result => rfl
    | false =>
      rw [shareDocument_restrict_foreign howns]
      cases hshared : shareDocument db data sharedId user.id now with
      | none => rfl
      | some result => exact (restrict_shareDocument howns hshared).symm
  | sendMessage data messageId now =>
    rw [committed_send, committed_send]
    cases howns : owns db clientId data.matterId with
    | true =>
      have hsender : SenderFits clientId staff db user.id .staff := huser
      rw [sendMessage_restrict howns (hsend data messageId now rfl) hsender]
      cases sendMessage db data .staff messageId user.id now with
      | none => rfl
      | some result => rfl
    | false =>
      rw [sendMessage_restrict_foreign howns]
      cases hsent : sendMessage db data .staff messageId user.id now with
      | none => rfl
      | some result => exact (restrict_sendMessage howns hsent).symm

theorem Linked.afterStaff {user : User} {request : StaffRequest}
    (hlinked : Linked clientId staff db) (huser : user.id ∈ staff)
    (hshare : ∀ data sharedId now, request = .shareDocument data sharedId now →
      SharesOwn clientId db data sharedId)
    (hsend : ∀ data messageId now, request = .sendMessage data messageId now →
      Threaded clientId db data messageId) :
    Linked clientId staff (committed (staffRequest user request) db) := by
  cases request with
  | listSharedDocuments matterId page pageSize =>
    rw [committed_of_snd rfl]
    exact hlinked
  | getMessages matterId page pageSize =>
    rw [committed_of_snd rfl]
    exact hlinked
  | shareDocument data sharedId now =>
    rw [committed_share]
    cases hshared : shareDocument db data sharedId user.id now with
    | none => exact hlinked
    | some result => exact hlinked.afterShare (hshare data sharedId now rfl) huser hshared
  | sendMessage data messageId now =>
    rw [committed_send]
    cases hsent : sendMessage db data .staff messageId user.id now with
    | none => exact hlinked
    | some result =>
      have hsender : SenderFits clientId staff db user.id .staff := huser
      exact hlinked.afterSend (hsend data messageId now rfl) hsender hsent

section
variable {cfg : Config} {login : ClientLogin}

theorem authenticateClientUser_eq_some {u : ClientUser} {db' : PortalDb}
    (h : authenticateClientUser cfg db login = some (u, db')) :
    ∃ old, Table.find ClientUser.email login.email db.clientUsers = some old ∧ db' = { db with
      clientUsers := Table.alter ClientUser.id old.id (loggedIn login) db.clientUsers } := by
  unfold authenticateClientUser at h
  split at h
  · cases h
  · rename_i old hfind
    split_ifs at h
    exact ⟨old, hfind, (Prod.mk.inj (Option.some.inj h)).2.symm⟩

theorem authenticateClientUser_restrict
    (h : ∀ u, Table.find ClientUser.email login.email db.clientUsers = some u →
      u.clientId = clientId) :
    authenticateClientUser cfg (restrict clientId staff db) login =
      (authenticateClientUser cfg db login).map (Prod.map id (restrict clientId staff)) := by
  unfold authenticateClientUser
  rw [find_clientUser_restrict h]
  cases Table.find ClientUser.email login.email db.clientUsers with
  | none => rfl
  | some u =>
    simp only []
    split_ifs
    · rfl
    · rfl
    · rw [Option.map_some, Prod.map_apply, restrict_loggedIn]
      rfl

end

section
variable {cfg : Config} {call : PortalCall}

theorem find_clientUser_of_within {κ : Type} [DecidableEq κ] {key : ClientUser → κ} {k : κ}
    (h : ∃ u, Table.find key k db.clientUsers = some u ∧ u.clientId = clientId) :
    ∀ u, Table.find key k db.clientUsers = some u → u.clientId = clientId := by
  obtain ⟨u, hfind, hclient⟩ := h
  intro u' hu'
  rw [hfind] at hu'
  exact Option.some.inj hu' ▸ hclient

/-- The portal requests of the client commute with the view. -/
theorem portalHandle_restrict (hlinked : Linked clientId staff db)
    (hwithin : Within clientId staff db call) (hportal : isPortal call = true) :
    portalHandle cfg call (restrict clientId staff db) =
      ((portalHandle cfg call db).1, restrict clientId staff (portalHandle cfg call db).2) := by
  cases call with
  | login login =>
    simp only [portalHandle, authenticateClientUser_restrict (find_clientUser_of_within hwithin)]
    cases authenticateClientUser cfg db login with
    | none => rfl
    | some result => rfl
  | client userId request =>
    obtain ⟨huser, hsend⟩ := hwithin
    have hview : getCurrentClientUser (restrict clientId staff db) userId =
        getCurrentClientUser db userId := by
      rw [getCurrentClientUser, getCurrentClientUser,
        find_clientUser_restrict (find_clientUser_of_within huser)]
    simp only [portalHandle, hview]
    cases hcurrent : getCurrentClientUser db userId with
    | error error => rfl
    | ok user =>
      obtain ⟨hfind, rfl⟩ := getCurrentClientUser_eq_ok hcurrent
      obtain rfl := find_clientUser_of_within huser user hfind
      exact clientRequest_restrict hlinked (find_clientUser_of_within huser) hsend
  | staff userId request => cases hportal

theorem committed_staff_of_ok {userId : Uuid} {user : User} (request : StaffRequest)
    (h : getCurrentUser db userId = .ok user) :
    committed (portalHandle cfg (.staff userId request)) db = committed (staffRequest user request) db := by
  refine committed_congr ?_
  simp only [portalHandle, h]

theorem committed_staff_of_error {userId : Uuid} {error : HttpError} (request : StaffRequest)
    (h : getCurrentUser db userId = .error error) :
    committed (portalHandle cfg (.staff userId request)) db = db := by
  refine committed_of_snd ?_
  simp only [portalHandle, h]

theorem committed_restrict (hlinked : Linked clientId staff db)
    (hwithin : Within clientId staff db call) :
    committed (portalHandle cfg call) (restrict clientId staff db) =
      restrict clientId staff (committed (portalHandle cfg call) db) := by
  cases call with
  | login login => exact committed_view (portalHandle_restrict hlinked hwithin rfl)
  | client userId request => exact committed_view (portalHandle_restrict hlinked hwithin rfl)
  | staff userId request =>
    obtain ⟨hstaff, hshare, hsend⟩ := hwithin
    have hview : getCurrentUser (restrict clientId staff db) userId = getCurrentUser db userId :=
      getCurrentUser_restrict hstaff
    cases hcurrent : getCurrentUser db userId with
    | error error =>
      rw [committed_staff_of_error request hcurrent,
        committed_staff_of_error request (hview.trans hcurrent)]
    | ok user =>
      rw [committed_staff_of_ok request hcurrent, committed_staff_of_ok request (hview.trans hcurrent)]
      have huser : user.id ∈ staff := by
        rw [getCurrentUser_eq_ok hcurrent]
        exact hstaff
      exact staffRequest_restrict huser hshare hsend

theorem Linked.step (hlinked : Linked clientId staff db) (hwithin : Within clientId staff db call) :
    Linked clientId staff (committed (portalHandle cfg call) db) := by
  cases call with
  | login login =>
    cases hauth : authenticateClientUser cfg db login with
    | none =>
      rw [committed_of_snd (by simp only [portalHandle, hauth])]
      exact hlinked
    | some result =>
      obtain ⟨u, db'⟩ := result
      obtain ⟨old, -, rfl⟩ := authenticateClientUser_eq_some hauth
      have hok : committed (portalHandle cfg (.login login)) db =
          { db with clientUsers := Table.alter ClientUser.id old.id (loggedIn login) db.clientUsers } := by
        simp only [committed, portalHandle, hauth]
      rw [hok]
      exact hlinked.afterLogin old.id login
  | client userId request =>
    obtain ⟨huser, hsend⟩ := hwithin
    cases hcurrent : getCurrentClientUser db userId with
    | error error =>
      rw [committed_of_snd (by simp only [portalHandle, hcurrent])]
      exact hlinked
    | ok user =>
      obtain ⟨hfind, rfl⟩ := getCurrentClientUser_eq_ok hcurrent
      have hsame : portalHandle cfg (.client user.id request) db = clientRequest user request db := by
        simp only [portalHandle, hcurrent]
      rcases committed_cases (portalHandle cfg (.client user.id request)) db with
        ⟨error, t, -, hkeep⟩ | ⟨response, t, hok, hnew⟩
      · rw [hkeep]
        exact hlinked
      · rw [hnew]
        have hafter := hlinked.afterClient (find_clientUser_of_within huser) hsend
        rw [hsame] at hok
        rw [hok] at hafter
        exact hafter
  | staff userId request =>
    obtain ⟨hstaff, hshare, hsend⟩ := hwithin
    cases hcurrent : getCurrentUser db userId with
    | error error =>
      rw [committed_staff_of_error request hcurrent]
      exact hlinked
    | ok user =>
      rw [committed_staff_of_ok request hcurrent]
      have huser : user.id ∈ staff := by
        rw [getCurrentUser_eq_ok hcurrent]
        exact hstaff
      exact hlinked.afterStaff huser hshare hsend

/-- The view decides what the client's users see. -/
theorem respects_restrict (cfg : Config) (clientId : Uuid) (staff : List Uuid) :
    Respects (portalHandle cfg) isPortal (restrict clientId staff) (Linked clientId staff)
      (Within clientId staff) where
  response db call hlinked hwithin hportal := by
    rw [portalHandle_restrict hlinked hwithin hportal]
  state db call hlinked hwithin := committed_restrict hlinked hwithin
  keeps db call hlinked hwithin := hlinked.step hwithin

end

end

end LegalForge.Portal
