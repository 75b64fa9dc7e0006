import LegalForge.PortalView

/-! The users of one client see nothing of the matters of others, and change nothing of them. -/
namespace LegalForge.Portal
open Auth Matters UnitOfWork Transition Noninterference

/-- The rows that do not belong to the client's matters. -/
def outside (clientId : Uuid) (db : PortalDb) : PortalDb where
  users := db.users
  clientUsers := db.clientUsers.filter (fun u => !decide (u.clientId = clientId))
  matters := db.matters.filter (fun m => !decide (m.clientId = clientId))
  documents := db.documents.filter (fun d => !owns db clientId d.matterId)
  sharedDocuments := db.sharedDocuments.filter (fun sd => !owns db clientId sd.matterId)
  invoices := db.invoices.filter (fun inv => !decide (inv.clientId = clientId))
  messages := db.messages.filter (fun msg => !owns db clientId msg.matterId)

/-- The portal request of a user of the client. -/
def ByClient (clientId : Uuid) (db : PortalDb) : PortalCall → Prop
  | .login login =>
    ∃ u, Table.find ClientUser.email login.email db.clientUsers = some u ∧ u.clientId = clientId
  | .client userId _ =>
    ∃ u, Table.find ClientUser.id userId db.clientUsers = some u ∧ u.clientId = clientId
  | .staff _ _ => False

structure PrimaryKeys (db : PortalDb) : Prop where
  clientUser_nodup : (db.clientUsers.map ClientUser.id).Nodup
  message_nodup : (db.messages.map Message.id).Nodup

section
variable {clientId : Uuid} {db : PortalDb}

theorem outside_markedRead {messageId : Uuid} {msg : Message} (now : Instant)
    (hnodup : (db.messages.map Message.id).Nodup)
    (hfind : Table.find Message.id messageId db.messages = some msg)
    (howns : owns db clientId msg.matterId = true) :
    outside clientId (markedRead db messageId now) = outside clientId db := by
  have hmessages : (Table.alter Message.id messageId (readMessage now) db.messages).filter
        (fun msg => !owns db clientId msg.matterId) =
      db.messages.filter (fun msg => !owns db clientId msg.matterId) := by
    refine filter_not_alter (fun _ => rfl) fun x hx hid => ?_
    have hsame : x = msg := List.inj_on_of_nodup_map hnodup hx (Table.mem_of_find hfind)
      (hid.trans (Table.key_of_find hfind).symm)
    rw [hsame]
    exact howns
  exact congrArg (fun rows => { outside clientId db with messages := rows }) hmessages

theorem outside_insertMessage {msg : Message} {db' : PortalDb}
    (howns : owns db clientId msg.matterId = true) (h : insertMessage db msg = some db') :
    outside clientId db' = outside clientId db := by
  obtain ⟨-, rfl⟩ := insertMessage_eq_some h
  have hmessages : (db.messages++[msg]).filter (fun msg => !owns db clientId msg.matterId) =
      db.messages.filter (fun msg => !owns db clientId msg.matterId) := by
    rw [List.filter_append, List.filter_singleton, howns]
    exact List.append_nil _
  exact congrArg (fun rows => { outside clientId db with messages := rows }) hmessages

theorem outside_loggedIn {u : ClientUser} (login : ClientLogin)
    (hnodup : (db.clientUsers.map ClientUser.id).Nodup) (hu : u ∈ db.clientUsers)
    (hclient : u.clientId = clientId) :
    outside clientId { db with
        clientUsers := Table.alter ClientUser.id u.id (loggedIn login) db.clientUsers } =
      outside clientId db := by
  have husers : (Table.alter ClientUser.id u.id (loggedIn login) db.clientUsers).filter
        (fun u => !decide (u.clientId = clientId)) =
      db.clientUsers.filter (fun u => !decide (u.clientId = clientId)) := by
    refine filter_not_alter (fun _ => rfl) fun x hx hid => decide_eq_true ?_
    rw [List.inj_on_of_nodup_map hnodup hx hu hid]
    exact hclient
  exact congrArg (fun rows => { outside clientId db with clientUsers := rows }) husers

theorem outside_clientRequest {user : ClientUser} (request : ClientRequest)
    (hnodup : (db.messages.map Message.id).Nodup) :
    outside user.clientId (committed (clientRequest user request) db) = outside user.clientId db := by
  cases request with
  | getMe => rw [committed_of_snd rfl]
  | listMatters page pageSize => rw [committed_of_snd rfl]
  | getMatter matterId =>
    rw [committed_of_snd]
    simp only [clientRequest]
    split
    · rfl
    · rfl
  | getDocuments matterId page pageSize => rw [committed_of_snd rfl]
  | listInvoices page pageSize => rw [committed_of_snd rfl]
  | getMessages matterId page pageSize =>
    rw [committed_of_snd]
    simp only [clientRequest]
    split
    · rfl
    · rfl
  -- two requests write, and what they write is the client's own
  | sendMessage data messageId now =>
    rcases committed_cases (clientRequest user (.sendMessage data messageId now)) db with
      ⟨error, t, -, hkeep⟩ | ⟨response, t, hok, hnew⟩
    · rw [hkeep]
    · rw [hnew]
      simp only [clientRequest] at hok
      split at hok
      · cases hok
      · rename_i m hmatter
        split at hok
        · cases hok
        · rename_i msg db' hsent
          obtain ⟨-, rfl⟩ := Prod.mk.inj hok
          obtain ⟨msg', hmsg, h⟩ := Option.bind_eq_some_iff.mp hsent
          obtain ⟨db₁, hinsert, h⟩ := Option.bind_eq_some_iff.mp h
          obtain ⟨rfl, rfl⟩ := Prod.mk.inj (Option.some.inj h)
          refine outside_insertMessage ?_ hinsert
          rw [(newMessage_eq_some hmsg).1, owns, hmatter]
          rfl
  | markMessageRead messageId now =>
    cases hfind : Table.find Message.id messageId db.messages with
    | none => rw [committed_of_error (mark_of_not_found hfind)]
    | some msg =>
      cases howns : owns db user.clientId msg.matterId with
      | false => rw [committed_of_error (mark_of_foreign hfind howns)]
      | true =>
        rw [committed_of_ok (mark_of_owned hfind howns)]
        exact outside_markedRead now hnodup hfind howns
  | getUnreadCount => rw [committed_of_snd rfl]

/-- No portal request by a user of the client changes a row outside the client's matters. -/
theorem outside_committed (cfg : Config) {call : PortalCall} (hkeys : PrimaryKeys db)
    (hclient : ByClient clientId db call) :
    outside clientId (committed (portalHandle cfg call) db) = outside clientId db := by
  cases call with
  | login login =>
    obtain ⟨u, hfind, rfl⟩ := hclient
    cases hauth : authenticateClientUser cfg db login with
    | none => rw [committed_of_snd (by simp only [portalHandle, hauth])]
    | some result =>
      obtain ⟨u', db'⟩ := result
      obtain ⟨old, hold, rfl⟩ := authenticateClientUser_eq_some hauth
      obtain rfl := Option.some.inj (hfind.symm.trans hold)
      have hok : committed (portalHandle cfg (.login login)) db =
          { db with clientUsers := Table.alter ClientUser.id u.id (loggedIn login) db.clientUsers } := by
        simp only [committed, portalHandle, hauth]
      rw [hok]
      exact outside_loggedIn login hkeys.clientUser_nodup (Table.mem_of_find hfind) rfl
  | client userId request =>
    obtain ⟨u, hfind, rfl⟩ := hclient
    cases hcurrent : getCurrentClientUser db userId with
    | error error => rw [committed_of_snd (by simp only [portalHandle, hcurrent])]
    | ok user =>
      obtain ⟨hfind', rfl⟩ := getCurrentClientUser_eq_ok hcurrent
      obtain rfl := Option.some.inj (hfind.symm.trans hfind')
      have hsame : portalHandle cfg (.client u.id request) db = clientRequest u request db := by
        simp only [portalHandle, hcurrent]
      rw [committed_congr hsame]
      exact outside_clientRequest request hkeys.message_nodup
  | staff userId request => exact hclient.elim

end

/-- The portal requests of a client's users change no row outside the client's matters. Two
states with the same rows of the client's matters, linked to rows of the same client only, answer
these requests alike in every run whose requests refer from the client's matters to rows of the
client only. -/
theorem portal_isolated (cfg : Config) (clientId : Uuid) :
    (∀ db call, PrimaryKeys db → ByClient clientId db call →
      outside clientId (committed (portalHandle cfg call) db) = outside clientId db) ∧
    ∀ staff s t calls, Linked clientId staff s → Linked clientId staff t →
      restrict clientId staff s = restrict clientId staff t →
      Along (serve (portalHandle cfg)) (fun db call _ => Within clientId staff db call) s calls →
      Along (serve (portalHandle cfg)) (fun db call _ => Within clientId staff db call) t calls →
      observed (portalHandle cfg) isPortal s calls = observed (portalHandle cfg) isPortal t calls := by
  refine ⟨fun db call hkeys hclient => outside_committed cfg hkeys hclient, ?_⟩
  intro staff s t calls hs ht hview hcs hct
  exact (respects_restrict cfg clientId staff).observed_eq hs ht hview hcs hct

/-! Two clients with one matter each. -/

def portalConfig : Config where
  verifyPassword plain hashed := plain = hashed
  sha256 text := text

def clientLee : ClientUser :=
  { id := 7, clientId := 8, email := "lee@client.test", passwordHash := "x", firstName := "Ann"
    lastName := "Lee", createdAt := 0, updatedAt := 0 }

def staffKim : User :=
  { id := 1, email := "kim@firm.test", passwordHash := "x", firstName := "Jo", lastName := "Kim" }

def leeMatter : Matter :=
  { id := 3, matterNumber := some 10001, title := "Lee v. Park", clientId := 8
    dateOpened := ⟨739200, by decide, by decide⟩, assignedAttorneyId := some 1 }

def otherMatter : Matter :=
  { id := 4, matterNumber := some 10002, title := "Merger", clientId := 9
    dateOpened := ⟨739200, by decide, by decide⟩ }

/-- The other client's matter has one document. -/
def twoClients (filename : String) : PortalDb where
  users := [staffKim]
  clientUsers := [clientLee]
  matters := [leeMatter, otherMatter]
  documents := [{ id := 6, matterId := 4, uploadedBy := 1, filename := filename, storageKey := "k"
                  mimeType := "application/pdf", sizeBytes := 12 }]
  sharedDocuments := []
  invoices := []
  messages := []

theorem linked_twoClients (filename : String) : Linked 8 [1] (twoClients filename) where
  attorney_mem := by simp [twoClients, leeMatter, otherMatter]
  invoice_matter := by simp [twoClients]
  document_owned := by simp [twoClients]
  sharer_mem := by simp [twoClients]
  sender_mem := by simp [twoClients]
  sender_client := by simp [twoClients]
  message_nodup := by simp [twoClients]

theorem restrict_twoClients (filename filename' : String) :
    restrict 8 [1] (twoClients filename) = restrict 8 [1] (twoClients filename') := by
  rfl

/-- A message to the first client, which the client reads. -/
def messageSent : List PortalCall :=
  [.staff 1 (.sendMessage ⟨3, "Please call.", none, none, by decide⟩ 11 100),
    .client 7 (.getMessages 3 1 25)]

theorem within_messageSent (filename : String) :
    Along (serve (portalHandle portalConfig)) (fun db call _ => Within 8 [1] db call)
      (twoClients filename) messageSent := by
  intro t ht
  obtain rfl := Option.some.inj ht
  refine ⟨⟨List.mem_singleton.mpr rfl, by rintro _ _ _ ⟨⟩, ?_⟩, fun u hu => ⟨⟨?_, ?_⟩, trivial⟩⟩
  · rintro data messageId now ⟨⟩ -
    exact ⟨by rintro _ ⟨⟩, by rintro _ ⟨⟩⟩
  · exact ⟨clientLee, rfl, rfl⟩
  · rintro _ _ _ ⟨⟩

theorem portal_isolated_messageSent :
    outside 8 (committed (portalHandle portalConfig (.client 7 (.getMessages 3 1 25)))
        (twoClients "Will.pdf")) = outside 8 (twoClients "Will.pdf") ∧
      observed (portalHandle portalConfig) isPortal (twoClients "Offer.pdf") messageSent =
        observed (portalHandle portalConfig) isPortal (twoClients "Will.pdf") messageSent := by
  obtain ⟨hkept, hsame⟩ := portal_isolated portalConfig 8
  refine ⟨hkept _ _ ⟨by decide, by decide⟩ ⟨clientLee, rfl, rfl⟩, ?_⟩
  exact hsame [1] _ _ messageSent (linked_twoClients _) (linked_twoClients _)
    (restrict_twoClients _ _) (within_messageSent _) (within_messageSent _)

/-- The document of the other client is shared with the matter of the first. -/
def documentMisfiled : List PortalCall :=
  [.staff 1 (.shareDocument ⟨6, 3, none⟩ 10 100), .client 7 (.getDocuments 3 1 25)]

/-- The client sees how the other client's document is called. -/
theorem not_isolated_documentMisfiled :
    restrict 8 [1] (twoClients "Offer.pdf") = restrict 8 [1] (twoClients "Will.pdf") ∧
      observed (portalHandle portalConfig) isPortal (twoClients "Offer.pdf") documentMisfiled ≠
        observed (portalHandle portalConfig) isPortal (twoClients "Will.pdf") documentMisfiled := by
  refine ⟨restrict_twoClients _ _, ?_⟩
  decide +kernel

end LegalForge.Portal
