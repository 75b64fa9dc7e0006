import LegalForge.LeadConversion
import LegalForge.RowNumbering
import LegalForge.UnitOfWork

/-! The numbers of clients and matters over histories in which both are created and deleted. A
new record takes the number after the highest one that is left. -/
namespace LegalForge.Intake
open Auth Clients Matters Transition UnitOfWork RowNumbering
open Deadlines (intColumn)

/-- The tables, and the numbers assigned so far, which are not in a table. -/
structure FirmDb where
  users : List User
  clients : List Client
  matters : List Matter
  leads : List Lead
  clientLog : List ℤ
  matterLog : List ℤ

inductive FirmCall where
  | createClient (clientId createdBy : Uuid) (data : ClientCreate)
  | convertLead (call : ConvertCall)
  | createMatter (matterId : Uuid) (today : Day) (data : Access.MatterCreate)
  /-- Other tables may have rows that refer to the client. -/
  | deleteClient (clientId : Uuid) (referenced : Bool)
  | deleteMatter (matterId : Uuid) (referenced : Bool)

/-- Flush a client, then its number. -/
def addClient (db : FirmDb) (client : Client) : Option FirmDb := do
  let _ ← Table.insert Client.id client db.clients
  let number ← intColumn (nextClientNumber db.clients)
  some
    { db with
      clients := db.clients++[{ client with clientNumber := some number }]
      clientLog := db.clientLog++[number] }

/-- Flush a matter, then its number. -/
def addMatter (db : FirmDb) (matter : Matter) : Option FirmDb :=
  if matter.clientId ∈ db.clients.map Client.id ∧
      Access.attorneyKnown db.users matter.assignedAttorneyId then do
    let _ ← Table.insert Matter.id matter db.matters
    let number ← intColumn (Access.nextNumber db.matters)
    some
      { db with
        matters := db.matters++[{ matter with matterNumber := some number }]
        matterLog := db.matterLog++[number] }
  else none

/-- The matter of a converted lead, if there is one to create. -/
def addLeadMatter (db : FirmDb) (call : ConvertCall) : Option FirmDb :=
  match call.data.matter? with
  | none => some db
  | some title => do
    let matter ← leadMatter call.data title call.matterId call.clientId call.today
    addMatter db matter

/-- The lead row after its conversion. -/
def ConvertCall.update (call : ConvertCall) (row : Lead) : Lead :=
  { row with
    convertedClientId := some call.clientId
    convertedMatterId :=
      if call.data.matter?.isSome then some call.matterId else row.convertedMatterId
    convertedAt := some call.now
    stage := .retained }

/-- `convert_lead` -/
def convertLead (db : FirmDb) (call : ConvertCall) (lead : Lead) : Option FirmDb := do
  let client ← leadClient lead call.data call.clientId call.createdBy
  let db₁ ← addClient db client
  let db₂ ← addLeadMatter db₁ call
  some { db₂ with leads := Table.alter Lead.id lead.id call.update db₂.leads }

def clientNotFound : HttpError := ⟨404, "Client not found"⟩

def deleteClient (db : FirmDb) (clientId : Uuid) (referenced : Bool) : Except HttpError FirmDb :=
  match Table.find Client.id clientId db.clients with
  | none => .error clientNotFound
  | some _ =>
    if referenced ∨ clientId ∈ db.matters.map Matter.clientId ∨
        some clientId ∈ db.leads.map Lead.convertedClientId then .error .internal
    else .ok { db with clients := Table.remove Client.id clientId db.clients }

def deleteMatter (db : FirmDb) (matterId : Uuid) (referenced : Bool) : Except HttpError FirmDb :=
  match Table.find Matter.id matterId db.matters with
  | none => .error Access.matterNotFound
  | some _ =>
    if referenced ∨ some matterId ∈ db.leads.map Lead.convertedMatterId then .error .internal
    else .ok { db with matters := Table.remove Matter.id matterId db.matters }

/-- What can be flushed, or an exception. -/
def flushed : Option FirmDb → Except HttpError FirmDb
  | none => .error .internal
  | some db => .ok db

def firmResult (db : FirmDb) : FirmCall → Except HttpError FirmDb
  | .createClient clientId createdBy data => flushed do
    let client ← newClient clientId createdBy data
    addClient db client
  | .convertLead call =>
    match Table.find Lead.id call.leadId db.leads with
    | none => .error leadNotFound
    | some lead =>
      if lead.convertedClientId.isSome then .error alreadyConverted
      else flushed (convertLead db call lead)
  | .createMatter matterId today data => flushed do
    let matter ← Access.newMatter matterId today data
    addMatter db matter
  | .deleteClient clientId referenced => deleteClient db clientId referenced
  | .deleteMatter matterId referenced => deleteMatter db matterId referenced

def firmHandle (call : FirmCall) : Handler FirmDb HttpError Unit := fun db =>
  match firmResult db call with
  | .error error => (.error error, db)
  | .ok db' => (.ok (), db')

/-- No number was assigned twice, and the records there are have distinct numbers. -/
structure NumbersUnique (db : FirmDb) : Prop where
  clients : Numbered Client.clientNumber db.clients db.clientLog
  matters : Numbered Matter.matterNumber db.matters db.matterLog

def CreatesClient : FirmCall → Prop
  | .createClient _ _ _ => True
  | .convertLead _ => True
  | _ => False

def CreatesMatter : FirmCall → Prop
  | .createMatter _ _ _ => True
  | .convertLead call => call.data.matter?.isSome
  | _ => False

/-- No record that was deleted has had the number after the highest one left, if one is created
now. -/
def NumberUnused (db : FirmDb) (call : FirmCall) : Prop :=
  ∀ db', firmResult db call = .ok db' →
    (CreatesClient call → nextClientNumber db.clients ∉ db.clientLog) ∧
      (CreatesMatter call → Access.nextNumber db.matters ∉ db.matterLog)

/-! The calls. -/

section
variable {db db' : FirmDb}

theorem addClient_eq_some {client : Client} (h : addClient db client = some db') :
    db' = { db with
      clients := db.clients++[{ client with clientNumber := some (nextClientNumber db.clients) }]
      clientLog := db.clientLog++[nextClientNumber db.clients] } := by
  obtain ⟨rows, -, h⟩ := Option.bind_eq_some_iff.mp h
  obtain ⟨number, hnumber, h⟩ := Option.bind_eq_some_iff.mp h
  cases Deadlines.intColumn_eq_some hnumber
  exact (Option.some.inj h).symm

theorem addMatter_eq_some {matter : Matter} (h : addMatter db matter = some db') :
    db' = { db with
      matters := db.matters++[{ matter with matterNumber := some (Access.nextNumber db.matters) }]
      matterLog := db.matterLog++[Access.nextNumber db.matters] } := by
  unfold addMatter at h
  split_ifs at h
  obtain ⟨rows, -, h⟩ := Option.bind_eq_some_iff.mp h
  obtain ⟨number, hnumber, h⟩ := Option.bind_eq_some_iff.mp h
  cases Deadlines.intColumn_eq_some hnumber
  exact (Option.some.inj h).symm

/-- A new client touches no matter. -/
theorem addClient_iff {client : Client} (hunique : NumbersUnique db)
    (h : addClient db client = some db') :
    (Numbered Client.clientNumber db'.clients db'.clientLog ↔
      nextClientNumber db.clients ∉ db.clientLog) ∧
      db'.matters = db.matters ∧ db'.matterLog = db.matterLog := by
  obtain rfl := addClient_eq_some h
  exact ⟨numbered_append_iff 1000 hunique.clients rfl, rfl, rfl⟩

/-- A new matter touches no client. -/
theorem addMatter_iff {matter : Matter} (hmatters : Numbered Matter.matterNumber db.matters db.matterLog)
    (h : addMatter db matter = some db') :
    (Numbered Matter.matterNumber db'.matters db'.matterLog ↔
      Access.nextNumber db.matters ∉ db.matterLog) ∧
      db'.clients = db.clients ∧ db'.clientLog = db.clientLog := by
  obtain rfl := addMatter_eq_some h
  exact ⟨numbered_append_iff 10000 hmatters rfl, rfl, rfl⟩

theorem flushed_eq_ok {result : Option FirmDb} (h : flushed result = .ok db') : result = some db' := by
  cases result with
  | none => cases h
  | some db₁ =>
    cases h
    rfl

theorem numbersUnique_iff : NumbersUnique db ↔
    Numbered Client.clientNumber db.clients db.clientLog ∧
      Numbered Matter.matterNumber db.matters db.matterLog :=
  ⟨fun h => ⟨h.clients, h.matters⟩, fun h => ⟨h.1, h.2⟩⟩

theorem addLeadMatter_iff {call : ConvertCall}
    (hmatters : Numbered Matter.matterNumber db.matters db.matterLog)
    (h : addLeadMatter db call = some db') :
    (Numbered Matter.matterNumber db'.matters db'.matterLog ↔
      (call.data.matter?.isSome → Access.nextNumber db.matters ∉ db.matterLog)) ∧
      db'.clients = db.clients ∧ db'.clientLog = db.clientLog := by
  unfold addLeadMatter at h
  split at h
  · rename_i hnone
    cases h
    refine ⟨iff_of_true hmatters ?_, rfl, rfl⟩
    rw [hnone]
    exact fun hsome => absurd hsome Bool.false_ne_true
  · rename_i title hsome
    obtain ⟨matter, -, h⟩ := Option.bind_eq_some_iff.mp h
    obtain ⟨hiff, hclients⟩ := addMatter_iff hmatters h
    refine ⟨hiff.trans ?_, hclients⟩
    rw [hsome]
    exact ⟨fun hnew _ => hnew, fun hnew => hnew rfl⟩

theorem convertLead_iff {call : ConvertCall} {lead : Lead} (hunique : NumbersUnique db)
    (h : convertLead db call lead = some db') :
    NumbersUnique db' ↔ nextClientNumber db.clients ∉ db.clientLog ∧
      (call.data.matter?.isSome → Access.nextNumber db.matters ∉ db.matterLog) := by
  obtain ⟨client, -, h⟩ := Option.bind_eq_some_iff.mp h
  obtain ⟨db₁, hclient, h⟩ := Option.bind_eq_some_iff.mp h
  obtain ⟨db₂, hmatter, h⟩ := Option.bind_eq_some_iff.mp h
  cases h
  obtain ⟨hclients, hmatters₁, hlog₁⟩ := addClient_iff hunique hclient
  have hkept : Numbered Matter.matterNumber db₁.matters db₁.matterLog := by
    rw [hmatters₁, hlog₁]
    exact hunique.matters
  obtain ⟨hmatters, hclients₂, hlog₂⟩ := addLeadMatter_iff hkept hmatter
  rw [hmatters₁, hlog₁] at hmatters
  rw [← hclients₂, ← hlog₂] at hclients
  rw [numbersUnique_iff, ← hclients, ← hmatters]

theorem deleteClient_eq_ok {clientId : Uuid} {referenced : Bool}
    (h : deleteClient db clientId referenced = .ok db') :
    db' = { db with clients := Table.remove Client.id clientId db.clients } := by
  unfold deleteClient at h
  split at h
  · cases h
  · split_ifs at h
    exact (Except.ok.inj h).symm

theorem deleteMatter_eq_ok {matterId : Uuid} {referenced : Bool}
    (h : deleteMatter db matterId referenced = .ok db') :
    db' = { db with matters := Table.remove Matter.id matterId db.matters } := by
  unfold deleteMatter at h
  split at h
  · cases h
  · split_ifs at h
    exact (Except.ok.inj h).symm

/-- A call keeps the numbers unique exactly if it assigns none again. -/
theorem numbersUnique_ok_iff {call : FirmCall} (hunique : NumbersUnique db)
    (h : firmResult db call = .ok db') :
    NumbersUnique db' ↔ (CreatesClient call → nextClientNumber db.clients ∉ db.clientLog) ∧
      (CreatesMatter call → Access.nextNumber db.matters ∉ db.matterLog) := by
  cases call with
  | createClient clientId createdBy data =>
    obtain ⟨client, -, hadd⟩ := Option.bind_eq_some_iff.mp (flushed_eq_ok h)
    obtain ⟨hiff, hmatters, hlog⟩ := addClient_iff hunique hadd
    rw [numbersUnique_iff, hiff, hmatters, hlog]
    simp [CreatesClient, CreatesMatter, hunique.matters]
  | convertLead call =>
    simp only [firmResult] at h
    split at h
    · cases h
    · split_ifs at h
      rw [convertLead_iff hunique (flushed_eq_ok h)]
      simp [CreatesClient, CreatesMatter]
  | createMatter matterId today data =>
    obtain ⟨matter, -, hadd⟩ := Option.bind_eq_some_iff.mp (flushed_eq_ok h)
    obtain ⟨hiff, hclients, hlog⟩ := addMatter_iff hunique.matters hadd
    rw [numbersUnique_iff, hiff, hclients, hlog]
    simp [CreatesClient, CreatesMatter, hunique.clients]
  | deleteClient clientId referenced =>
    obtain rfl := deleteClient_eq_ok h
    refine iff_of_true ⟨hunique.clients.sublist List.filter_sublist, hunique.matters⟩ ?_
    exact ⟨fun hfalse => hfalse.elim, fun hfalse => hfalse.elim⟩
  | deleteMatter matterId referenced =>
    obtain rfl := deleteMatter_eq_ok h
    refine iff_of_true ⟨hunique.clients, hunique.matters.sublist List.filter_sublist⟩ ?_
    exact ⟨fun hfalse => hfalse.elim, fun hfalse => hfalse.elim⟩

theorem numbersUnique_step_iff {call : FirmCall} (hunique : NumbersUnique db)
    (hstep : serve firmHandle db call = some db') : NumbersUnique db' ↔ NumberUnused db call := by
  have hdb' : committed (firmHandle call) db = db' := Option.some.inj hstep
  subst hdb'
  unfold NumberUnused
  cases hresult : firmResult db call with
  | error error =>
    have hsame : committed (firmHandle call) db = db :=
      committed_of_error (by rw [firmHandle, hresult])
    rw [hsame]
    exact iff_of_true hunique fun db' h => nomatch h
  | ok db₁ =>
    have hnew : committed (firmHandle call) db = db₁ := committed_of_ok (by rw [firmHandle, hresult])
    rw [hnew, numbersUnique_ok_iff hunique hresult]
    constructor
    · exact fun h _ _ => h
    · exact fun h => h db₁ rfl

end

def emptyFirm : FirmDb where
  users := []
  clients := []
  matters := []
  leads := []
  clientLog := []
  matterLog := []

/-- A client is created, deleted, and another one created. -/
def createDeleteCreate : List FirmCall :=
  [.createClient 1 9 {}, .deleteClient 1 false, .createClient 2 9 {}]

end LegalForge.Intake
