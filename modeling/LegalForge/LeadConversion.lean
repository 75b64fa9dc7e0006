import LegalForge.LeadModels
import LegalForge.ReadCommitted

/-! The conversion of leads as the statements that concurrent requests interleave. Whether the
lead has been converted is looked up once, before anything is written. -/
namespace LegalForge.Intake
open Auth Clients Matters Transition ReadCommitted
open Deadlines (intColumn)

/-- The client and the matter a lead was converted into. -/
structure Conversion where
  leadId : Uuid
  clientId : Uuid
  matterId : Option Uuid

structure LeadDb where
  leads : List Lead
  clients : List Client
  matters : List Matter
  /-- Not a table: the conversions in the order of their commits. -/
  conversions : List Conversion

/-- A request to convert a lead, with the ids and the times it draws. -/
structure ConvertCall where
  leadId : Uuid
  data : ConvertLeadRequest
  createdBy : Uuid
  clientId : Uuid
  matterId : Uuid
  today : Day
  now : Instant

/-- A request and the lead it has loaded, not converted then. -/
structure Converting where
  call : ConvertCall
  lead : Lead

/-- Where one request stands. -/
inductive Converter where
  | idle
  | checked (w : Converting)
  /-- The client is flushed. -/
  | clientAdded (w : Converting) (client : Client)
  /-- The next client number is read. -/
  | clientNumbering (w : Converting) (client : Client) (number : ℤ)
  | clientReady (w : Converting) (client : Client)
  | matterAdded (w : Converting) (client : Client) (matter : Matter)
  | matterNumbering (w : Converting) (client : Client) (matter : Matter) (number : ℤ)
  | matterReady (w : Converting) (client : Client) (matter : Matter)
  /-- The lead is updated. -/
  | linked (w : Converting) (client : Client) (matter : Option Matter)
  | failed (error : HttpError)

inductive ConvertStatement where
  /-- `get_lead` and the check of the route -/
  | getLead (call : ConvertCall)
  | insertClient
  | readClientNumber
  | setClientNumber
  | insertMatter
  | readMatterNumber
  | setMatterNumber
  | updateLead

/-- Rows and unique keys that a statement locks. -/
inductive ConvertKey where
  | client (id : Uuid)
  | clientNumber (number : ℤ)
  | matter (id : Uuid)
  | matterNumber (number : ℤ)
  | lead (id : Uuid)
  deriving DecidableEq

def getLead (db : LeadDb) (leadId : Uuid) : Option Lead :=
  Table.find Lead.id leadId db.leads

def leadNotFound : HttpError := ⟨404, "Lead not found"⟩

def alreadyConverted : HttpError := ⟨400, "Lead has already been converted"⟩

/-- A number that fits its column and that no committed row has. -/
def freeNumber (number : ℤ) (taken : List ℤ) : Bool :=
  (intColumn number).isSome && number ∉ taken

/-- The lead row after the UPDATE of the attributes that the session has changed. -/
def Converting.update (w : Converting) (client : Client) (matter : Option Matter) (row : Lead) :
    Lead :=
  { row with
    convertedClientId :=
      Table.assigned w.lead.convertedClientId (some client.id) row.convertedClientId
    convertedMatterId := Table.assigned w.lead.convertedMatterId
      ((matter.map Matter.id).or w.lead.convertedMatterId) row.convertedMatterId
    convertedAt := Table.assigned w.lead.convertedAt (some w.call.now) row.convertedAt
    stage := Table.assigned w.lead.stage .retained row.stage }

/-- The rows of a request that commits. -/
def addConversion (db : LeadDb) (w : Converting) (client : Client) (matter : Option Matter) :
    LeadDb where
  leads := Table.alter Lead.id w.lead.id (w.update client matter) db.leads
  clients := db.clients++[client]
  matters := db.matters++matter.toList
  conversions := db.conversions++[⟨w.lead.id, client.id, matter.map Matter.id⟩]

def convertProgram : Program LeadDb Converter ConvertStatement ConvertKey where
  locks _ m a :=
    match m, a with
    | .checked w, .insertClient => [.client w.call.clientId]
    | .clientNumbering _ _ number, .setClientNumber => [.clientNumber number]
    | .clientReady w _, .insertMatter => [.matter w.call.matterId]
    | .matterNumbering _ _ _ number, .setMatterNumber => [.matterNumber number]
    | .clientReady w _, .updateLead => [.lead w.lead.id]
    | .matterReady w _ _, .updateLead => [.lead w.lead.id]
    | _, _ => []
  stmt db m a :=
    match m, a with
    | .idle, .getLead call =>
      match getLead db call.leadId with
      | none => some (.failed leadNotFound)
      | some lead =>
        if lead.convertedClientId.isSome then some (.failed alreadyConverted)
        else some (.checked ⟨call, lead⟩)
    | .checked w, .insertClient =>
      match leadClient w.lead w.call.data w.call.clientId w.call.createdBy with
      | none => some (.failed .internal)
      | some client =>
        if client.id ∈ db.clients.map Client.id then some (.failed .internal)
        else some (.clientAdded w client)
    | .clientAdded w client, .readClientNumber =>
      some (.clientNumbering w client (nextClientNumber db.clients))
    | .clientNumbering w client number, .setClientNumber =>
      if freeNumber number (db.clients.filterMap Client.clientNumber) then
        some (.clientReady w { client with clientNumber := some number })
      else some (.failed .internal)
    | .clientReady w client, .insertMatter =>
      match w.call.data.matter? with
      | none => none
      | some title =>
        match leadMatter w.call.data title w.call.matterId client.id w.call.today with
        | none => some (.failed .internal)
        | some matter =>
          if matter.id ∈ db.matters.map Matter.id then some (.failed .internal)
          else some (.matterAdded w client matter)
    | .matterAdded w client matter, .readMatterNumber =>
      some (.matterNumbering w client matter (Access.nextNumber db.matters))
    | .matterNumbering w client matter number, .setMatterNumber =>
      if freeNumber number (db.matters.filterMap Matter.matterNumber) then
        some (.matterReady w client { matter with matterNumber := some number })
      else some (.failed .internal)
    | .clientReady w client, .updateLead =>
      if w.call.data.matter?.isSome then none
      else
        match getLead db w.lead.id with
        | none => some (.failed .internal)
        | some _ => some (.linked w client none)
    | .matterReady w client matter, .updateLead =>
      match getLead db w.lead.id with
      | none => some (.failed .internal)
      | some _ => some (.linked w client (some matter))
    | _, _ => none
  publish db m :=
    match m with
    | .linked w client matter => some (addConversion db w client matter, .idle)
    | _ => none
  abort _ := .idle

abbrev ConvertState (Tx : Type*) := State LeadDb Converter ConvertKey Tx
abbrev ConvertLabel (Tx : Type*) := Label ConvertStatement Tx

/-- `converted_client_id` of a lead, null for a lead that is not there. -/
def convertedClient (db : LeadDb) (leadId : Uuid) : Option Uuid :=
  (getLead db leadId).bind Lead.convertedClientId

def conversionsOf (db : LeadDb) (leadId : Uuid) : List Conversion :=
  db.conversions.filter fun c => c.leadId = leadId

/-- A lead gives at most one client and matter, and refers to that client. -/
def ConvertedOnce (db : LeadDb) : Prop :=
  ∀ leadId, (conversionsOf db leadId).length ≤ 1 ∧
    ∀ c ∈ conversionsOf db leadId, convertedClient db leadId = some c.clientId

/-- The lead of the request has not been converted since it was checked. -/
def StillUnconverted (db : LeadDb) (m : Converter) : Prop :=
  ∀ w client matter, m = .linked w client matter → convertedClient db w.lead.id = none

/-- The work of a request that has passed the check. -/
def Converter.work : Converter → Option Converting
  | .idle => none
  | .checked w => some w
  | .clientAdded w _ => some w
  | .clientNumbering w _ _ => some w
  | .clientReady w _ => some w
  | .matterAdded w _ _ => some w
  | .matterNumbering w _ _ _ => some w
  | .matterReady w _ _ => some w
  | .linked w _ _ => some w
  | .failed _ => none

/-- A request past the check loaded its lead unconverted, and the lead is still so unless it has
been converted meanwhile. -/
structure WorkOk (db : LeadDb) (w : Converting) : Prop where
  loaded : w.lead.convertedClientId = none
  known : w.lead.id ∈ db.leads.map Lead.id
  unconverted : convertedClient db w.lead.id = none ∨ conversionsOf db w.lead.id ≠ []

def ConvertInv {Tx : Type*} (s : ConvertState Tx) : Prop :=
  ∀ u w, (s.session u).work = some w → WorkOk s.committed w

/-! One statement, one commit. -/

theorem work_stmt {db : LeadDb} {m m' : Converter} {a : ConvertStatement} {w : Converting}
    (h : convertProgram.stmt db m a = some m') (hw : m'.work = some w) :
    m.work = some w ∨ ∃ call : ConvertCall, getLead db call.leadId = some w.lead ∧
      w.lead.convertedClientId = none := by
  cases m with
  | idle =>
    cases a with
    | getLead call =>
      simp only [convertProgram] at h
      split at h
      · cases h
        cases hw
      · rename_i lead hlead
        split_ifs at h with hconverted
        · cases h
          cases hw
        · cases h
          cases hw
          exact Or.inr ⟨call, hlead, Option.not_isSome_iff_eq_none.mp hconverted⟩
    | _ => cases h
  | failed error => cases a <;> cases h
  | linked w client matter => cases a <;> cases h
  | _ =>
    left
    unfold convertProgram at h
    grind [Converter.work]

theorem publish_linked {db db' : LeadDb} {m m' : Converter}
    (h : convertProgram.publish db m = some (db', m')) : ∃ w client matter,
      m = .linked w client matter ∧ db' = addConversion db w client matter ∧ m' = .idle := by
  cases m with
  | linked w client matter =>
    cases h
    exact ⟨w, client, matter, rfl, rfl, rfl⟩
  | _ => cases h

section
variable {db : LeadDb} {w : Converting} {client : Client} {matter : Option Matter}

theorem id_update (row : Lead) (h : row.id = w.lead.id) :
    (w.update client matter row).id = w.lead.id :=
  h

theorem ids_addConversion :
    (addConversion db w client matter).leads.map Lead.id = db.leads.map Lead.id :=
  Table.map_key_alter id_update db.leads

/-- The lead of the request refers to its client. -/
theorem convertedClient_addConversion (hloaded : w.lead.convertedClientId = none)
    (hknown : w.lead.id ∈ db.leads.map Lead.id) :
    convertedClient (addConversion db w client matter) w.lead.id = some client.id := by
  obtain ⟨lead, hlead⟩ := Table.exists_find_iff.mpr hknown
  have hrow : getLead (addConversion db w client matter) w.lead.id =
      (getLead db w.lead.id).map (w.update client matter) :=
    Table.find_alter_self id_update db.leads
  have hfound : getLead db w.lead.id = some lead := hlead
  rw [convertedClient, hrow, hfound]
  change Table.assigned w.lead.convertedClientId (some client.id) lead.convertedClientId = some client.id
  rw [hloaded]
  exact if_neg (Option.some_ne_none _)

theorem convertedClient_addConversion_of_ne {leadId : Uuid} (h : leadId ≠ w.lead.id) :
    convertedClient (addConversion db w client matter) leadId = convertedClient db leadId := by
  have hrow : getLead (addConversion db w client matter) leadId = getLead db leadId :=
    Table.find_alter_of_ne id_update h db.leads
  rw [convertedClient, hrow, convertedClient]

theorem conversionsOf_addConversion :
    conversionsOf (addConversion db w client matter) w.lead.id =
      conversionsOf db w.lead.id++[⟨w.lead.id, client.id, matter.map Matter.id⟩] := by
  simp [conversionsOf, addConversion]

theorem conversionsOf_addConversion_of_ne {leadId : Uuid} (h : leadId ≠ w.lead.id) :
    conversionsOf (addConversion db w client matter) leadId = conversionsOf db leadId := by
  simp [conversionsOf, addConversion, Ne.symm h]

theorem WorkOk.addConversion {w' : Converting} (h : WorkOk db w') :
    WorkOk (addConversion db w client matter) w' := by
  refine ⟨h.loaded, ?_, ?_⟩
  · rw [ids_addConversion]
    exact h.known
  by_cases hsame : w'.lead.id = w.lead.id
  · right
    rw [hsame, conversionsOf_addConversion]
    exact List.append_ne_nil_of_right_ne_nil _ (List.cons_ne_nil _ _)
  · rw [convertedClient_addConversion_of_ne hsame, conversionsOf_addConversion_of_ne hsame]
    exact h.unconverted

/-- The lead is converted once after the commit exactly if it was not converted before. -/
theorem convertedOnce_addConversion_iff (hw : WorkOk db w) (honce : ConvertedOnce db) :
    ConvertedOnce (addConversion db w client matter) ↔ convertedClient db w.lead.id = none := by
  constructor
  · intro h
    rcases hw.unconverted with hnone | hsome
    · exact hnone
    · -- a second conversion
      have hlength := (h w.lead.id).1
      rw [conversionsOf_addConversion, List.length_append, List.length_singleton] at hlength
      have hpos := List.length_pos_iff.mpr hsome
      omega
  · intro hnone leadId
    by_cases hsame : leadId = w.lead.id
    · subst hsame
      have hempty : conversionsOf db w.lead.id = [] := by
        rw [List.eq_nil_iff_forall_not_mem]
        intro c hc
        have hclient := (honce w.lead.id).2 c hc
        rw [hnone] at hclient
        cases hclient
      rw [conversionsOf_addConversion, hempty, List.nil_append]
      refine ⟨le_refl 1, ?_⟩
      intro c hc
      rw [List.mem_singleton.mp hc]
      exact convertedClient_addConversion hw.loaded hw.known
    · rw [conversionsOf_addConversion_of_ne hsame, convertedClient_addConversion_of_ne hsame]
      exact honce leadId

end

/-! Runs. -/

section
variable {Tx : Type*} [DecidableEq Tx] {s s' : ConvertState Tx}

theorem ConvertInv.step {l : ConvertLabel Tx} (h : ConvertInv s)
    (hstep : step convertProgram s l = some s') : ConvertInv s' := by
  intro u w hw
  have hsame : (s.session u).work = some w → WorkOk s'.committed w := by
    intro hold
    have hok := h u w hold
    by_cases hl : ∃ t, l = .commit t
    · obtain ⟨t, rfl⟩ := hl
      obtain ⟨db, m, hpub, rfl⟩ := step_commit_eq_some.mp hstep
      obtain ⟨w', client, matter, -, rfl, -⟩ := publish_linked hpub
      exact hok.addConversion
    · rw [step_committed_eq hstep fun t ht => hl ⟨t, ht⟩]
      exact hok
  rcases step_session_cases hstep u with hkept | ⟨a, rfl, hstmt⟩ | ⟨rfl, hpub⟩ | ⟨rfl, habort⟩
  · rw [hkept] at hw
    exact hsame hw
  · rcases work_stmt hstmt hw with hold | ⟨call, hlead, hunconverted⟩
    · exact hsame hold
    · -- the lead has just been checked
      rw [step_committed_eq hstep fun t ht => nomatch ht]
      have hid : w.lead.id = call.leadId := Table.key_of_find hlead
      refine ⟨hunconverted, ?_, Or.inl ?_⟩
      · exact List.mem_map_of_mem (Table.mem_of_find hlead)
      · rw [convertedClient, hid, hlead]
        exact hunconverted
  · obtain ⟨w', client, matter, -, -, hidle⟩ := publish_linked hpub
    rw [hidle] at hw
    cases hw
  · rw [habort] at hw
    cases hw

theorem convertedOnce_commit_iff {t : Tx} (h : ConvertInv s) (honce : ConvertedOnce s.committed)
    (hstep : step convertProgram s (.commit t) = some s') :
    ConvertedOnce s'.committed ↔ StillUnconverted s.committed (s.session t) := by
  obtain ⟨db, m, hpub, rfl⟩ := step_commit_eq_some.mp hstep
  obtain ⟨w, client, matter, hsession, rfl, rfl⟩ := publish_linked hpub
  rw [convertedOnce_addConversion_iff (h t w (by rw [hsession]; rfl)) honce]
  constructor
  · intro hnone w' client' matter' hlinked
    rw [hsession] at hlinked
    cases hlinked
    exact hnone
  · intro hstill
    exact hstill w client matter hsession

/-- In every interleaving of requests a lead is converted at most once, in every committed state,
exactly if no request commits whose lead has been converted since its check. -/
theorem convertedOnce_throughout_iff {db : LeadDb} (hnone : db.conversions = [])
    (ls : List (ConvertLabel Tx)) :
    Throughout (step convertProgram) (fun s => ConvertedOnce s.committed) (start db .idle) ls ↔
      Along (step convertProgram) (fun s l _ => AtCommit StillUnconverted s l) (start db .idle) ls := by
  have hstart : ConvertedOnce db := by
    intro leadId
    have hempty : conversionsOf db leadId = [] := by rw [conversionsOf, hnone, List.filter_nil]
    rw [hempty]
    exact ⟨Nat.zero_le 1, fun c hc => absurd hc List.not_mem_nil⟩
  have hinv : ConvertInv (start db .idle : ConvertState Tx) := fun u w hw => nomatch hw
  rw [throughout_atCommit_iff (I := ConvertInv) (fun s l s' h _ hstep _ => h.step hstep) ?_
    (fun s t s' h honce hstep => convertedOnce_commit_iff h honce hstep) hinv ls]
  · exact and_iff_right hstart
  · intro s l s' _ honce hstep hl
    rw [step_committed_eq hstep hl]
    exact honce

end

/-- One lead, not converted. -/
def oneLead : LeadDb where
  leads := [{ id := 1, firstName := "Ann", lastName := "Ames" }]
  clients := []
  matters := []
  conversions := []

def convertCall (clientId : Uuid) : ConvertCall where
  leadId := 1
  data := {}
  createdBy := 2
  clientId := clientId
  matterId := 9
  today := ⟨739600, by decide, by decide⟩
  now := 5

def writesOf (t : Bool) : List (ConvertLabel Bool) :=
  [.stmt t .insertClient, .stmt t .readClientNumber, .stmt t .setClientNumber, .stmt t .updateLead,
    .commit t]

/-- A double click: the second request checks the lead before the first commits. -/
def doubleClick : List (ConvertLabel Bool) :=
  [.stmt true (.getLead (convertCall 3)), .stmt false (.getLead (convertCall 4))]++
    writesOf true++writesOf false

theorem convertedOnce_throughout_iff_doubleClick :
    Throughout (step convertProgram) (fun s => ConvertedOnce s.committed) (start oneLead .idle)
        doubleClick ↔
      Along (step convertProgram) (fun s l _ => AtCommit StillUnconverted s l) (start oneLead .idle)
        doubleClick :=
  convertedOnce_throughout_iff rfl doubleClick

/-- The lead gives two clients. -/
theorem doubleClick_convertsTwice : ¬Throughout (step convertProgram)
    (fun s => ConvertedOnce s.committed) (start oneLead .idle) doubleClick := by
  intro h
  have hlast := throughout_iff_prefix.mp h doubleClick [] _ (List.append_nil _).symm rfl
  have htwo := (hlast 1).1
  revert htwo
  decide +kernel

end LegalForge.Intake
