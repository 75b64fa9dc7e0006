import LegalForge.ClientModels
import LegalForge.Deadlines
import LegalForge.MatterModels
import LegalForge.PythonText

/-! The search for conflicts of interest among clients, contacts and the parties of matters. -/
namespace LegalForge.Conflicts
open Auth Clients Text
open Deadlines (BoundedText boundedVarchar nullable)

inductive ConflictStatus where
  | clear
  | potentialConflict
  | confirmedConflict
  deriving DecidableEq

/-- `clear < potential_conflict < confirmed_conflict` -/
def ConflictStatus.level : ConflictStatus → ℕ
  | .clear => 0
  | .potentialConflict => 1
  | .confirmedConflict => 2

inductive MatchType where
  | exact
  | fuzzy
  | phonetic
  | email
  deriving DecidableEq

inductive ContactRole where
  | judge
  | witness
  | opposingCounsel
  | expert
  | other
  deriving DecidableEq

def ContactRole.value : ContactRole → String
  | .judge => "judge"
  | .witness => "witness"
  | .opposingCounsel => "opposing_counsel"
  | .expert => "expert"
  | .other => "other"

structure Contact where
  id : Uuid
  firstName : String
  lastName : String
  role : ContactRole := .other
  organization : Option String := none
  email : Option String := none

structure MatterContact where
  id : Uuid
  matterId : Uuid
  contactId : Uuid
  relationshipType : String := "related"

/-- The tables a check reads, with their keys. -/
structure ConflictDb where
  users : List Uuid
  clients : List Client
  contacts : List Contact
  matters : List Matters.Matter
  matterContacts : List MatterContact
  clientKeys : (clients.map Client.id).Nodup
  contactKeys : (contacts.map Contact.id).Nodup

structure ConflictCheckCreate where
  searchName : BoundedText 1 255
  searchOrganization : Option (BoundedText 0 255) := none
  matterId : Option Uuid := none

/-- `str.lower`, and the phonetic codes of `jellyfish`, nothing for an exception. -/
structure Comparison where
  lower : String → String
  soundex : String → Option String
  metaphone : String → Option String
  lower_empty : lower "" = ""

/-- The best score so far, how it came about and by which name. -/
structure Score where
  score : ℚ
  matchType : MatchType
  name : String

inductive EntityType where
  | client
  | contact
  | matterParty
  deriving DecidableEq

structure ConflictMatch where
  entityType : EntityType
  entityId : Uuid
  matchedName : String
  matchType : MatchType
  matchScore : ℚ
  relationshipContext : String

structure ConflictCheck where
  checkedBy : Uuid
  searchName : String
  searchOrganization : Option String
  matterId : Option Uuid
  status : ConflictStatus
  «matches» : List ConflictMatch

variable (cmp : Comparison)

/-- `_normalize` -/
def normalize (name : String) : String :=
  cmp.lower (strip name)

/-- 0.6 when one of the codes agrees. An exception ends the comparison. -/
def phoneticScore (search candidate : String) : ℚ :=
  match cmp.soundex search, cmp.soundex candidate with
  | some a, some b =>
    if a = b then 6/10
    else
      match cmp.metaphone search, cmp.metaphone candidate with
      | some c, some d => if c = d then 6/10 else 0
      | _, _ => 0
  | _, _ => 0

/-- `a in b` -/
def containsText (a b : String) : Bool :=
  a.toList <:+: b.toList

/-- `_compute_name_score` -/
def computeNameScore (search candidate : String) : ℚ × MatchType :=
  let searchNorm := normalize cmp search
  let candidateNorm := normalize cmp candidate
  if searchNorm = "" ∨ candidateNorm = "" then (0, .fuzzy)
  else if searchNorm = candidateNorm then (1, .exact)
  else if containsText searchNorm candidateNorm ∨ containsText candidateNorm searchNorm then
    (7/10, .fuzzy)
  else if 0 < phoneticScore cmp searchNorm candidateNorm then
    (phoneticScore cmp searchNorm candidateNorm, .phonetic)
  else (0, .fuzzy)

/-- `_compute_email_score` -/
def computeEmailScore (searchEmail candidateEmail : String) : ℚ :=
  if searchEmail = "" ∨ candidateEmail = "" then 0
  else if normalize cmp searchEmail = normalize cmp candidateEmail then 9/10
  else 0

/-- Only a higher score replaces the best one. -/
def Score.better (best next : Score) : Score :=
  if best.score < next.score then next else best

def nameCheck (search name : String) : Score :=
  ⟨(computeNameScore cmp search name).1, (computeNameScore cmp search name).2, name⟩

/-- A text that is there and not empty. -/
def given : Option String → Option String
  | some text => if text = "" then none else some text
  | none => none

/-- `search_org`, which is empty or missing for a blank organization. -/
def searchedOrganization (data : ConflictCheckCreate) : Option String :=
  (data.searchOrganization.map BoundedText.text).filter fun text => normalize cmp text ≠ ""

/-- The checks of a client or a contact in their order: the full name, the organization under
either search, the email. -/
def checks (data : ConflictCheckCreate) (fullName : String) (organization email : Option String) :
    List Score :=
  (given (some fullName)).toList.map (nameCheck cmp data.searchName.text)++
    (given organization).toList.map (nameCheck cmp data.searchName.text)++
    (searchedOrganization cmp data).toList.flatMap (fun search =>
      (given organization).toList.map (nameCheck cmp search))++
    (given email).toList.map fun email =>
      ⟨computeEmailScore cmp data.searchName.text email, .email, email⟩

def bestScore (data : ConflictCheckCreate) (fullName : String) (organization email : Option String) :
    Score :=
  (checks cmp data fullName organization email).foldl Score.better ⟨0, .fuzzy, ""⟩

def clientFullName (c : Client) : String :=
  strip (c.firstName.getD ""++" "++c.lastName.getD "")

def contactFullName (c : Contact) : String :=
  strip (c.firstName++" "++c.lastName)

def clientScore (data : ConflictCheckCreate) (c : Client) : Score :=
  bestScore cmp data (clientFullName c) c.organizationName c.email

def contactScore (data : ConflictCheckCreate) (c : Contact) : Score :=
  bestScore cmp data (contactFullName c) c.organization c.email

def Score.match (best : Score) (entityType : EntityType) (entityId : Uuid)
    (relationshipContext : String) : Option ConflictMatch :=
  if 4/10 < best.score then
    some
      { entityType := entityType
        entityId := entityId
        matchedName := best.name
        matchType := best.matchType
        matchScore := best.score
        relationshipContext := relationshipContext }
  else none

def clientContext (c : Client) : String :=
  match c.clientNumber with
  | some number => if number = 0 then "Client" else "Client #"++toString number
  | none => "Client"

def clientMatches (data : ConflictCheckCreate) (db : ConflictDb) : List ConflictMatch :=
  db.clients.filterMap fun c => (clientScore cmp data c).match .client c.id (clientContext c)

def contactMatches (data : ConflictCheckCreate) (db : ConflictDb) : List ConflictMatch :=
  db.contacts.filterMap fun c =>
    (contactScore cmp data c).match .contact c.id ("Contact ("++c.role.value++")")

/-- What a contact is to a matter. -/
def partyContext (db : ConflictDb) (mc : MatterContact) : String :=
  let matter := Table.find Matters.Matter.id mc.matterId db.matters
  let context := mc.relationshipType++" on Matter: "++(matter.map Matters.Matter.title).getD "Unknown"
  match given (matter.bind Matters.Matter.caseNumber) with
  | some caseNumber => context++" (#"++caseNumber++")"
  | none => context

/-- The matches and the contacts among them. -/
structure PartyScan where
  «matches» : List ConflictMatch
  matchedContactIds : List Uuid

/-- One round of the loop over the contacts of matters. -/
def scanParty (data : ConflictCheckCreate) (db : ConflictDb) (s : PartyScan) (mc : MatterContact) :
    PartyScan :=
  match Table.find Contact.id mc.contactId db.contacts with
  | none => s
  | some contact =>
    if contact.id ∈ s.matchedContactIds then
      { s with
        «matches» := s.matches.map fun m =>
          if m.entityId = contact.id ∧ m.entityType = .contact then
            { m with relationshipContext := partyContext db mc }
          else m }
    else
      let fullName := contactFullName contact
      let (score, matchType) := computeNameScore cmp data.searchName.text fullName
      match (Score.mk score matchType fullName).match .matterParty contact.id (partyContext db mc) with
      | none => s
      | some m => ⟨s.matches++[m], contact.id :: s.matchedContactIds⟩

/-- The matches of all three searches. -/
def allMatches (data : ConflictCheckCreate) (db : ConflictDb) : List ConflictMatch :=
  let found := clientMatches cmp data db++contactMatches cmp data db
  let matchedContactIds := (found.filter fun m => m.entityType = .contact).map ConflictMatch.entityId
  (db.matterContacts.foldl (scanParty cmp data db) ⟨found, matchedContactIds⟩).matches

def overallStatus («matches» : List ConflictMatch) : ConflictStatus :=
  match («matches».map ConflictMatch.matchScore).max? with
  | none => .clear
  | some maxScore => if 9/10 ≤ maxScore then .confirmedConflict else .potentialConflict

/-- The row of a match. -/
def matchRow (m : ConflictMatch) : Option ConflictMatch := do
  let matchedName ← varchar 500 m.matchedName
  let relationshipContext ← varchar 500 m.relationshipContext
  some { m with matchedName := matchedName, relationshipContext := relationshipContext }

/-- `run_conflict_check`, nothing for an exception. -/
def runConflictCheck (db : ConflictDb) (data : ConflictCheckCreate) (checkedBy : Uuid) :
    Option ConflictCheck := do
  let found := allMatches cmp data db
  let searchName ← boundedVarchar data.searchName
  let searchOrganization ← nullable boundedVarchar data.searchOrganization
  if checkedBy ∈ db.users ∧ data.matterId.all fun m => m ∈ db.matters.map Matters.Matter.id then do
    let rows ← found.mapM matchRow
    some
      { checkedBy := checkedBy
        searchName := searchName
        searchOrganization := searchOrganization
        matterId := data.matterId
        status := overallStatus found
        «matches» := rows }
  else none

end LegalForge.Conflicts
