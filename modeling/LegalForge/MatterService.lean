import LegalForge.AccessControl

/-! Creating, changing and deleting matters, and the lock of a matter in an emergency. -/
namespace LegalForge.Access
open Auth Matters UnitOfWork
open Deadlines (BoundedText textColumn intColumn nullable assign assignNullable boundedVarchar)

structure MatterDb extends AccessDb where
  /-- The ids of the clients -/
  clients : List Uuid
  /-- The matters that rows of other tables refer to -/
  references : List Uuid

structure MatterCreate where
  title : BoundedText 1 500
  clientId : Uuid
  status : MatterStatus := .open
  litigationType : LitigationType := .other
  jurisdiction : Option (BoundedText 0 255) := none
  courtName : Option (BoundedText 0 255) := none
  caseNumber : Option (BoundedText 0 100) := none
  dateOpened : Option Day := none
  description : Option String := none
  assignedAttorneyId : Option Uuid := none
  notes : Option String := none

/-- The fields a request sets, each to a value or to null. -/
structure MatterUpdate where
  title : Option (Option (BoundedText 1 500)) := none
  status : Option (Option MatterStatus) := none
  litigationType : Option (Option LitigationType) := none
  jurisdiction : Option (Option (BoundedText 0 255)) := none
  courtName : Option (Option (BoundedText 0 255)) := none
  caseNumber : Option (Option (BoundedText 0 100)) := none
  dateClosed : Option (Option Day) := none
  description : Option (Option String) := none
  assignedAttorneyId : Option (Option Uuid) := none
  notes : Option (Option String) := none

/-- The row of a new matter, whose number is set after it is flushed. -/
def newMatter (matterId : Uuid) (today : Day) (data : MatterCreate) : Option Matter := do
  let title ← boundedVarchar data.title
  let jurisdiction ← nullable boundedVarchar data.jurisdiction
  let courtName ← nullable boundedVarchar data.courtName
  let caseNumber ← nullable boundedVarchar data.caseNumber
  let description ← nullable textColumn data.description
  let notes ← nullable textColumn data.notes
  some
    { id := matterId
      matterNumber := none
      title := title
      clientId := data.clientId
      status := data.status
      litigationType := data.litigationType
      jurisdiction := jurisdiction
      courtName := courtName
      caseNumber := caseNumber
      dateOpened := data.dateOpened.getD today
      description := description
      assignedAttorneyId := data.assignedAttorneyId
      notes := notes }

/-- `coalesce(max(matter_number), 10000)+1` -/
def nextNumber (matters : List Matter) : ℤ :=
  (matters.filterMap Matter.matterNumber).max?.getD 10000+1

/-- A foreign key that may be null. -/
def attorneyKnown (users : List User) : Option Uuid → Bool
  | none => true
  | some userId => (Table.find User.id userId users).isSome

/-- Flush a matter, then its number. -/
def insertMatter (db : MatterDb) (m : Matter) : Option (Matter × MatterDb) :=
  if m.clientId ∈ db.clients ∧ attorneyKnown db.users m.assignedAttorneyId then do
    let _ ← Table.insert Matter.id m db.matters
    let number ← intColumn (nextNumber db.matters)
    let m' := { m with matterNumber := some number }
    some (m', { db with matters := db.matters++[m'] })
  else none

/-- The matter of a lead that is converted, for a title that is not empty. -/
def convertedMatter (matterId clientId : Uuid) (today : Day) (title : String)
    (jurisdiction litigationType : Option String) : Option Matter := do
  let title ← varchar 500 title
  let jurisdiction ← nullable (varchar 255) jurisdiction
  some
    { id := matterId
      matterNumber := none
      title := title
      clientId := clientId
      litigationType := litigationType.elim .other LitigationType.ofText
      jurisdiction := jurisdiction
      dateOpened := today }

/-- The row after the attributes of the request were set, if it can be flushed. -/
def changedMatter (m : Matter) (data : MatterUpdate) : Option Matter := do
  let title ← assign boundedVarchar m.title data.title
  let status ← assign some m.status data.status
  let litigationType ← assign some m.litigationType data.litigationType
  let jurisdiction ← assignNullable boundedVarchar m.jurisdiction data.jurisdiction
  let courtName ← assignNullable boundedVarchar m.courtName data.courtName
  let caseNumber ← assignNullable boundedVarchar m.caseNumber data.caseNumber
  let dateClosed ← assignNullable some m.dateClosed data.dateClosed
  let description ← assignNullable textColumn m.description data.description
  let assignedAttorneyId ← assignNullable some m.assignedAttorneyId data.assignedAttorneyId
  let notes ← assignNullable textColumn m.notes data.notes
  some
    { m with
      title := title
      status := status
      litigationType := litigationType
      jurisdiction := jurisdiction
      courtName := courtName
      caseNumber := caseNumber
      dateClosed := dateClosed
      description := description
      assignedAttorneyId := assignedAttorneyId
      notes := notes }

def insufficientPermissions : HttpError := ⟨403, "Insufficient permissions"⟩

/-- The row that `update_existing_matter` writes. -/
def updatedMatter (db : MatterDb) (current : User) (matterId : Uuid) (data : MatterUpdate) :
    Except HttpError Matter :=
  if current.role = .billingClerk then .error insufficientPermissions
  else
    match checkMatterAccess db.toAccessDb current matterId with
    | .error error => .error error
    | .ok () =>
      match getMatter db.toAccessDb matterId with
      | none => .error matterNotFound
      | some matter =>
        match changedMatter matter data with
        | none => .error .internal
        | some matter' =>
          if attorneyKnown db.users matter'.assignedAttorneyId then
            (matterResponse matter').map MatterResponse.matter
          else .error .internal

inductive MatterCall where
  | createMatter (matterId : Uuid) (today : Day) (data : MatterCreate)
  | convertLead (matterId clientId : Uuid) (today : Day) (title : String)
      (jurisdiction litigationType : Option String)
  | updateMatter (current : User) (matterId : Uuid) (data : MatterUpdate)
  | deleteMatter (matterId : Uuid)
  | createWall (data : EthicalWallCreate) (createdBy wallId : Uuid)
  | removeWall (wallId : Uuid)
  | lockMatter (adminId matterId wallId : Uuid)
  | createUser (user : User)
  /-- Any change of a user that keeps the role -/
  | changeUser (user : User)

/-- A result that can be flushed. -/
def flushedOr (db : MatterDb) : Option MatterDb → Except HttpError Unit × MatterDb
  | none => (.error .internal, db)
  | some db' => (.ok (), db')

/-- A call that only touches the tables the access check reads. -/
def onAccess {α : Type} (db : MatterDb) (h : Handler AccessDb HttpError α) :
    Except HttpError Unit × MatterDb :=
  ((h db.toAccessDb).1.map fun _ => (), { db with toAccessDb := (h db.toAccessDb).2 })

/-- `soar_lock_matter` puts up a wall for the administrator who calls it. -/
def lockingWall (adminId matterId wallId : Uuid) : EthicalWall where
  id := wallId
  matterId := matterId
  userId := adminId
  reason := "SOAR automated response: matter locked due to security incident"
  createdBy := adminId

def soarLockMatter (adminId matterId wallId : Uuid) : Handler AccessDb HttpError EthicalWall :=
  fun db =>
    match insertWall db (lockingWall adminId matterId wallId) with
    | none => (.error .internal, db)
    | some db' => (.ok (lockingWall adminId matterId wallId), db')

/-- `delete_existing_matter`. Rows that refer to the matter keep it. -/
def deleteMatter (db : MatterDb) (matterId : Uuid) : Except HttpError Unit × MatterDb :=
  match getMatter db.toAccessDb matterId with
  | none => (.error matterNotFound, db)
  | some _ =>
    if matterId ∈ db.references ∨ matterId ∈ db.walls.map EthicalWall.matterId then
      (.error .internal, db)
    else (.ok (), { db with matters := Table.remove Matter.id matterId db.matters })

def createUser (db : MatterDb) (user : User) : Option MatterDb := do
  let users ← Table.insert User.id user db.users
  let _ ← Table.insert User.email user db.users
  some { db with users := users }

def changeUser (db : MatterDb) (user : User) : Option MatterDb :=
  match Table.find User.id user.id db.users with
  | none => none
  | some old =>
    if user.role = old.role then
      some { db with users := Table.alter User.id user.id (fun _ => user) db.users }
    else none

def matterHandle (call : MatterCall) : Handler MatterDb HttpError Unit := fun db =>
  match call with
  | .createMatter matterId today data => flushedOr db do
    let m ← newMatter matterId today data
    let (_, db') ← insertMatter db m
    some db'
  | .convertLead matterId clientId today title jurisdiction litigationType => flushedOr db do
    let m ← convertedMatter matterId clientId today title jurisdiction litigationType
    let (_, db') ← insertMatter { db with clients := db.clients++[clientId] } m
    some db'
  | .updateMatter current matterId data =>
    match updatedMatter db current matterId data with
    | .error error => (.error error, db)
    | .ok matter =>
      (.ok (), { db with matters := Table.alter Matter.id matterId (fun _ => matter) db.matters })
  | .deleteMatter matterId => deleteMatter db matterId
  | .createWall data createdBy wallId => onAccess db (createEthicalWall data createdBy wallId)
  | .removeWall wallId => onAccess db (removeEthicalWall wallId)
  | .lockMatter adminId matterId wallId => onAccess db (soarLockMatter adminId matterId wallId)
  | .createUser user => flushedOr db (createUser db user)
  | .changeUser user => flushedOr db (changeUser db user)

end LegalForge.Access
