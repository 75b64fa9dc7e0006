import LegalForge.ConflictCheck
import LegalForge.MatterService

/-! The contacts of a matter. A row is added under the matter of the path; it is removed by its own
key, while access is checked for the matter of the path. -/
namespace LegalForge.Access
open Auth Transition UnitOfWork
open Conflicts (MatterContact)

structure MatterContactsDb extends AccessDb where
  /-- The ids of the contacts -/
  contacts : List Uuid
  matterContacts : List MatterContact

/-- `require_roles(*roles)` -/
def requireRoles (roles : List UserRole) (user : User) : Except HttpError Unit :=
  if user.role ∈ roles then .ok () else .error insufficientPermissions

/-- What both routes check first. -/
def checkContactsAccess (db : MatterContactsDb) (user : User) (matterId : Uuid) :
    Except HttpError Unit := do
  requireRoles [.admin, .attorney, .paralegal] user
  checkMatterAccess db.toAccessDb user matterId

/-- `add_contact_to_matter`, with the key of the new row. -/
def addContactToMatter (user : User) (matterId contactId : Uuid) (relationshipType : String)
    (rowId : Uuid) : Handler MatterContactsDb HttpError Unit := fun db =>
  match checkContactsAccess db user matterId with
  | .error error => (.error error, db)
  | .ok () =>
    match getMatter db.toAccessDb matterId with
    | none => (.error matterNotFound, db)
    | some matter =>
      match varchar 100 relationshipType with
      | none => (.error .internal, db)
      | some relationshipType =>
        let row : MatterContact := ⟨rowId, matter.id, contactId, relationshipType⟩
        if contactId ∈ db.contacts then
          match Table.insert MatterContact.id row db.matterContacts with
          | none => (.error .internal, db)
          | some rows => (.ok (), { db with matterContacts := rows })
        -- the foreign key of the contact
        else (.error .internal, db)

/-- `remove_matter_contact`. There may be no such row. -/
def removeMatterContact (db : MatterContactsDb) (matterContactId : Uuid) : MatterContactsDb :=
  { db with matterContacts := Table.remove MatterContact.id matterContactId db.matterContacts }

/-- `remove_contact_from_matter` -/
def removeContactFromMatter (user : User) (matterId matterContactId : Uuid) :
    Handler MatterContactsDb HttpError Unit := fun db =>
  match checkContactsAccess db user matterId with
  | .error error => (.error error, db)
  | .ok () => (.ok (), removeMatterContact db matterContactId)

/-- The rows of the other matters are still there. -/
def OthersKept (matterId : Uuid) (db db' : MatterContactsDb) : Prop :=
  ∀ row ∈ db.matterContacts, row.matterId ≠ matterId → row ∈ db'.matterContacts

/-- The request is refused, or the key it names is not that of a row of another matter. -/
def Confined (user : User) (matterId matterContactId : Uuid) (db : MatterContactsDb) : Prop :=
  checkContactsAccess db user matterId ≠ .ok () ∨
    ∀ row ∈ db.matterContacts, row.id = matterContactId → row.matterId = matterId

section
variable {db : MatterContactsDb} {user : User} {matterId matterContactId : Uuid} {row : MatterContact}

theorem mem_removeMatterContact_iff :
    row ∈ (removeMatterContact db matterContactId).matterContacts ↔
      row ∈ db.matterContacts ∧ row.id ≠ matterContactId := by
  simp [removeMatterContact, Table.remove]

theorem removeContactFromMatter_of_ok (h : checkContactsAccess db user matterId = .ok ()) :
    removeContactFromMatter user matterId matterContactId db =
      (.ok (), removeMatterContact db matterContactId) := by
  unfold removeContactFromMatter
  rw [h]

theorem removeContactFromMatter_of_error {error : HttpError}
    (h : checkContactsAccess db user matterId = .error error) :
    removeContactFromMatter user matterId matterContactId db = (.error error, db) := by
  unfold removeContactFromMatter
  rw [h]

theorem othersKept_of_confined (h : Confined user matterId matterContactId db) :
    OthersKept matterId db (removeContactFromMatter user matterId matterContactId db).2 := by
  intro row hrow hother
  cases hcheck : checkContactsAccess db user matterId with
  | error error =>
    rw [removeContactFromMatter_of_error hcheck]
    exact hrow
  | ok =>
    rw [removeContactFromMatter_of_ok hcheck]
    rcases h with hrefused | hown
    · exact absurd hcheck hrefused
    · apply mem_removeMatterContact_iff.mpr
      refine ⟨hrow, ?_⟩
      intro hid
      exact hother (hown row hrow hid)

/-- The row that is removed would otherwise be kept. -/
theorem confined_of_othersKept
    (h : OthersKept matterId db (removeContactFromMatter user matterId matterContactId db).2) :
    Confined user matterId matterContactId db := by
  cases hcheck : checkContactsAccess db user matterId with
  | error error =>
    left
    rw [hcheck]
    nofun
  | ok =>
    right
    intro row hrow hid
    rw [removeContactFromMatter_of_ok hcheck] at h
    by_contra hother
    exact (mem_removeMatterContact_iff.mp (h row hrow hother)).2 hid

/-- A removal leaves the rows of the other matters in place if and only if it is refused, or its
second key does not name one of them. -/
theorem othersKept_iff (db : MatterContactsDb) (user : User) (matterId matterContactId : Uuid) :
    OthersKept matterId db (removeContactFromMatter user matterId matterContactId db).2 ↔
      Confined user matterId matterContactId db :=
  ⟨confined_of_othersKept, othersKept_of_confined⟩

end

/-- An attorney with matter 1, and a contact of matter 2. -/
def rayUser : User where
  id := 71
  email := "ray@firm.org"
  passwordHash := ""
  firstName := "Ray"
  lastName := "Roe"

def twoMatters : MatterContactsDb where
  users := [rayUser]
  matters :=
    [{ id := 1, matterNumber := some 1001, title := "Ames", clientId := 3
       dateOpened := ⟨739720, by decide, by decide⟩, assignedAttorneyId := some 71 },
     { id := 2, matterNumber := some 1002, title := "Bell", clientId := 4
       dateOpened := ⟨739720, by decide, by decide⟩, assignedAttorneyId := some 72 }]
  walls := []
  contacts := [5]
  matterContacts := [{ id := 6, matterId := 2, contactId := 5 }]

/-- He may not touch matter 2, and removes its contact by way of matter 1. -/
theorem twoMatters_othersLost :
    checkMatterAccess twoMatters.toAccessDb rayUser 2 = .error accessDenied ∧
      ¬OthersKept 1 twoMatters (removeContactFromMatter rayUser 1 6 twoMatters).2 := by
  refine ⟨by decide, ?_⟩
  intro h
  have hrow := h { id := 6, matterId := 2, contactId := 5 } (List.mem_singleton_self _) (by decide)
  cases hrow

/-! Any number of requests. -/

/-- A request about the contacts of matters. -/
inductive ContactCall where
  | add (user : User) (matterId contactId : Uuid) (relationshipType : String) (rowId : Uuid)
  | remove (user : User) (matterId matterContactId : Uuid)

def handleContacts : ContactCall → Handler MatterContactsDb HttpError Unit
  | .add user matterId contactId relationshipType rowId =>
    addContactToMatter user matterId contactId relationshipType rowId
  | .remove user matterId matterContactId => removeContactFromMatter user matterId matterContactId

def contactStep (db : MatterContactsDb) (call : ContactCall) : MatterContactsDb :=
  (handleContacts call db).2

/-- A removal is confined to the matter of its path. -/
def ContactCall.Confined (db : MatterContactsDb) : ContactCall → Prop
  | .add _ _ _ _ _ => True
  | .remove user matterId matterContactId => Access.Confined user matterId matterContactId db

/-- The matter whose contacts a request may remove. -/
def ContactCall.removesFrom : ContactCall → Option Uuid
  | .add _ _ _ _ _ => none
  | .remove _ matterId _ => some matterId

theorem mem_addContactToMatter {db : MatterContactsDb} {row : MatterContact}
    (hrow : row ∈ db.matterContacts) (user : User) (matterId contactId : Uuid)
    (relationshipType : String) (rowId : Uuid) :
    row ∈ (addContactToMatter user matterId contactId relationshipType rowId db).2.matterContacts := by
  unfold addContactToMatter
  split
  · exact hrow
  · split
    · exact hrow
    · split
      · exact hrow
      · dsimp only
        split_ifs
        · split
          · exact hrow
          · rename_i rows hinsert
            obtain ⟨-, rfl⟩ := Table.insert_eq_some_iff.mp hinsert
            exact List.mem_append_left _ hrow
        · exact hrow

/-- One request keeps the rows of every matter that it does not remove from. -/
theorem mem_contactStep {db : MatterContactsDb} {call : ContactCall} {row : MatterContact}
    (hconfined : call.Confined db) (hrow : row ∈ db.matterContacts)
    (hother : call.removesFrom ≠ some row.matterId) : row ∈ (contactStep db call).matterContacts := by
  cases call with
  | add user matterId contactId relationshipType rowId => exact mem_addContactToMatter hrow _ _ _ _ _
  | remove user matterId matterContactId =>
    have hne : row.matterId ≠ matterId := by
      intro hsame
      exact hother (congrArg some hsame.symm)
    exact othersKept_of_confined hconfined row hrow hne

/-- So does a run of requests whose removals are confined when they are made. -/
theorem mem_contactRun {db : MatterContactsDb} {calls : List ContactCall} {row : MatterContact}
    (hconfined : Along (total contactStep) (fun db call _ => call.Confined db) db calls)
    (hrow : row ∈ db.matterContacts) (hother : ∀ call ∈ calls, call.removesFrom ≠ some row.matterId) :
    row ∈ (calls.foldl contactStep db).matterContacts := by
  induction calls generalizing db with
  | nil => exact hrow
  | cons call calls ih =>
    obtain ⟨hcall, hrest⟩ := hconfined (contactStep db call) rfl
    rw [List.forall_mem_cons] at hother
    exact ih hrest (mem_contactStep hcall hrow hother.1) hother.2

end LegalForge.Access
