import LegalForge.Deadlines
import LegalForge.MatterModels
import LegalForge.UnitOfWork

/-! Ethical walls, and who may access a matter. -/
namespace LegalForge.Access
open Auth Matters UnitOfWork
open Deadlines (textColumn)

structure EthicalWall where
  id : Uuid
  matterId : Uuid
  userId : Uuid
  reason : String
  createdBy : Uuid
  isActive : Bool := true
  deriving DecidableEq

structure AccessDb where
  users : List User
  matters : List Matter
  walls : List EthicalWall

def getMatter (db : AccessDb) (matterId : Uuid) : Option Matter :=
  Table.find Matter.id matterId db.matters

/-- The walls between a user and a matter, whether they are active or not. -/
def wallsOf (db : AccessDb) (matterId userId : Uuid) : List EthicalWall :=
  db.walls.filter (fun w => w.matterId = matterId ∧ w.userId = userId)

def matterNotFound : HttpError := ⟨404, "Matter not found"⟩

def wallDenial : HttpError := ⟨403, "Access denied: ethical wall"⟩

def accessDenied : HttpError := ⟨403, "You do not have access to this matter"⟩

/-- `result.scalar_one_or_none()`, which raises `MultipleResultsFound`. -/
def scalarOneOrNone {α : Type} : List α → Except HttpError (Option α)
  | [] => .ok none
  | [row] => .ok (some row)
  | _ :: _ :: _ => .error .internal

theorem scalarOneOrNone_eq_ok {α : Type} {rows : List α} {found : Option α} :
    scalarOneOrNone rows = .ok found ↔ rows = found.toList := by
  match rows, found with
  | [], none => exact iff_of_true rfl rfl
  | [], some x => exact iff_of_false nofun nofun
  | [x], none => exact iff_of_false nofun nofun
  | [x], some y => simp [scalarOneOrNone]
  | x :: y :: rows, none => exact iff_of_false nofun nofun
  | x :: y :: rows, some z => exact iff_of_false nofun nofun

/-- It raises for several rows only. -/
theorem exists_scalarOneOrNone_iff {α : Type} {rows : List α} :
    (∃ found, scalarOneOrNone rows = .ok found) ↔ rows.length ≤ 1 := by
  match rows with
  | [] => exact iff_of_true ⟨none, rfl⟩ (Nat.zero_le 1)
  | [x] => exact iff_of_true ⟨some x, rfl⟩ (le_refl 1)
  | x :: y :: rows =>
    refine iff_of_false ?_ ?_
    · rintro ⟨found, hfound⟩
      cases hfound
    · simp

/-- `check_matter_access` -/
def checkMatterAccess (db : AccessDb) (user : User) (matterId : Uuid) : Except HttpError Unit :=
  if user.role = .admin then .ok ()
  else
    match getMatter db matterId with
    | none => .error matterNotFound
    | some matter =>
      match scalarOneOrNone (wallsOf db matterId user.id) with
      | .error error => .error error
      | .ok (some _) => .error wallDenial
      | .ok none =>
        if matter.assignedAttorneyId = some user.id then .ok () else .error accessDenied

/-- `check_ethical_wall` -/
def checkEthicalWall (db : AccessDb) (matterId userId : Uuid) : Bool :=
  0 < ((wallsOf db matterId userId).filter (fun w => w.isActive)).length

structure EthicalWallCreate where
  matterId : Uuid
  userId : Uuid
  reason : String
  reason_ne : reason ≠ ""

/-- Flush a wall, if the rows it refers to are there. -/
def insertWall (db : AccessDb) (wall : EthicalWall) : Option AccessDb := do
  let _ ← textColumn wall.reason
  let _ ← getMatter db wall.matterId
  let _ ← Table.find User.id wall.userId db.users
  let _ ← Table.find User.id wall.createdBy db.users
  let walls ← Table.insert EthicalWall.id wall db.walls
  some { db with walls := walls }

def newWall (data : EthicalWallCreate) (createdBy wallId : Uuid) : EthicalWall where
  id := wallId
  matterId := data.matterId
  userId := data.userId
  reason := data.reason
  createdBy := createdBy

/-- `create_ethical_wall` -/
def createEthicalWall (data : EthicalWallCreate) (createdBy wallId : Uuid) :
    Handler AccessDb HttpError EthicalWall := fun db =>
  match insertWall db (newWall data createdBy wallId) with
  | none => (.error .internal, db)
  | some db' => (.ok (newWall data createdBy wallId), db')

def removedWall (wall : EthicalWall) : EthicalWall :=
  { wall with isActive := false }

/-- `remove_ethical_wall` -/
def removeEthicalWall (wallId : Uuid) : Handler AccessDb HttpError EthicalWall := fun db =>
  match Table.find EthicalWall.id wallId db.walls with
  | none => (.error ⟨404, "Ethical wall not found"⟩, db)
  | some wall =>
    (.ok (removedWall wall), { db with walls := Table.alter EthicalWall.id wallId removedWall db.walls })

theorem mem_wallsOf {db : AccessDb} {matterId userId : Uuid} {w : EthicalWall} :
    w ∈ wallsOf db matterId userId ↔ w ∈ db.walls ∧ w.matterId = matterId ∧ w.userId = userId := by
  rw [wallsOf, List.mem_filter, decide_eq_true_iff]

theorem wallsOf_append (db : AccessDb) (wall : EthicalWall) (matterId userId : Uuid) :
    wallsOf { db with walls := db.walls++[wall] } matterId userId =
      wallsOf db matterId userId++
        if wall.matterId = matterId ∧ wall.userId = userId then [wall] else [] := by
  rw [wallsOf, List.filter_append]
  congr 1
  split_ifs with h
  · simp [h]
  · simp [h]

/-- Taking a wall down keeps its place. -/
theorem wallsOf_removed (db : AccessDb) (wallId matterId userId : Uuid) :
    wallsOf { db with walls := Table.alter EthicalWall.id wallId removedWall db.walls } matterId
        userId =
      (wallsOf db matterId userId).map (fun w => if w.id = wallId then removedWall w else w) := by
  rw [wallsOf, wallsOf, Table.alter, List.filter_map]
  congr 1
  refine List.filter_congr fun w _ => ?_
  rw [Function.comp_apply]
  split_ifs
  · rfl
  · rfl

/-- The rows a new wall refers to are there, and its id is not taken. -/
structure WallFits (db : AccessDb) (wall : EthicalWall) : Prop where
  reason_fits : '\x00' ∉ wall.reason.toList
  matter_mem : wall.matterId ∈ db.matters.map Matter.id
  user_mem : wall.userId ∈ db.users.map User.id
  creator_mem : wall.createdBy ∈ db.users.map User.id
  fresh : ∀ w ∈ db.walls, w.id ≠ wall.id

theorem insertWall_eq_some_iff {db db' : AccessDb} {wall : EthicalWall} :
    insertWall db wall = some db' ↔
      WallFits db wall ∧ db' = { db with walls := db.walls++[wall] } := by
  constructor
  · intro h
    obtain ⟨text, htext, h⟩ := Option.bind_eq_some_iff.mp h
    obtain ⟨matter, hmatter, h⟩ := Option.bind_eq_some_iff.mp h
    obtain ⟨user, huser, h⟩ := Option.bind_eq_some_iff.mp h
    obtain ⟨creator, hcreator, h⟩ := Option.bind_eq_some_iff.mp h
    obtain ⟨walls, hinsert, hdb⟩ := Option.bind_eq_some_iff.mp h
    obtain ⟨hfresh, rfl⟩ := Table.insert_eq_some_iff.mp hinsert
    refine ⟨⟨?_, Table.exists_find_iff.mp ⟨matter, hmatter⟩, Table.exists_find_iff.mp ⟨user, huser⟩,
      Table.exists_find_iff.mp ⟨creator, hcreator⟩, hfresh⟩, (Option.some.inj hdb).symm⟩
    intro hmem
    rw [textColumn, if_pos hmem] at htext
    cases htext
  · rintro ⟨h, rfl⟩
    obtain ⟨matter, hmatter⟩ := Table.exists_find_iff.mpr h.matter_mem
    obtain ⟨user, huser⟩ := Table.exists_find_iff.mpr h.user_mem
    obtain ⟨creator, hcreator⟩ := Table.exists_find_iff.mpr h.creator_mem
    have hinsert := Table.insert_eq_some_iff.mpr ⟨h.fresh, rfl⟩
    rw [insertWall, textColumn, if_neg h.reason_fits, getMatter, hmatter, huser, hcreator, hinsert]
    rfl

section
variable {db : AccessDb} {user : User} {matterId : Uuid} {matter : Matter}

theorem checkMatterAccess_of_nil (hrole : user.role ≠ .admin)
    (hmatter : getMatter db matterId = some matter) (hwalls : wallsOf db matterId user.id = []) :
    checkMatterAccess db user matterId =
      if matter.assignedAttorneyId = some user.id then .ok () else .error accessDenied := by
  simp only [checkMatterAccess, hrole, hmatter, hwalls, scalarOneOrNone, if_false]

theorem checkMatterAccess_of_singleton {w : EthicalWall} (hrole : user.role ≠ .admin)
    (hmatter : getMatter db matterId = some matter) (hwalls : wallsOf db matterId user.id = [w]) :
    checkMatterAccess db user matterId = .error wallDenial := by
  simp only [checkMatterAccess, hrole, hmatter, hwalls, scalarOneOrNone, if_false]

theorem checkMatterAccess_of_many {w w' : EthicalWall} {ws : List EthicalWall}
    (hrole : user.role ≠ .admin) (hmatter : getMatter db matterId = some matter)
    (hwalls : wallsOf db matterId user.id = w :: w' :: ws) :
    checkMatterAccess db user matterId = .error .internal := by
  simp only [checkMatterAccess, hrole, hmatter, hwalls, scalarOneOrNone, if_false]

/-- Who is let in: the administrators, and the assigned attorney of an existing matter that
has no wall row for them. -/
theorem checkMatterAccess_eq_ok_iff (hrole : user.role ≠ .admin)
    (hmatter : getMatter db matterId = some matter) :
    checkMatterAccess db user matterId = .ok () ↔
      matter.assignedAttorneyId = some user.id ∧ wallsOf db matterId user.id = [] := by
  match hwalls : wallsOf db matterId user.id with
  | [] =>
    rw [checkMatterAccess_of_nil hrole hmatter hwalls]
    split_ifs with hassigned
    · exact iff_of_true rfl ⟨hassigned, rfl⟩
    · exact iff_of_false (by rintro ⟨⟩) fun h => hassigned h.1
  | [w] =>
    rw [checkMatterAccess_of_singleton hrole hmatter hwalls]
    exact iff_of_false (by rintro ⟨⟩) (by simp)
  | w :: w' :: ws =>
    rw [checkMatterAccess_of_many hrole hmatter hwalls]
    exact iff_of_false (by rintro ⟨⟩) (by simp)

end

/-! An attorney, an administrator and a matter. -/

def attorneyKim : User :=
  { id := 1, email := "kim@firm.test", passwordHash := "x", firstName := "Jo", lastName := "Kim" }

def adminRay : User :=
  { id := 2, email := "ray@firm.test", passwordHash := "x", firstName := "Al", lastName := "Ray"
    role := .admin }

def openMatter : Matter :=
  { id := 3, matterNumber := some 10001, title := "Lee v. Park", clientId := 8
    dateOpened := ⟨739100, by decide, by decide⟩, assignedAttorneyId := some 1 }

end LegalForge.Access
