import LegalForge.AccessControl

/-! Whether the check of an ethical wall and the check of the access to a matter agree, after
any sequence of walls put up and taken down. -/
namespace LegalForge.Access
open Auth Matters UnitOfWork Transition

inductive WallCall where
  | create (data : EthicalWallCreate) (createdBy wallId : Uuid)
  | remove (wallId : Uuid)

def wallHandle : WallCall → Handler AccessDb HttpError EthicalWall
  | .create data createdBy wallId => createEthicalWall data createdBy wallId
  | .remove wallId => removeEthicalWall wallId

/-- The access check ends with access or a 403, and names a wall when there is one. -/
def Agree (db : AccessDb) (user : User) (matterId : Uuid) : Prop :=
  (checkMatterAccess db user matterId = .ok () ∨
    ∃ detail, checkMatterAccess db user matterId = .error ⟨403, detail⟩) ∧
  (checkMatterAccess db user matterId = .error wallDenial ↔
    checkEthicalWall db matterId user.id = true)

def ChecksAgree (db : AccessDb) : Prop :=
  ∀ user ∈ db.users, user.role ≠ .admin → ∀ matter ∈ db.matters, Agree db user matter.id

/-- There is no wall row, or one that is active. -/
def AtMostOneActive (walls : List EthicalWall) : Prop :=
  walls = [] ∨ ∃ w, walls = [w] ∧ w.isActive = true

theorem agree_iff {db : AccessDb} {user : User} {matterId : Uuid} {matter : Matter}
    (hrole : user.role ≠ .admin) (hmatter : getMatter db matterId = some matter) :
    Agree db user matterId ↔ AtMostOneActive (wallsOf db matterId user.id) := by
  unfold Agree AtMostOneActive checkEthicalWall
  match hwalls : wallsOf db matterId user.id with
  | [] =>
    rw [checkMatterAccess_of_nil hrole hmatter hwalls]
    refine iff_of_true ⟨?_, ?_⟩ (Or.inl rfl)
    · split_ifs
      · exact Or.inl rfl
      · exact Or.inr ⟨_, rfl⟩
    · split_ifs
      · exact iff_of_false (by rintro ⟨⟩) (by decide)
      · exact iff_of_false (by decide) (by decide)
  | [w] =>
    rw [checkMatterAccess_of_singleton hrole hmatter hwalls]
    cases hactive : w.isActive with
    | true =>
      refine iff_of_true ⟨Or.inr ⟨_, rfl⟩, iff_of_true rfl ?_⟩ (Or.inr ⟨w, rfl, hactive⟩)
      simp [hactive]
    | false =>
      refine iff_of_false ?_ ?_
      · rintro ⟨-, h⟩
        have hwall := h.mp rfl
        simp [hactive] at hwall
      · rintro (h | ⟨w', h, hactive'⟩)
        · cases h
        · obtain rfl := (List.cons.inj h).1
          rw [hactive] at hactive'
          cases hactive'
  -- with two rows the access check raises, which is no denial
  | w :: w' :: ws =>
    rw [checkMatterAccess_of_many hrole hmatter hwalls]
    refine iff_of_false ?_ ?_
    · rintro ⟨h | ⟨detail, h⟩, -⟩
      · cases h
      · have hstatus : 500 = 403 := congrArg HttpError.status (Except.error.inj h)
        omega
    · rintro (h | ⟨w'', h, -⟩)
      · cases h
      · cases (List.cons.inj h).2

theorem exists_getMatter {db : AccessDb} {matter : Matter} (h : matter ∈ db.matters) :
    ∃ m, getMatter db matter.id = some m :=
  Table.exists_find_iff.mpr (List.mem_map_of_mem h)

/-- No user but an administrator has two wall rows for a matter, or one that is taken down. -/
theorem checksAgree_iff {db : AccessDb} : ChecksAgree db ↔
    ∀ user ∈ db.users, user.role ≠ .admin → ∀ matter ∈ db.matters,
      AtMostOneActive (wallsOf db matter.id user.id) := by
  refine forall₂_congr fun user _ => forall_congr' fun hrole => forall₂_congr fun matter hmem => ?_
  obtain ⟨m, hm⟩ := exists_getMatter hmem
  exact agree_iff hrole hm

/-- Wall ids are unique and every wall has its matter. -/
structure WallsValid (db : AccessDb) : Prop where
  nodup : (db.walls.map EthicalWall.id).Nodup
  matter_known : ∀ w ∈ db.walls, w.matterId ∈ db.matters.map Matter.id

/-- The call puts up the first wall row between its user and matter, or takes down a wall of
an administrator. -/
def WallOnce (db : AccessDb) : WallCall → Prop
  | .create data createdBy wallId =>
    WallFits db (newWall data createdBy wallId) →
      ∀ user ∈ db.users, user.id = data.userId → user.role ≠ .admin →
        wallsOf db data.matterId data.userId = []
  | .remove wallId =>
    ∀ wall, Table.find EthicalWall.id wallId db.walls = some wall →
      ∀ user ∈ db.users, user.id = wall.userId → user.role = .admin

section
variable {db : AccessDb}

theorem checksAgree_create_iff {wall : EthicalWall} (hmatter : wall.matterId ∈ db.matters.map Matter.id)
    (hactive : wall.isActive = true) (hagree : ChecksAgree db) :
    ChecksAgree { db with walls := db.walls++[wall] } ↔
      ∀ user ∈ db.users, user.id = wall.userId → user.role ≠ .admin →
        wallsOf db wall.matterId wall.userId = [] := by
  rw [checksAgree_iff]
  rw [checksAgree_iff] at hagree
  constructor
  · rintro h user huser hid hrole
    obtain ⟨matter, hmem, hmatterId⟩ := List.mem_map.mp hmatter
    have hone := h user huser hrole matter hmem
    rw [wallsOf_append, if_pos ⟨hmatterId.symm, hid.symm⟩, hid, hmatterId] at hone
    rcases hone with hnil | ⟨w, hw, -⟩
    · exact (List.append_eq_nil_iff.mp hnil).1
    · rcases List.append_eq_singleton_iff.mp hw with ⟨hnil, -⟩ | ⟨-, hnil⟩
      · exact hnil
      · cases hnil
  · intro h user huser hrole matter hmem
    rw [wallsOf_append]
    split_ifs with hsame
    · have hnil := h user huser hsame.2.symm hrole
      rw [hsame.1, hsame.2] at hnil
      rw [hnil]
      exact Or.inr ⟨wall, rfl, hactive⟩
    · rw [List.append_nil]
      exact hagree user huser hrole matter hmem

theorem checksAgree_remove_iff {wallId : Uuid} {wall : EthicalWall} (hvalid : WallsValid db)
    (hfind : Table.find EthicalWall.id wallId db.walls = some wall) (hagree : ChecksAgree db) :
    ChecksAgree { db with walls := Table.alter EthicalWall.id wallId removedWall db.walls } ↔
      ∀ user ∈ db.users, user.id = wall.userId → user.role = .admin := by
  rw [checksAgree_iff]
  rw [checksAgree_iff] at hagree
  constructor
  · intro h user huser hid
    by_contra hrole
    obtain ⟨matter, hmem, hmatterId⟩ :=
      List.mem_map.mp (hvalid.matter_known wall (Table.mem_of_find hfind))
    have hwall : wall ∈ wallsOf db matter.id user.id :=
      mem_wallsOf.mpr ⟨Table.mem_of_find hfind, hmatterId.symm, hid.symm⟩
    have hafter := h user huser hrole matter hmem
    rw [wallsOf_removed] at hafter
    -- the one row there was is inactive now
    rcases hagree user huser hrole matter hmem with hnil | ⟨w, hw, -⟩
    · rw [hnil] at hwall
      cases hwall
    · rw [hw] at hwall hafter
      obtain rfl := List.mem_singleton.mp hwall
      rw [List.map_singleton, if_pos (Table.key_of_find hfind)] at hafter
      rcases hafter with hnil | ⟨w', hw', hactive⟩
      · cases hnil
      · rw [← (List.cons.inj hw').1] at hactive
        cases hactive
  · intro h user huser hrole matter hmem
    have hsame : (wallsOf db matter.id user.id).map
        (fun w => if w.id = wallId then removedWall w else w) = wallsOf db matter.id user.id := by
      conv_rhs => rw [← List.map_id (wallsOf db matter.id user.id)]
      refine List.map_congr_left fun w hw => ?_
      obtain ⟨hw, -, huserId⟩ := mem_wallsOf.mp hw
      rw [if_neg, id]
      intro hid
      have hwall : w = wall := List.inj_on_of_nodup_map hvalid.nodup hw (Table.mem_of_find hfind)
        (hid.trans (Table.key_of_find hfind).symm)
      rw [hwall] at huserId
      exact hrole (h user huser huserId.symm)
    rw [wallsOf_removed, hsame]
    exact hagree user huser hrole matter hmem

end

theorem createEthicalWall_eq_ok {db db' : AccessDb} {data : EthicalWallCreate}
    {createdBy wallId : Uuid} {wall : EthicalWall} :
    createEthicalWall data createdBy wallId db = (.ok wall, db') ↔
      WallFits db wall ∧ wall = newWall data createdBy wallId ∧
        db' = { db with walls := db.walls++[wall] } := by
  unfold createEthicalWall
  constructor
  · intro h
    split at h
    · cases h
    · rename_i db₁ hinsert
      obtain ⟨hwall, rfl⟩ := Prod.mk.inj h
      obtain rfl := Except.ok.inj hwall
      obtain ⟨hfits, rfl⟩ := insertWall_eq_some_iff.mp hinsert
      exact ⟨hfits, rfl, rfl⟩
  · rintro ⟨hfits, rfl, rfl⟩
    rw [insertWall_eq_some_iff.mpr ⟨hfits, rfl⟩]

theorem removeEthicalWall_eq_ok {db db' : AccessDb} {wallId : Uuid} {wall : EthicalWall}
    (h : removeEthicalWall wallId db = (.ok wall, db')) :
    ∃ w, Table.find EthicalWall.id wallId db.walls = some w ∧
      db' = { db with walls := Table.alter EthicalWall.id wallId removedWall db.walls } := by
  unfold removeEthicalWall at h
  split at h
  · cases h
  · rename_i w hfind
    exact ⟨w, hfind, (Prod.mk.inj h).2.symm⟩

theorem WallsValid.step {db : AccessDb} {call : WallCall} {wall : EthicalWall} {db' : AccessDb}
    (hvalid : WallsValid db) (h : wallHandle call db = (.ok wall, db')) : WallsValid db' := by
  cases call with
  | create data createdBy wallId =>
    obtain ⟨hfits, rfl, rfl⟩ := createEthicalWall_eq_ok.mp h
    refine ⟨Table.nodup_append_singleton hvalid.nodup hfits.fresh, fun w hw => ?_⟩
    rcases List.mem_append.mp hw with hw | hw
    · exact hvalid.matter_known w hw
    · rw [List.mem_singleton.mp hw]
      exact hfits.matter_mem
  | remove wallId =>
    obtain ⟨w, hfind, rfl⟩ := removeEthicalWall_eq_ok h
    constructor
    · have hkeys : (Table.alter EthicalWall.id wallId removedWall db.walls).map EthicalWall.id =
          db.walls.map EthicalWall.id := by
        refine Table.map_key_alter ?_ db.walls
        exact fun w hid => hid
      exact hkeys ▸ hvalid.nodup
    · intro w' hw'
      obtain ⟨w₀, hw₀, rfl⟩ := Table.mem_alter.mp hw'
      split_ifs
      · exact hvalid.matter_known w₀ hw₀
      · exact hvalid.matter_known w₀ hw₀

theorem checksAgree_step_iff {db t : AccessDb} {call : WallCall} (hvalid : WallsValid db)
    (hagree : ChecksAgree db) (hstep : serve wallHandle db call = some t) :
    ChecksAgree t ↔ WallOnce db call := by
  have ht : committed (wallHandle call) db = t := Option.some.inj hstep
  subst ht
  cases call with
  | create data createdBy wallId =>
    -- the row goes in if what it refers to is there
    by_cases hfits : WallFits db (newWall data createdBy wallId)
    · have hok : wallHandle (.create data createdBy wallId) db =
          (.ok (newWall data createdBy wallId),
            { db with walls := db.walls++[newWall data createdBy wallId] }) :=
        createEthicalWall_eq_ok.mpr ⟨hfits, rfl, rfl⟩
      rw [committed_of_ok hok, checksAgree_create_iff hfits.matter_mem rfl hagree]
      exact ⟨fun h _ => h, fun h => h hfits⟩
    · rcases committed_cases (wallHandle (.create data createdBy wallId)) db with
        ⟨e, db', -, hsame⟩ | ⟨wall, db', hok, -⟩
      · rw [hsame]
        exact iff_of_true hagree fun h => absurd h hfits
      · obtain ⟨hwall, rfl, -⟩ := createEthicalWall_eq_ok.mp hok
        exact absurd hwall hfits
  | remove wallId =>
    cases hfind : Table.find EthicalWall.id wallId db.walls with
    | none =>
      have herror : wallHandle (.remove wallId) db = (.error ⟨404, "Ethical wall not found"⟩, db) := by
        rw [wallHandle, removeEthicalWall, hfind]
      rw [committed_of_error herror]
      refine iff_of_true hagree fun wall h => ?_
      rw [hfind] at h
      cases h
    | some wall =>
      have hok : wallHandle (.remove wallId) db = (.ok (removedWall wall),
          { db with walls := Table.alter EthicalWall.id wallId removedWall db.walls }) := by
        rw [wallHandle, removeEthicalWall, hfind]
      rw [committed_of_ok hok, checksAgree_remove_iff hvalid hfind hagree]
      constructor
      · intro h w hw
        rw [hfind] at hw
        exact Option.some.inj hw ▸ h
      · exact fun h => h wall hfind

/-- After any calls that put walls up and take them down, the two checks agree for every user
and matter, exactly when no user but an administrator is walled off from a matter a second
time and no wall of such a user is taken down. -/
theorem checksAgree_throughout_iff (users : List User) (matters : List Matter)
    (calls : List WallCall) :
    Throughout (serve wallHandle) ChecksAgree ⟨users, matters, []⟩ calls ↔
      Along (serve wallHandle) (fun db call _ => WallOnce db call) ⟨users, matters, []⟩ calls := by
  have hstart : ChecksAgree ⟨users, matters, []⟩ :=
    checksAgree_iff.mpr fun _ _ _ _ _ => Or.inl rfl
  have hvalid : WallsValid ⟨users, matters, []⟩ := ⟨List.nodup_nil, by simp⟩
  rw [throughout_iff_along (I := WallsValid)
    (fun s call t hs hstep => serve_invariant (fun _ _ _ _ hI h => hI.step h) hs hstep)
    (fun s call t hs hagree hstep => checksAgree_step_iff hs hagree hstep) hvalid]
  exact and_iff_right hstart

/-- A wall is put up and taken down again. -/
def wallTakenDown : List WallCall :=
  [.create ⟨3, 1, "Former client", by decide⟩ 2 5, .remove 5]

/-- The attorney is still denied, because of a wall that is not there any more. -/
theorem not_checksAgree_wallTakenDown :
    ¬Throughout (serve wallHandle) ChecksAgree ⟨[attorneyKim, adminRay], [openMatter], []⟩
      wallTakenDown := by
  intro h
  have hlast := throughout_iff_prefix.mp h wallTakenDown [] _ (List.append_nil _).symm rfl
  have hagree := (hlast attorneyKim List.mem_cons_self (by decide) openMatter List.mem_cons_self).2
  revert hagree
  decide

end LegalForge.Access
