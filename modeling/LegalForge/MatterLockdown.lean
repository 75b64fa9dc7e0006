import LegalForge.EthicalWalls
import LegalForge.MatterService

/-! Who is still let in once a matter is locked. -/
namespace LegalForge.Access
open Auth Matters UnitOfWork Transition

/-- No user but an administrator gets past the access check. -/
def Denied (matterId : Uuid) (db : MatterDb) : Prop :=
  ∀ user ∈ db.users, user.role ≠ .admin → checkMatterAccess db.toAccessDb user matterId ≠ .ok ()

/-- The matter is assigned to nobody, or to an administrator, or to a user who is walled off. -/
def AttorneyOut (matterId : Uuid) (db : MatterDb) : Prop :=
  ∀ matter, getMatter db.toAccessDb matterId = some matter →
    ∀ user ∈ db.users, user.role ≠ .admin → matter.assignedAttorneyId = some user.id →
      wallsOf db.toAccessDb matterId user.id ≠ []

/-- The call does not assign the matter to a user who would get in. -/
def KeepsOut (matterId : Uuid) (db : MatterDb) : MatterCall → Prop
  | .updateMatter current id data =>
    id = matterId → (∃ matter, updatedMatter db current id data = .ok matter) →
      ∀ user ∈ db.users, user.role ≠ .admin → data.assignedAttorneyId = some (some user.id) →
        wallsOf db.toAccessDb matterId user.id ≠ []
  | _ => True

theorem denied_iff {matterId : Uuid} {db : MatterDb} : Denied matterId db ↔ AttorneyOut matterId db := by
  cases hmatter : getMatter db.toAccessDb matterId with
  | none =>
    refine iff_of_true (fun user _ hrole => ?_) fun matter h => ?_
    · simp only [checkMatterAccess, hrole, hmatter, if_false]
      rintro ⟨⟩
    · rw [hmatter] at h
      cases h
  | some matter =>
    constructor
    · intro h matter' h' user huser hrole hassigned hwalls
      rw [hmatter] at h'
      obtain rfl := Option.some.inj h'
      exact h user huser hrole
        ((checkMatterAccess_eq_ok_iff hrole hmatter).mpr ⟨hassigned, hwalls⟩)
    · intro h user huser hrole hok
      obtain ⟨hassigned, hwalls⟩ := (checkMatterAccess_eq_ok_iff hrole hmatter).mp hok
      exact h matter hmatter user huser hrole hassigned hwalls

/-- Attorneys are users. -/
def AttorneysKnown (db : MatterDb) : Prop :=
  ∀ m ∈ db.matters, ∀ userId, m.assignedAttorneyId = some userId → userId ∈ db.users.map User.id

/-- The matter is there and some wall refers to it; assigned attorneys are users. -/
structure Locked (matterId : Uuid) (db : MatterDb) : Prop where
  matter_mem : matterId ∈ db.matters.map Matter.id
  wall_mem : matterId ∈ db.walls.map EthicalWall.matterId
  attorney_known : AttorneysKnown db

/-- The call leaves the matter, and only adds walls and users. -/
structure Keeps (matterId : Uuid) (db db' : MatterDb) : Prop where
  matter_eq : getMatter db'.toAccessDb matterId = getMatter db.toAccessDb matterId
  walls_ne : ∀ userId, wallsOf db.toAccessDb matterId userId ≠ [] →
    wallsOf db'.toAccessDb matterId userId ≠ []
  wall_mem : matterId ∈ db.walls.map EthicalWall.matterId →
    matterId ∈ db'.walls.map EthicalWall.matterId
  /-- A user was there before with this role, or is new. -/
  user_old : ∀ user ∈ db'.users, (∃ old ∈ db.users, old.id = user.id ∧ old.role = user.role) ∨
    user.id ∉ db.users.map User.id
  attorney_known : AttorneysKnown db → AttorneysKnown db'

theorem Keeps.attorneyOut {matterId : Uuid} {db db' : MatterDb} (h : Keeps matterId db db')
    (hlocked : Locked matterId db) (hout : AttorneyOut matterId db) : AttorneyOut matterId db' := by
  intro matter hmatter user huser hrole hassigned
  rw [h.matter_eq] at hmatter
  rcases h.user_old user huser with ⟨old, hold, hid, hsame⟩ | hnew
  · refine h.walls_ne user.id ?_
    rw [← hid] at hassigned ⊢
    exact hout matter hmatter old hold (hsame ▸ hrole) hassigned
  · exact absurd (hlocked.attorney_known matter (Table.mem_of_find hmatter) user.id hassigned) hnew

theorem Keeps.locked {matterId : Uuid} {db db' : MatterDb} (h : Keeps matterId db db')
    (hlocked : Locked matterId db) : Locked matterId db' where
  matter_mem := by
    obtain ⟨m, hm⟩ := Table.exists_find_iff.mpr hlocked.matter_mem
    exact Table.exists_find_iff.mp ⟨m, h.matter_eq.trans hm⟩
  wall_mem := h.wall_mem hlocked.wall_mem
  attorney_known := h.attorney_known hlocked.attorney_known

section
variable {matterId : Uuid} {db db' : MatterDb}

theorem wallsOf_ne_append {wall : EthicalWall} {userId : Uuid}
    (h : wallsOf db.toAccessDb matterId userId ≠ []) :
    wallsOf { db.toAccessDb with walls := db.walls++[wall] } matterId userId ≠ [] := by
  rw [wallsOf_append]
  exact List.append_ne_nil_of_left_ne_nil h _

theorem keeps_insertWall {wall : EthicalWall} {db₁ : AccessDb}
    (h : insertWall db.toAccessDb wall = some db₁) :
    Keeps matterId db { db with toAccessDb := db₁ } := by
  obtain ⟨-, rfl⟩ := insertWall_eq_some_iff.mp h
  refine ⟨rfl, fun userId hne => wallsOf_ne_append hne, fun hmem => ?_,
    fun user huser => Or.inl ⟨user, huser, rfl, rfl⟩, fun h => h⟩
  rw [List.map_append]
  exact List.mem_append_left _ hmem

theorem keeps_removeWall (wallId : Uuid) : Keeps matterId db { db with
    walls := Table.alter EthicalWall.id wallId removedWall db.walls } := by
  refine ⟨rfl, fun userId hne => ?_, fun hmem => ?_,
    fun user huser => Or.inl ⟨user, huser, rfl, rfl⟩, fun h => h⟩
  · have hsame := wallsOf_removed db.toAccessDb wallId matterId userId
    intro hnil
    exact hne (List.map_eq_nil_iff.mp (hsame.symm.trans hnil))
  · obtain ⟨w, hw, hid⟩ := List.mem_map.mp hmem
    refine List.mem_map.mpr ⟨_, Table.mem_alter.mpr ⟨w, hw, rfl⟩, ?_⟩
    split_ifs
    · exact hid
    · exact hid

theorem attorney_mem {users : List User} {assigned : Option Uuid}
    (h : attorneyKnown users assigned = true) {userId : Uuid} (hassigned : assigned = some userId) :
    userId ∈ users.map User.id := by
  rw [hassigned] at h
  obtain ⟨user, huser⟩ := Option.isSome_iff_exists.mp h
  exact Table.exists_find_iff.mp ⟨user, huser⟩

/-- A new matter is another one. -/
theorem keeps_insertMatter {m m' : Matter} {clients : List Uuid}
    (hmem : matterId ∈ db.matters.map Matter.id)
    (h : insertMatter { db with clients := clients } m = some (m', db')) : Keeps matterId db db' := by
  unfold insertMatter at h
  split_ifs at h with hknown
  obtain ⟨matters, hinsert, h⟩ := Option.bind_eq_some_iff.mp h
  obtain ⟨number, -, h⟩ := Option.bind_eq_some_iff.mp h
  obtain ⟨rfl, rfl⟩ := Prod.mk.inj (Option.some.inj h)
  refine ⟨?_, fun userId hne => hne, fun hmem => hmem,
    fun user huser => Or.inl ⟨user, huser, rfl, rfl⟩, fun hold m₀ hm₀ userId hassigned => ?_⟩
  · obtain ⟨m₀, hm₀⟩ := Table.exists_find_iff.mpr hmem
    rw [getMatter, getMatter, Table.find_append, hm₀]
    rfl
  · rcases List.mem_append.mp hm₀ with hm₀ | hm₀
    · exact hold m₀ hm₀ userId hassigned
    · rw [List.mem_singleton.mp hm₀] at hassigned
      exact attorney_mem hknown.2 hassigned

theorem keeps_deleteMatter {id : Uuid} (hlocked : Locked matterId db)
    (h : deleteMatter db id = (.ok (), db')) : Keeps matterId db db' := by
  unfold deleteMatter at h
  split at h
  · cases h
  · split_ifs at h with hreferred
    · cases h
    · obtain ⟨-, rfl⟩ := Prod.mk.inj h
      -- the wall refers to the locked matter
      have hne : matterId ≠ id := by
        rintro rfl
        exact hreferred (Or.inr hlocked.wall_mem)
      refine ⟨Table.find_remove_of_ne hne db.matters, fun userId hne => hne, fun hmem => hmem,
        fun user huser => Or.inl ⟨user, huser, rfl, rfl⟩, fun hold m hm => ?_⟩
      exact hold m (List.mem_filter.mp hm).1

theorem keeps_createUser {user : User} (h : createUser db user = some db') :
    Keeps matterId db db' := by
  obtain ⟨users, hinsert, h⟩ := Option.bind_eq_some_iff.mp h
  obtain ⟨-, -, h⟩ := Option.bind_eq_some_iff.mp h
  obtain rfl := Option.some.inj h
  obtain ⟨hfresh, rfl⟩ := Table.insert_eq_some_iff.mp hinsert
  refine ⟨rfl, fun userId hne => hne, fun hmem => hmem, fun u hu => ?_,
    fun hold m hm userId hassigned => ?_⟩
  · rcases List.mem_append.mp hu with hu | hu
    · exact Or.inl ⟨u, hu, rfl, rfl⟩
    · rw [List.mem_singleton.mp hu]
      refine Or.inr fun hmem => ?_
      obtain ⟨old, hold, hid⟩ := List.mem_map.mp hmem
      exact hfresh old hold hid
  · rw [List.map_append]
    exact List.mem_append_left _ (hold m hm userId hassigned)

theorem keeps_changeUser {user : User} (h : changeUser db user = some db') :
    Keeps matterId db db' := by
  unfold changeUser at h
  split at h
  · cases h
  · rename_i old hfind
    split_ifs at h with hrole
    obtain rfl := Option.some.inj h
    refine ⟨rfl, fun userId hne => hne, fun hmem => hmem, fun u hu => Or.inl ?_,
      fun hold m hm userId hassigned => ?_⟩
    · obtain ⟨u₀, hu₀, rfl⟩ := Table.mem_alter.mp hu
      split_ifs
      · exact ⟨old, Table.mem_of_find hfind, Table.key_of_find hfind, hrole.symm⟩
      · exact ⟨u₀, hu₀, rfl, rfl⟩
    · rw [Table.map_key_alter fun _ _ => rfl]
      exact hold m hm userId hassigned

/-- The row an update writes is the one it read, with the attorney the request sets. -/
theorem changedMatter_eq_some {m m' : Matter} {data : MatterUpdate}
    (h : changedMatter m data = some m') :
    m'.id = m.id ∧ m'.assignedAttorneyId = data.assignedAttorneyId.getD m.assignedAttorneyId := by
  obtain ⟨title, -, h⟩ := Option.bind_eq_some_iff.mp h
  obtain ⟨status, -, h⟩ := Option.bind_eq_some_iff.mp h
  obtain ⟨litigationType, -, h⟩ := Option.bind_eq_some_iff.mp h
  obtain ⟨jurisdiction, -, h⟩ := Option.bind_eq_some_iff.mp h
  obtain ⟨courtName, -, h⟩ := Option.bind_eq_some_iff.mp h
  obtain ⟨caseNumber, -, h⟩ := Option.bind_eq_some_iff.mp h
  obtain ⟨dateClosed, -, h⟩ := Option.bind_eq_some_iff.mp h
  obtain ⟨description, -, h⟩ := Option.bind_eq_some_iff.mp h
  obtain ⟨assigned, hassigned, h⟩ := Option.bind_eq_some_iff.mp h
  obtain ⟨notes, -, h⟩ := Option.bind_eq_some_iff.mp h
  obtain rfl := Option.some.inj h
  refine ⟨rfl, ?_⟩
  rcases hdata : data.assignedAttorneyId with _ | _ | userId
  · rw [hdata] at hassigned
    exact (Option.some.inj hassigned).symm
  · rw [hdata] at hassigned
    exact (Option.some.inj hassigned).symm
  · rw [hdata] at hassigned
    exact (Option.some.inj hassigned).symm

theorem updatedMatter_eq_ok {current : User} {id : Uuid} {data : MatterUpdate} {m' : Matter}
    (h : updatedMatter db current id data = .ok m') :
    ∃ m, getMatter db.toAccessDb id = some m ∧ changedMatter m data = some m' ∧
      attorneyKnown db.users m'.assignedAttorneyId = true := by
  unfold updatedMatter at h
  split_ifs at h
  split at h
  · cases h
  · split at h
    · cases h
    · rename_i m hm
      split at h
      · cases h
      · rename_i changed hchanged
        split_ifs at h with hknown
        unfold matterResponse at h
        split_ifs at h
        · obtain rfl := Except.ok.inj h
          exact ⟨m, hm, hchanged, hknown⟩
        · cases h

/-- The tables after an update of one matter. -/
def writtenMatter (db : MatterDb) (id : Uuid) (m' : Matter) : MatterDb :=
  { db with matters := Table.alter Matter.id id (fun _ => m') db.matters }

theorem attorneysKnown_written {id : Uuid} {m' : Matter}
    (hknown : attorneyKnown db.users m'.assignedAttorneyId = true) (hold : AttorneysKnown db) :
    AttorneysKnown (writtenMatter db id m') := by
  intro m hm userId hassigned
  obtain ⟨m₀, hm₀, rfl⟩ := Table.mem_alter.mp hm
  split_ifs at hassigned
  · exact attorney_mem hknown hassigned
  · exact hold m₀ hm₀ userId hassigned

theorem keeps_writtenMatter {id : Uuid} {m' : Matter} (hne : matterId ≠ id) (hid : m'.id = id)
    (hknown : attorneyKnown db.users m'.assignedAttorneyId = true) :
    Keeps matterId db (writtenMatter db id m') where
  matter_eq := Table.find_alter_of_ne (fun _ _ => hid) hne db.matters
  walls_ne _ hne := hne
  wall_mem hmem := hmem
  user_old user huser := Or.inl ⟨user, huser, rfl, rfl⟩
  attorney_known := attorneysKnown_written hknown

theorem locked_writtenMatter {id : Uuid} {m' : Matter} (hid : m'.id = id)
    (hknown : attorneyKnown db.users m'.assignedAttorneyId = true) (hlocked : Locked matterId db) :
    Locked matterId (writtenMatter db id m') where
  matter_mem := by
    have hkeys : (writtenMatter db id m').matters.map Matter.id = db.matters.map Matter.id :=
      Table.map_key_alter (fun _ _ => hid) db.matters
    exact hkeys ▸ hlocked.matter_mem
  wall_mem := hlocked.wall_mem
  attorney_known := attorneysKnown_written hknown hlocked.attorney_known

/-- An update of the locked matter keeps everybody out unless it assigns the matter to a user
who has no wall row. -/
theorem attorneyOut_updated_iff {current : User} {data : MatterUpdate} {m' : Matter}
    (hout : AttorneyOut matterId db) (h : updatedMatter db current matterId data = .ok m') :
    AttorneyOut matterId (writtenMatter db matterId m') ↔
      KeepsOut matterId db (.updateMatter current matterId data) := by
  obtain ⟨m, hm, hchanged, -⟩ := updatedMatter_eq_ok h
  obtain ⟨hid, hassigned⟩ := changedMatter_eq_some hchanged
  have hkey : m.id = matterId := Table.key_of_find hm
  have hm' : getMatter (writtenMatter db matterId m').toAccessDb matterId = some m' :=
    Table.find_alter_const (Table.mem_of_find hm) hkey (hid.trans hkey)
  constructor
  · intro hafter _ _ user huser hrole hdata
    refine hafter m' hm' user huser hrole ?_
    rw [hassigned, hdata, Option.getD_some]
  · intro hkeeps m₀ hm₀ user huser hrole hassigned₀
    obtain rfl := Option.some.inj (hm'.symm.trans hm₀)
    rw [hassigned] at hassigned₀
    cases hdata : data.assignedAttorneyId with
    | none =>
      rw [hdata] at hassigned₀
      exact hout m hm user huser hrole hassigned₀
    | some assigned =>
      rw [hdata] at hassigned₀
      exact hkeeps rfl ⟨m', h⟩ user huser hrole (hdata.trans (congrArg some hassigned₀))

theorem flushedOr_eq_ok {o : Option MatterDb} (h : flushedOr db o = (.ok (), db')) :
    o = some db' := by
  cases o with
  | none => cases h
  | some s =>
    obtain ⟨-, rfl⟩ := Prod.mk.inj h
    rfl

theorem onAccess_eq_ok {α : Type} {handler : Handler AccessDb HttpError α}
    (h : onAccess db handler = (.ok (), db')) :
    ∃ a db₁, handler db.toAccessDb = (.ok a, db₁) ∧ db' = { db with toAccessDb := db₁ } := by
  obtain ⟨hresult, rfl⟩ := Prod.mk.inj h
  rcases hs : handler db.toAccessDb with ⟨_ | a, db₁⟩
  · rw [hs] at hresult
    cases hresult
  · exact ⟨a, db₁, rfl, rfl⟩

theorem soarLockMatter_eq_ok {adminId wallId : Uuid} {db db₁ : AccessDb} {wall : EthicalWall}
    (h : soarLockMatter adminId matterId wallId db = (.ok wall, db₁)) :
    insertWall db (lockingWall adminId matterId wallId) = some db₁ := by
  unfold soarLockMatter at h
  split at h
  · cases h
  · rename_i db₂ hinsert
    obtain ⟨-, rfl⟩ := Prod.mk.inj h
    exact hinsert

/-- Calls other than an update keep the matter, its walls and the roles. -/
theorem keeps_of_ok {call : MatterCall} (hlocked : Locked matterId db)
    (hcall : ∀ current id data, call ≠ .updateMatter current id data)
    (h : matterHandle call db = (.ok (), db')) : Keeps matterId db db' := by
  cases call with
  | createMatter id today data =>
    obtain ⟨m, -, h⟩ := Option.bind_eq_some_iff.mp (flushedOr_eq_ok h)
    obtain ⟨⟨m', db₁⟩, hinsert, hdb⟩ := Option.bind_eq_some_iff.mp h
    obtain rfl := Option.some.inj hdb
    exact keeps_insertMatter hlocked.matter_mem hinsert
  | convertLead id clientId today title jurisdiction litigationType =>
    obtain ⟨m, -, h⟩ := Option.bind_eq_some_iff.mp (flushedOr_eq_ok h)
    obtain ⟨⟨m', db₁⟩, hinsert, hdb⟩ := Option.bind_eq_some_iff.mp h
    obtain rfl := Option.some.inj hdb
    exact keeps_insertMatter hlocked.matter_mem hinsert
  | updateMatter current id data => exact absurd rfl (hcall current id data)
  | deleteMatter id => exact keeps_deleteMatter hlocked h
  | createWall data createdBy wallId =>
    obtain ⟨wall, db₁, hcreate, rfl⟩ := onAccess_eq_ok h
    obtain ⟨hfits, -, rfl⟩ := createEthicalWall_eq_ok.mp hcreate
    exact keeps_insertWall (insertWall_eq_some_iff.mpr ⟨hfits, rfl⟩)
  | removeWall wallId =>
    obtain ⟨wall, db₁, hremove, rfl⟩ := onAccess_eq_ok h
    obtain ⟨w, -, rfl⟩ := removeEthicalWall_eq_ok hremove
    exact keeps_removeWall wallId
  | lockMatter adminId id wallId =>
    obtain ⟨wall, db₁, hlock, rfl⟩ := onAccess_eq_ok h
    exact keeps_insertWall (soarLockMatter_eq_ok hlock)
  | createUser user => exact keeps_createUser (flushedOr_eq_ok h)
  | changeUser user => exact keeps_changeUser (flushedOr_eq_ok h)

theorem matterHandle_update_ok {current : User} {id : Uuid} {data : MatterUpdate}
    (h : matterHandle (.updateMatter current id data) db = (.ok (), db')) :
    ∃ m', updatedMatter db current id data = .ok m' ∧ db' = writtenMatter db id m' := by
  cases hupdated : updatedMatter db current id data with
  | error error =>
    simp only [matterHandle, hupdated] at h
    cases h
  | ok m' =>
    simp only [matterHandle, hupdated] at h
    obtain ⟨-, rfl⟩ := Prod.mk.inj h
    exact ⟨m', rfl, rfl⟩

theorem Locked.step {call : MatterCall} (hlocked : Locked matterId db)
    (h : matterHandle call db = (.ok (), db')) : Locked matterId db' := by
  by_cases hcall : ∃ current id data, call = .updateMatter current id data
  · obtain ⟨current, id, data, rfl⟩ := hcall
    obtain ⟨m', hupdated, rfl⟩ := matterHandle_update_ok h
    obtain ⟨m, hm, hchanged, hknown⟩ := updatedMatter_eq_ok hupdated
    have hid : m'.id = id := (changedMatter_eq_some hchanged).1.trans (Table.key_of_find hm)
    exact locked_writtenMatter hid hknown hlocked
  · push Not at hcall
    exact (keeps_of_ok hlocked hcall h).locked hlocked

/-- Of the calls on a locked matter only an update can let somebody in. -/
theorem attorneyOut_step_iff {call : MatterCall} (hlocked : Locked matterId db)
    (hout : AttorneyOut matterId db) (hstep : serve matterHandle db call = some db') :
    AttorneyOut matterId db' ↔ KeepsOut matterId db call := by
  have hdb' : committed (matterHandle call) db = db' := Option.some.inj hstep
  subst hdb'
  -- an update of this matter, and then every other call
  by_cases hcall : ∃ current data, call = .updateMatter current matterId data
  · obtain ⟨current, data, rfl⟩ := hcall
    cases hupdated : updatedMatter db current matterId data with
    | error error =>
      have herror : matterHandle (.updateMatter current matterId data) db = (.error error, db) := by
        simp only [matterHandle, hupdated]
      rw [committed_of_error herror]
      refine iff_of_true hout fun _ hok => ?_
      obtain ⟨m', h⟩ := hok
      rw [hupdated] at h
      cases h
    | ok m' =>
      have hok : matterHandle (.updateMatter current matterId data) db =
          (.ok (), writtenMatter db matterId m') := by
        simp only [matterHandle, hupdated, writtenMatter]
      rw [committed_of_ok hok]
      exact attorneyOut_updated_iff hout hupdated
  · push Not at hcall
    have hkeepsOut : KeepsOut matterId db call := by
      cases call with
      | updateMatter current id data =>
        rintro rfl
        exact absurd rfl (hcall current data)
      | _ => trivial
    refine iff_of_true ?_ hkeepsOut
    rcases committed_cases (matterHandle call) db with ⟨e, t, -, hsame⟩ | ⟨⟨⟩, t, hok, hnew⟩
    · rw [hsame]
      exact hout
    · rw [hnew]
      -- an update of another matter writes another row
      by_cases hupdate : ∃ current id data, call = .updateMatter current id data
      · obtain ⟨current, id, data, rfl⟩ := hupdate
        obtain ⟨m', hupdated, rfl⟩ := matterHandle_update_ok hok
        obtain ⟨m, hm, hchanged, hknown⟩ := updatedMatter_eq_ok hupdated
        have hid : m'.id = id := (changedMatter_eq_some hchanged).1.trans (Table.key_of_find hm)
        have hne : matterId ≠ id := by
          rintro rfl
          exact hcall current data rfl
        exact (keeps_writtenMatter hne hid hknown).attorneyOut hlocked hout
      · push Not at hupdate
        exact (keeps_of_ok hlocked hupdate hok).attorneyOut hlocked hout

/-- What the schema of the tables ensures. -/
structure MatterDbValid (db : MatterDb) : Prop where
  user_nodup : (db.users.map User.id).Nodup
  attorney_known : AttorneysKnown db

variable {admin : User} {wallId : Uuid} {wall : EthicalWall} {db₁ : AccessDb}

theorem locked_of_lock (hvalid : MatterDbValid db)
    (hlock : soarLockMatter admin.id matterId wallId db.toAccessDb = (.ok wall, db₁)) :
    Locked matterId { db with toAccessDb := db₁ } := by
  obtain ⟨hfits, rfl⟩ := insertWall_eq_some_iff.mp (soarLockMatter_eq_ok hlock)
  refine ⟨hfits.matter_mem, ?_, hvalid.attorney_known⟩
  rw [List.map_append]
  exact List.mem_append_right _ List.mem_cons_self

/-- The lock walls off its administrator, whom the access check lets in all the same. -/
theorem attorneyOut_lock_iff (hvalid : MatterDbValid db) (hadmin : admin ∈ db.users)
    (hrole : admin.role = .admin)
    (hlock : soarLockMatter admin.id matterId wallId db.toAccessDb = (.ok wall, db₁)) :
    AttorneyOut matterId { db with toAccessDb := db₁ } ↔ AttorneyOut matterId db := by
  obtain ⟨-, rfl⟩ := insertWall_eq_some_iff.mp (soarLockMatter_eq_ok hlock)
  refine forall₂_congr fun matter _ => forall₂_congr fun user huser => ?_
  refine imp_congr_right fun hnot => imp_congr_right fun _ => ?_
  have hne : admin.id ≠ user.id := by
    intro hid
    have hsame : admin = user := List.inj_on_of_nodup_map hvalid.user_nodup hadmin huser hid
    exact hnot (hsame ▸ hrole)
  rw [wallsOf_append, if_neg fun h => hne h.2, List.append_nil]

/-- After a matter is locked, it is denied to every user but the administrators throughout any
run, exactly when it was out of its attorney's reach before the lock and no later update assigns
it to a user who has no wall row. -/
theorem denied_throughout_iff (hvalid : MatterDbValid db) (hadmin : admin ∈ db.users)
    (hrole : admin.role = .admin)
    (hlock : soarLockMatter admin.id matterId wallId db.toAccessDb = (.ok wall, db₁))
    (calls : List MatterCall) :
    Throughout (serve matterHandle) (Denied matterId) { db with toAccessDb := db₁ } calls ↔
      AttorneyOut matterId db ∧ Along (serve matterHandle) (fun db call _ => KeepsOut matterId db call)
        { db with toAccessDb := db₁ } calls := by
  rw [throughout_iff_along (I := Locked matterId) (C := KeepsOut matterId), denied_iff,
    attorneyOut_lock_iff hvalid hadmin hrole hlock]
  · intro s call t hs hstep
    exact serve_invariant (fun _ _ _ _ hI h => hI.step h) hs hstep
  · intro s call t hs hdenied hstep
    rw [denied_iff]
    exact attorneyOut_step_iff hs (denied_iff.mp hdenied) hstep
  · exact locked_of_lock hvalid hlock

end

/-- A firm with one matter, assigned to its one attorney. -/
def smallFirm : MatterDb :=
  { users := [attorneyKim, adminRay], matters := [openMatter], walls := [], clients := [8]
    references := [] }

def firmAfterLock : MatterDb :=
  { smallFirm with walls := [lockingWall 2 3 5] }

theorem smallFirm_valid : MatterDbValid smallFirm where
  user_nodup := by decide
  attorney_known := by
    intro m hm userId hassigned
    rw [List.mem_singleton.mp hm] at hassigned
    rw [← Option.some.inj hassigned]
    exact List.mem_cons_self

theorem smallFirm_locked : soarLockMatter adminRay.id 3 5 smallFirm.toAccessDb =
    (.ok (lockingWall 2 3 5), firmAfterLock.toAccessDb) := rfl

theorem denied_throughout_iff_smallFirm :
    Throughout (serve matterHandle) (Denied 3) firmAfterLock [.removeWall 5] ↔
      AttorneyOut 3 smallFirm ∧ Along (serve matterHandle) (fun db call _ => KeepsOut 3 db call)
        firmAfterLock [.removeWall 5] :=
  denied_throughout_iff smallFirm_valid (List.mem_cons_of_mem _ List.mem_cons_self) rfl
    smallFirm_locked [.removeWall 5]

/-- The assigned attorney still gets in once the matter is locked. -/
theorem not_denied_firmAfterLock :
    soarLockMatter adminRay.id 3 5 smallFirm.toAccessDb =
        (.ok (lockingWall 2 3 5), firmAfterLock.toAccessDb) ∧
      ¬Throughout (serve matterHandle) (Denied 3) firmAfterLock [] := by
  refine ⟨smallFirm_locked, fun h => ?_⟩
  exact h.1 attorneyKim List.mem_cons_self (by decide) (by decide)

end LegalForge.Access
