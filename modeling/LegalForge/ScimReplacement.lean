import LegalForge.ScimListing
import LegalForge.ScimPatchLaws

/-! PUT over SCIM: the role that a body without a role gives, and what happens when the
representation of a user is sent back. -/
namespace LegalForge.Scim
open Auth

/-! Roles. -/

/-- The role that a text names, or maps to. -/
def namedRole (text : String) : Option UserRole :=
  (UserRole.ofValue (strip (lower text))).or (roleMap.lookup (strip (lower text)))

/-- `scim_data[SCIM_ENTERPRISE_SCHEMA]["department"]` -/
def department (body : Json) : Json := (body.get enterpriseSchema).get "department"

/-- Neither an entry of `roles` nor the department names a role that is known or mapped. -/
structure Unrecognised (body : Json) : Prop where
  roles : ∀ entries, body.get "roles" = .arr entries →
    ∀ e ∈ entries, ∀ text, roleText e = some text → namedRole text = none
  department : ∀ text, department body = .str text → namedRole text = none

/-- What stands in the first entry has a `lower`. -/
def rolesReadable : Json → Bool
  | .arr (entry :: _) => (roleText entry).isSome
  | _ => true

/-- So has the department, if it is looked at. -/
def departmentReadable (body : Json) : Bool := isStr (department body) || !(department body).truthy

/-- A value that can be stored in the column `is_active`, if there is one. -/
def FitsActive (value : Option Json) : Prop := ∀ v, value = some v → (boolColumn v).isSome

/-- A value that can be stored in the column `scim_external_id`, if there is one. -/
def FitsExternalId (value : Option Json) : Prop :=
  ∀ v, value = some v → (nullableTextColumn 500 v).isSome

/-- The body can be read, and each of its values fits the column it is for. -/
structure Replaces (body : Json) (user : User) : Prop where
  object : isObject body = true
  roles : rolesReadable (body.get "roles") = true
  department : departmentReadable body = true
  email : Fits 255 user.email (scimEmail body)
  firstName : Fits 100 user.firstName (field (body.get "name") "givenName")
  lastName : Fits 100 user.lastName (field (body.get "name") "familyName")
  active : FitsActive (field body "active")
  externalId : FitsExternalId (field body "externalId")

/-- The request leaves the role as it is, whatever else is stored. -/
def RoleKept (user : User) (body : Json) : Prop :=
  ∀ db, getUser db user.id = some user →
    (getUser (updateUser db user.id body).2 user.id).map User.role = some user.role

section
variable {body : Json} {user changed : User}

theorem departmentRole_eq (h : Unrecognised body) : departmentRole body =
    if departmentReadable body then some .attorney else none := by
  have hdepartment := h.department
  unfold departmentRole departmentReadable
  unfold department at hdepartment ⊢
  cases henterprise : body.get enterpriseSchema with
  | obj fields =>
    rw [henterprise] at hdepartment
    dsimp only
    cases hdept : (Json.obj fields).get "department" with
    | str text =>
      have hnone := hdepartment text hdept
      have hvalue : UserRole.ofValue (strip (lower text)) = none := (Option.or_eq_none_iff.mp hnone).1
      dsimp only
      rw [hvalue]
      rfl
    | _ =>
      dsimp only
      cases htruthy : Json.truthy _ <;> simp [isStr]
  | _ => rfl

/-- The first entry names nothing, so the department decides. -/
theorem mapRoleFromScim_eq (h : Unrecognised body) : mapRoleFromScim body =
    if rolesReadable (body.get "roles") then departmentRole body else none := by
  have hnames := h.roles
  unfold mapRoleFromScim
  cases hroles : body.get "roles" with
  | arr entries =>
    cases entries with
    | nil => rfl
    | cons entry entries =>
      dsimp only [rolesReadable]
      rcases Option.eq_none_or_eq_some (roleText entry) with htext | ⟨text, htext⟩
      · simp only [htext]
        rfl
      · have hnone : (UserRole.ofValue (strip (lower text))).or
            (roleMap.lookup (strip (lower text))) = none :=
          hnames _ hroles entry List.mem_cons_self text htext
        simp only [htext, Option.bind_eq_bind, Option.bind_some, hnone]
        rfl
  | _ => rfl

theorem isSome_assignedExternalId_iff (current : Option String) (value : Option Json) :
    (assignedExternalId current value).isSome ↔ FitsExternalId value := by
  unfold FitsExternalId
  cases value with
  | none => simp [assignedExternalId]
  | some v => simp [assignedExternalId]

theorem isSome_assignedActive_iff (current : Bool) (value : Option Json) :
    (assignedActive current value).isSome ↔ FitsActive value := by
  unfold FitsActive
  cases value with
  | none => simp [assignedActive]
  | some v => simp [assignedActive]

/-- What the body assigns, when it can be read. -/
def replacements (body : Json) (role : UserRole) : UserChanges where
  email := scimEmail body
  firstName := field (body.get "name") "givenName"
  lastName := field (body.get "name") "familyName"
  role := some role
  isActive := field body "active"
  scimExternalId := field body "externalId"

theorem replacedUser_eq (hobject : isObject body = true) (user : User) : replacedUser body user =
    (mapRoleFromScim body).bind fun role => changedUser (replacements body role) user := by
  cases body with
  | obj fields =>
    unfold replacedUser mapScimToUserData
    cases mapRoleFromScim (.obj fields) with
    | none => rfl
    | some role => rfl
  | _ => cases hobject

theorem replacedUser_of_not_object (h : isObject body = false) (user : User) :
    replacedUser body user = none := by
  cases body with
  | obj fields => cases h
  | _ => rfl

theorem isSome_replacedUser_iff (h : Unrecognised body) (user : User) :
    (replacedUser body user).isSome ↔ Replaces body user := by
  cases hobject : isObject body with
  | false =>
    rw [replacedUser_of_not_object hobject]
    constructor
    · nofun
    · intro hfits
      rw [hfits.object] at hobject
      cases hobject
  | true =>
    rw [replacedUser_eq hobject, mapRoleFromScim_eq h, departmentRole_eq h]
    cases hroles : rolesReadable (body.get "roles") with
    | false =>
      constructor
      · nofun
      · intro hfits
        rw [hfits.roles] at hroles
        cases hroles
    | true =>
      cases hdepartment : departmentReadable body with
      | false =>
        constructor
        · nofun
        · intro hfits
          rw [hfits.department] at hdepartment
          cases hdepartment
      | true =>
        simp only [if_true, Option.bind_some]
        rw [isSome_changedUser_iff, isSome_assignedActive_iff, isSome_assignedExternalId_iff]
        constructor
        · rintro ⟨hemail, hfirst, hlast, hactive, hexternal⟩
          exact ⟨hobject, hroles, hdepartment, hemail, hfirst, hlast, hactive, hexternal⟩
        · intro hfits
          exact ⟨hfits.email, hfits.firstName, hfits.lastName, hfits.active, hfits.externalId⟩

theorem role_changedUser {changes : UserChanges} {role : UserRole}
    (hrole : changes.role = some role) (h : changedUser changes user = some changed) :
    changed.role = role := by
  simp only [changedUser, Option.bind_eq_bind, Option.bind_eq_some_iff, Option.some.injEq] at h
  obtain ⟨_, -, _, -, _, -, _, -, _, -, rfl⟩ := h
  rw [hrole]
  rfl

/-- The default is the role of an attorney. -/
theorem role_replacedUser (h : Unrecognised body) (hchanged : replacedUser body user = some changed) :
    changed.role = .attorney := by
  cases hobject : isObject body with
  | false =>
    rw [replacedUser_of_not_object hobject] at hchanged
    cases hchanged
  | true =>
    rw [replacedUser_eq hobject] at hchanged
    obtain ⟨role, hrole, hchanged⟩ := Option.bind_eq_some_iff.mp hchanged
    rw [mapRoleFromScim_eq h, departmentRole_eq h] at hrole
    split_ifs at hrole
    rw [role_changedUser rfl hchanged]
    exact (Option.some.inj hrole).symm

/-- A body without a role that is known or mapped leaves the role as it is if and only if the user
is an attorney, or the body cannot be stored. -/
theorem roleKept_iff (h : Unrecognised body) (user : User) :
    RoleKept user body ↔ user.role = .attorney ∨ ¬Replaces body user := by
  rw [← isSome_replacedUser_iff h]
  constructor
  · intro hkept
    rw [or_iff_not_imp_right, not_not]
    intro hsome
    obtain ⟨changed, hchanged⟩ := Option.isSome_iff_exists.mp hsome
    -- tables with this user alone show it
    have hrole := hkept (onlyUser user) (getUser_onlyUser user)
    have hid : changed.id = user.id := id_replacedUser hchanged
    rw [updateUser, writeUser_onlyUser (fun _ => id_replacedUser), hchanged] at hrole
    dsimp only at hrole
    rw [← hid, getUser_onlyUser, Option.map_some, role_replacedUser h hchanged] at hrole
    exact (Option.some.inj hrole).symm
  · intro hcondition db hfound
    have hsame : (getUser db user.id).map User.role = some user.role := by
      rw [hfound, Option.map_some]
    rw [updateUser, writeUser_found hfound]
    cases hchanged : replacedUser body user with
    | none => exact hsame
    | some changed =>
      have hattorney : user.role = .attorney := by
        rcases hcondition with hattorney | hnone
        · exact hattorney
        · rw [hchanged] at hnone
          exact absurd rfl hnone
      dsimp only
      cases hflush : flushUser db user changed with
      | none => exact hsame
      | some db' =>
        have hid : changed.id = user.id := id_replacedUser hchanged
        unfold flushUser at hflush
        split_ifs at hflush
        rw [← Option.some.inj hflush]
        dsimp only
        rw [getUser_setUser, if_pos hid.symm, hfound, Option.map_some, Option.map_some,
          role_replacedUser h hchanged, hattorney]

end

/-- An administrator, and a body with nothing but the user name. -/
def annAdmin : User := { annUser with role := .admin }

def userNameOnly : Json := .obj [("userName", .str "ann@firm.org")]

theorem unrecognised_userNameOnly : Unrecognised userNameOnly where
  roles := nofun
  department := nofun

theorem userNameOnly_demotes : Unrecognised userNameOnly ∧ ¬RoleKept annAdmin userNameOnly := by
  refine ⟨unrecognised_userNameOnly, ?_⟩
  intro h
  have hrole := h (onlyUser annAdmin) (getUser_onlyUser annAdmin)
  revert hrole
  decide +kernel

theorem roleKept_iff_annUser : RoleKept annUser userNameOnly :=
  (roleKept_iff unrecognised_userNameOnly annUser).mpr (Or.inl rfl)

/-! The representation of a user, sent back. -/

/-- The table of users, with its primary key and the width of a column. -/
structure UserTable where
  rows : List ScimUser
  ids : (rows.map fun u => u.id).Nodup
  externalIds : ∀ u ∈ rows, ∀ text, u.scimExternalId = some text → varchar 500 text = some text

/-- The table as the requests read it. -/
def UserTable.users (table : UserTable) : List User := table.rows.map ScimUser.toUser

/-- `get_user` -/
def getResource (table : UserTable) (userId : Uuid) (baseUrl : String) : Option Json :=
  (Table.find (fun u : ScimUser => u.id) userId table.rows).map fun user =>
    mapUserToScim user baseUrl

section
variable {user : ScimUser} {baseUrl : String}

/-- The name of a role is read as that role. -/
theorem ofValue_strip_lower (role : UserRole) :
    UserRole.ofValue (strip (lower role.value)) = some role := by
  cases role <;> decide +kernel

theorem mapRoleFromScim_mapUserToScim (user : ScimUser) (baseUrl : String) :
    mapRoleFromScim (mapUserToScim user baseUrl) = some user.role := by
  have hroles : (mapUserToScim user baseUrl).get "roles" =
      .arr [.obj [("value", .str user.role.value)]] := rfl
  unfold mapRoleFromScim
  rw [hroles]
  have htext : roleText (.obj [("value", .str user.role.value)]) = some user.role.value := rfl
  simp only [htext, Option.bind_eq_bind, Option.bind_some, ofValue_strip_lower, Option.some_or]

theorem replacements_mapUserToScim (user : ScimUser) (baseUrl : String) :
    replacements (mapUserToScim user baseUrl) user.role =
      { email := some (.str user.email)
        firstName := some (.str user.firstName)
        lastName := some (.str user.lastName)
        role := some user.role
        isActive := some (.bool user.isActive)
        scimExternalId := some ((user.scimExternalId.map Json.str).getD .null) } := rfl

/-- The value that a column has already. -/
theorem assignedColumn_self (limit : ℕ) (current : String) :
    assignedColumn limit current (some (.str current)) = some current := by
  have htext : (Json.str current).isText current = true := decide_eq_true rfl
  rw [assignedColumn, if_pos htext]

theorem assignedExternalId_self {current : Option String}
    (h : ∀ text, current = some text → varchar 500 text = some text) :
    assignedExternalId current (some ((current.map Json.str).getD .null)) = some current := by
  cases current with
  | none => rfl
  | some text =>
    have hstored : nullableTextColumn 500 (.str text) = (varchar 500 text).map some := rfl
    rw [assignedExternalId, Option.map_some, Option.getD_some, hstored, h text rfl]
    rfl

/-- What a representation assigns is what it was made of. -/
theorem replacedUser_mapUserToScim
    (hexternal : ∀ text, user.scimExternalId = some text → varchar 500 text = some text)
    (baseUrl : String) : replacedUser (mapUserToScim user baseUrl) user.toUser = some user.toUser := by
  rw [replacedUser_eq rfl, mapRoleFromScim_mapUserToScim, Option.bind_some,
    replacements_mapUserToScim]
  unfold changedUser
  rw [assignedColumn_self, assignedColumn_self, assignedColumn_self,
    assignedExternalId_self hexternal]
  rfl

/-- A row that has not changed is written over itself. -/
theorem writeUser_unchanged {db : Db} {user : User} (hids : (db.users.map User.id).Nodup)
    (hfound : getUser db user.id = some user) {row : User → Option User}
    (hrow : row user = some user) (missing : String) :
    writeUser db user.id missing row = (.ok user, db) := by
  have hfree : ¬(user.email ≠ user.email ∧ (getUserByEmail db user.email).isSome) :=
    fun h => h.1 rfl
  have hsame : setUser db user = db := by
    unfold setUser
    rw [Table.alter_found hids hfound]
  rw [writeUser_found hfound, hrow]
  dsimp only
  rw [flushUser, if_neg hfree, hsame]

end

/-- To send back what `get_user` has returned changes nothing in any table. -/
theorem putOfGet_unchanged {table : UserTable} {db : Db} (hdb : db.users = table.users)
    {userId : Uuid} {baseUrl : String} {resource : Json}
    (hget : getResource table userId baseUrl = some resource) :
    ∃ user, getUser db userId = some user ∧ updateUser db userId resource = (.ok user, db) := by
  obtain ⟨row, hrow, rfl⟩ := Option.map_eq_some_iff.mp hget
  have hmem : row ∈ table.rows := Table.mem_of_find hrow
  have hkey := Table.key_of_find hrow
  have hid : row.id = userId := hkey
  have hids : (db.users.map User.id).Nodup := by
    rw [hdb, UserTable.users, List.map_map]
    exact table.ids
  have hfound : getUser db row.id = some row.toUser := by
    apply (Table.find_eq_some_iff hids).mpr
    rw [hdb]
    exact ⟨List.mem_map_of_mem hmem, rfl⟩
  rw [← hid]
  refine ⟨row.toUser, hfound, ?_⟩
  exact writeUser_unchanged hids hfound
    (replacedUser_mapUserToScim (table.externalIds row hmem) baseUrl) _

/-- A table with one user. -/
def oneUserTable : UserTable where
  rows := [{ toUser := { annAdmin with scimExternalId := some "00u1" }
             createdAt := activeUser.createdAt
             updatedAt := activeUser.updatedAt }]
  ids := by
    decide
  externalIds u hu text htext := by
    rw [List.mem_singleton.mp hu] at htext
    rw [← Option.some.inj htext]
    decide +kernel

theorem putOfGet_unchanged_annAdmin :
    ∃ user, getUser ⟨oneUserTable.users, [], [], []⟩ annAdmin.id = some user ∧
      updateUser ⟨oneUserTable.users, [], [], []⟩ annAdmin.id
          (mapUserToScim ⟨{ annAdmin with scimExternalId := some "00u1" }, activeUser.createdAt,
            activeUser.updatedAt⟩ "https://firm.org/api/scim") =
        (.ok user, ⟨oneUserTable.users, [], [], []⟩) :=
  putOfGet_unchanged rfl rfl

end LegalForge.Scim
