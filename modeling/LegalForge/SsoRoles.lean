import LegalForge.AccountEvents

/-! The role of a user who was created at a login through an identity provider, after more logins
with the same claims. The role is derived where the user is created, and again at each login. -/
namespace LegalForge.Sso
open Auth

/-- One more login. What it does is rolled back if it fails. -/
def loginAgain (cfg : Config) (who : Identity) (db : Db) (login : Draw × Instant) : Db :=
  match completeLogin cfg db who login.1 login.2 with
  | .error _ => db
  | .ok (_, db') => db'

/-- The user is there, and whoever has the key has the role. -/
structure HasRole (userId : Uuid) (role : UserRole) (db : Db) : Prop where
  stored : ∃ u ∈ db.users, u.id = userId
  role : ∀ u ∈ db.users, u.id = userId → u.role = role

section
variable {cfg : Config} {db db' : Db} {who : Identity} {draw : Draw} {user : User} {userId : Uuid}
  {role : UserRole}

theorem role_ssoUser {provider : SSOProvider} {email fullName : String}
    {claims : List (String × Json)} (h : ssoUser provider email fullName claims draw = some user) :
    ∃ default, user.role = (mappedRole provider claims).getD default := by
  simp only [ssoUser, Option.bind_eq_bind, Option.bind_eq_some_iff, Option.some.injEq] at h
  obtain ⟨_, -, _, -, _, -, rfl⟩ := h
  exact ⟨_, rfl⟩

theorem hasRole_insert (h : insertUser db user = some db') : HasRole user.id user.role db' := by
  obtain ⟨hnone, rfl⟩ := insertUser_eq_some h
  have hfresh : ∀ u ∈ db.users, u.id ≠ user.id := Table.find_eq_none_iff.mp hnone
  refine ⟨⟨user, List.mem_append_right _ (List.mem_singleton_self user), rfl⟩, ?_⟩
  intro u hu hid
  rcases List.mem_append.mp hu with hold | hnew
  · exact absurd hid (hfresh u hold)
  · rw [List.mem_singleton.mp hnew]

/-- Somebody else is added. -/
theorem HasRole.insert (hrole : HasRole userId role db) (h : insertUser db user = some db') :
    HasRole userId role db' := by
  obtain ⟨hnone, rfl⟩ := insertUser_eq_some h
  have hfresh : ∀ u ∈ db.users, u.id ≠ user.id := Table.find_eq_none_iff.mp hnone
  obtain ⟨old, hold, holdId⟩ := hrole.stored
  refine ⟨⟨old, List.mem_append_left _ hold, holdId⟩, ?_⟩
  intro u hu hid
  rcases List.mem_append.mp hu with hstored | hnew
  · exact hrole.role u hstored hid
  · rw [List.mem_singleton.mp hnew] at hid
    have hne := hfresh old hold
    rw [holdId, hid] at hne
    exact absurd rfl hne

/-- A row is mapped again. The mapping gives the role that it has given already. -/
theorem HasRole.mapped (hrole : HasRole userId role db) {old : User} (hold : old ∈ db.users)
    (hmapped : (mappedRole who.provider who.claims).getD role = role) :
    HasRole userId role (setUser db (applyRoleMapping old who.provider who.claims)) := by
  have hrow : old.id = userId → (applyRoleMapping old who.provider who.claims).role = role := by
    intro hid
    unfold applyRoleMapping
    dsimp only
    rw [hrole.role old hold hid, hmapped]
  obtain ⟨stored, hstored, hid⟩ := hrole.stored
  constructor
  · refine ⟨_, Table.mem_alter.mpr ⟨stored, hstored, rfl⟩, ?_⟩
    split_ifs with hsame
    · rw [← hid, hsame]
    · exact hid
  · intro u hu huId
    obtain ⟨v, hv, rfl⟩ := Table.mem_alter.mp hu
    split_ifs at huId ⊢ with hsame
    · exact hrow huId
    · exact hrole.role v hv huId

theorem HasRole.findOrCreateUser (hrole : HasRole userId role db)
    (hmapped : (mappedRole who.provider who.claims).getD role = role)
    (h : findOrCreateUser db who draw = .ok (user, db')) : HasRole userId role db' := by
  rcases findOrCreateUser_eq_ok h with ⟨old, hold, rfl, rfl⟩ | ⟨-, hinsert, -⟩
  · exact hrole.mapped (Table.mem_of_find hold) hmapped
  · exact hrole.insert hinsert

theorem HasRole.of_users (hrole : HasRole userId role db) (h : db'.users = db.users) :
    HasRole userId role db' := by
  constructor
  · rw [h]
    exact hrole.stored
  · rw [h]
    exact hrole.role

/-- The session and the token of a login are kept in other tables. -/
theorem HasRole.loginAgain (hrole : HasRole userId role db)
    (hmapped : (mappedRole who.provider who.claims).getD role = role) (login : Draw × Instant) :
    HasRole userId role (loginAgain cfg who db login) := by
  unfold Sso.loginAgain
  split
  · exact hrole
  · rename_i signedIn out hlogin
    obtain ⟨u, found, stored, hfound, hsession, htoken⟩ := completeLogin_eq_ok hlogin
    have hafter := hrole.findOrCreateUser hmapped hfound
    have husers : out.users = found.users := by
      rw [← (newSsoSession_tables hsession).1, ← (createRefreshToken_eq_some.mp htoken).2]
    exact hafter.of_users husers

theorem HasRole.logins (hrole : HasRole userId role db)
    (hmapped : (mappedRole who.provider who.claims).getD role = role)
    (logins : List (Draw × Instant)) :
    HasRole userId role (logins.foldl (Sso.loginAgain cfg who) db) := by
  induction logins generalizing db with
  | nil => exact hrole
  | cons login logins ih =>
    rw [List.foldl_cons]
    exact ih (hrole.loginAgain hmapped login)

theorem HasRole.getUser (h : HasRole userId role db) :
    (getUser db userId).map User.role = some role := by
  obtain ⟨u, hu, hid⟩ := h.stored
  have hkey : userId ∈ db.users.map User.id := by
    rw [← hid]
    exact List.mem_map_of_mem hu
  obtain ⟨found, hfound⟩ := Table.exists_find_iff.mpr hkey
  have hrole := h.role found (Table.mem_of_find hfound) (Table.key_of_find hfound)
  rw [Auth.getUser, hfound, Option.map_some, hrole]

end

/-- A user who was created keeps the role through any number of logins with the same claims. -/
theorem role_after_logins {cfg : Config} {db db' : Db} {who : Identity} {draw : Draw} {user : User}
    (hnew : getUserByEmail db who.email = none)
    (hcreated : findOrCreateUser db who draw = .ok (user, db')) (logins : List (Draw × Instant)) :
    (getUser (logins.foldl (loginAgain cfg who) db') user.id).map User.role = some user.role := by
  rcases findOrCreateUser_eq_ok hcreated with ⟨old, hold, -, -⟩ | ⟨-, hinsert, name, huser⟩
  · rw [hnew] at hold
    cases hold
  · obtain ⟨default, hrole⟩ := role_ssoUser huser
    have hmapped : (mappedRole who.provider who.claims).getD user.role = user.role := by
      rw [hrole]
      cases mappedRole who.provider who.claims with
      | none => rfl
      | some role => rfl
    exact ((hasRole_insert hinsert).logins hmapped logins).getUser

/-- A partner of the firm at a provider whose first mapped group names no role. -/
def groupMember : Identity where
  provider :=
    { id := 651
      tokenEndpoint := none
      userinfoEndpoint := none
      roleMapping := some [("staff", "owner"), ("partners", "attorney")]
      defaultRole := some "billing_clerk"
      samlAttributeMapping := none }
  email := "pat@firm.org"
  fullName := .str "Pat Page"
  externalId := .str "p-1"
  claims := [("groups", .arr [.str "partners", .str "staff"])]

def patPage : User where
  id := 652
  email := "pat@firm.org"
  passwordHash := ""
  firstName := "Pat"
  lastName := "Page"
  role := .billingClerk

theorem role_after_logins_groupMember :
    (getUser ([(⟨655, "", 656, "b", ⟨657, "u"⟩⟩, 9)].foldl
      (loginAgain { verifyPassword := fun _ _ => true, sha256 := id } groupMember)
        ⟨[patPage], [], [], []⟩) 652).map User.role = some .billingClerk := by
  have hnew : getUserByEmail ⟨[], [], [], []⟩ groupMember.email = none := rfl
  have hcreated : findOrCreateUser ⟨[], [], [], []⟩ groupMember ⟨652, "", 653, "a", ⟨654, "t"⟩⟩ =
      .ok (patPage, ⟨[patPage], [], [], []⟩) := by
    rfl
  exact role_after_logins hnew hcreated _

end LegalForge.Sso
