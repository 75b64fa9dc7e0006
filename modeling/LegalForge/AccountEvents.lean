import LegalForge.AuthAccounts
import LegalForge.ScimUsers
import LegalForge.SsoLogin

/-! What each request does to the accounts of users and their sessions, as one event. -/
namespace LegalForge.Auth
open Access

/-- The tables follow the event. -/
structure Carries (now : Instant) (db : Db) (e : Event Uuid) (db' : Db) : Prop where
  follows : Follows (accounts db now) e (accounts db' now)
  meets : (accounts db now).Meets e
  ids : (db'.users.map User.id).Nodup

theorem accounts_congr {db db' : Db} (husers : db'.users = db.users)
    (htokens : db'.tokens = db.tokens) (now : Instant) : accounts db' now = accounts db now := by
  simp only [accounts, getUser, husers, htokens]

theorem carries_keep {db db' : Db} {now : Instant} (hids : (db'.users.map User.id).Nodup)
    (h : accounts db' now = accounts db now) : Carries now db .keep db' :=
  ⟨follows_of_eq h, trivial, hids⟩

theorem map_id_setUser (db : Db) (user : User) :
    (setUser db user).users.map User.id = db.users.map User.id :=
  Table.map_key_alter (fun _ _ => rfl) db.users

theorem meets_setActive {db : Db} {user : User} {userId : Uuid} (h : getUser db userId = some user)
    (now : Instant) (active : Bool) : (accounts db now).Meets (.setActive userId active) := by
  simp [Accounts.Meets, accounts, h]

theorem meets_issued {db : Db} {user : User} {userId : Uuid} (h : getUser db userId = some user)
    (cfg : Config) (now : Instant) : (accounts db now).Meets (issued cfg userId) := by
  unfold issued
  split_ifs
  · trivial
  · simp [Accounts.Meets, accounts, h]

/-! Changes of one user. -/

def writeEvent (db : Db) (userId : Uuid) (row : User → Option User) : Event Uuid :=
  match getUser db userId with
  | none => .keep
  | some user =>
    match row user with
    | none => .keep
    | some user' =>
      if (flushUser db user user').isSome then .setActive userId user'.isActive else .keep

theorem carries_writeUser {db : Db} (hids : (db.users.map User.id).Nodup) (userId : Uuid)
    (row : User → Option User) (hrow : ∀ user user', row user = some user' → user'.id = user.id)
    (missing : String) (now : Instant) :
    Carries now db (writeEvent db userId row) (writeUser db userId missing row).2 := by
  unfold writeEvent writeUser
  cases huser : getUser db userId with
  | none => exact carries_keep hids rfl
  | some user =>
    dsimp only
    cases hnew : row user with
    | none => exact carries_keep hids rfl
    | some user' =>
      dsimp only
      cases hflush : flushUser db user user' with
      | none => exact carries_keep hids rfl
      | some db' =>
        unfold flushUser at hflush
        split_ifs at hflush
        obtain rfl := Option.some.inj hflush
        have hid : user'.id = userId := (hrow user user' hnew).trans (Table.key_of_find huser)
        subst hid
        refine ⟨follows_of_eq (accounts_setUser user' huser now), meets_setActive huser now _, ?_⟩
        rw [map_id_setUser]
        exact hids

theorem id_updatedUser {data : UserUpdate} {user user' : User}
    (h : updatedUser data user = some user') : user'.id = user.id := by
  simp only [updatedUser, Option.bind_eq_bind, Option.bind_eq_some_iff, Option.some.injEq] at h
  obtain ⟨_, -, _, -, _, -, rfl⟩ := h
  rfl

theorem id_changedUser {changes : Scim.UserChanges} {user user' : User}
    (h : Scim.changedUser changes user = some user') : user'.id = user.id := by
  simp only [Scim.changedUser, Option.bind_eq_bind, Option.bind_eq_some_iff,
    Option.some.injEq] at h
  obtain ⟨_, -, _, -, _, -, _, -, _, -, rfl⟩ := h
  rfl

theorem id_replacedUser {scimData : Json} {user user' : User}
    (h : Scim.replacedUser scimData user = some user') : user'.id = user.id := by
  simp only [Scim.replacedUser, Option.bind_eq_bind, Option.bind_eq_some_iff] at h
  obtain ⟨changes, -, h⟩ := h
  exact id_changedUser h

theorem id_patchedUser {value : Json} {user user' : User}
    (h : Scim.patchedUser value user = some user') : user'.id = user.id := by
  simp only [Scim.patchedUser, Option.bind_eq_bind, Option.bind_eq_some_iff] at h
  obtain ⟨ops, -, changes, -, h⟩ := h
  exact id_changedUser h

def patchEvent (db : Db) (userId : Uuid) : Json → Event Uuid
  | .obj fields =>
    writeEvent db userId (Scim.patchedUser ((fields.lookup "Operations").getD (.arr [])))
  | _ => .keep

theorem carries_patchUser {db : Db} (hids : (db.users.map User.id).Nodup) (userId : Uuid)
    (scimData : Json) (now : Instant) :
    Carries now db (patchEvent db userId scimData) (Scim.patchUser db userId scimData).2 := by
  cases scimData with
  | obj fields => exact carries_writeUser hids userId _ (fun _ _ => id_patchedUser) _ now
  | _ => exact carries_keep hids rfl

def disableEvent (db : Db) (userId : Uuid) : Event Uuid :=
  if (getUser db userId).isSome then .shutOut userId else .keep

theorem carries_soarDisableUser {db : Db} (hids : (db.users.map User.id).Nodup) (userId : Uuid)
    (now : Instant) :
    Carries now db (disableEvent db userId) (soarDisableUser db userId).2 := by
  unfold disableEvent soarDisableUser
  cases huser : getUser db userId with
  | none => exact carries_keep hids rfl
  | some user =>
    have hid : user.id = userId := Table.key_of_find huser
    subst hid
    refine ⟨follows_of_eq ?_, ?_, ?_⟩
    -- the flag is set first, then the tokens of the user are revoked
    · have hset : accounts (setUser db (deactivated user)) now =
          (accounts db now).after (.setActive user.id false) :=
        accounts_setUser (deactivated user) huser now
      rw [accounts_revokeSessions, hset]
      rfl
    · simp [Accounts.Meets, accounts, huser]
    · have hmap := map_id_setUser db (deactivated user)
      rw [← hmap] at hids
      exact hids

/-! New users. -/

/-- The row a SCIM creation adds, if nobody has its email. -/
def createdUser (db : Db) (scimData : Json) (userId : Uuid) (passwordHash : String) :
    Option User := do
  let changes ← Scim.mapScimToUserData scimData
  let existing ← Scim.existingUser db changes.email
  if existing.isSome then none else Scim.newUser changes userId passwordHash

def createEvent (db : Db) (scimData : Json) (userId : Uuid) (passwordHash : String) :
    Event Uuid :=
  match createdUser db scimData userId passwordHash with
  | none => .keep
  | some user => if (insertUser db user).isSome then .register user.id user.isActive else .keep

theorem nodup_insertUser {db db' : Db} {user : User} (hids : (db.users.map User.id).Nodup)
    (h : insertUser db user = some db') : (db'.users.map User.id).Nodup := by
  obtain ⟨hnone, rfl⟩ := insertUser_eq_some h
  have hnew : ∀ old ∈ db.users, old.id ≠ user.id := Table.find_eq_none_iff.mp hnone
  simp only [List.map_append, List.map_cons, List.map_nil]
  rw [List.nodup_append]
  refine ⟨hids, List.nodup_singleton _, ?_⟩
  intro a ha b hb
  obtain ⟨old, hold, rfl⟩ := List.mem_map.mp ha
  rw [List.mem_singleton.mp hb]
  exact hnew old hold

theorem meets_register {db db' : Db} {user : User} (h : insertUser db user = some db')
    (now : Instant) : (accounts db now).active user.id = none := by
  simp [accounts, (insertUser_eq_some h).1]

theorem carries_createUser {db : Db} (hids : (db.users.map User.id).Nodup) (scimData : Json)
    (userId : Uuid) (passwordHash : String) (now : Instant) :
    Carries now db (createEvent db scimData userId passwordHash)
      (Scim.createUser db scimData userId passwordHash).2 := by
  unfold createEvent createdUser Scim.createUser
  cases hchanges : Scim.mapScimToUserData scimData with
  | none => exact carries_keep hids rfl
  | some changes =>
    simp only [Option.bind_eq_bind, Option.bind_some]
    cases hexisting : Scim.existingUser db changes.email with
    | none => exact carries_keep hids rfl
    | some existing =>
      cases existing with
      | some old => exact carries_keep hids rfl
      | none =>
        simp only [Option.bind_some, Option.isSome_none, Bool.false_eq_true, if_false]
        cases hnew : Scim.newUser changes userId passwordHash with
        | none => exact carries_keep hids rfl
        | some user =>
          dsimp only
          cases hinsert : insertUser db user with
          | none => exact carries_keep hids rfl
          | some db' =>
            simp only [Option.isSome_some, if_true]
            exact ⟨follows_of_eq (accounts_insertUser hinsert now), meets_register hinsert now,
              nodup_insertUser hids hinsert⟩

/-! Tokens. -/

theorem getUser_of_email {db : Db} {user : User} {email : String}
    (hids : (db.users.map User.id).Nodup) (h : getUserByEmail db email = some user) :
    getUser db user.id = some user :=
  (Table.find_eq_some_iff hids).mpr ⟨Table.mem_of_find h, rfl⟩

def loginEvent (cfg : Config) (db : Db) (data : LoginRequest) (draw : TokenDraw) (now : Instant) :
    Event Uuid :=
  match getUserByEmail db data.email with
  | none => .keep
  | some user =>
    if isLocked user now = false ∧ cfg.verifyPassword data.password user.passwordHash = true ∧
        mfaMethods user = [] ∧ tokenFree db draw.id (cfg.sha256 draw.value) = true then
      issued cfg user.id
    else .keep

/-- A token for a known user. -/
theorem carries_createRefreshToken {cfg : Config} {db kept db' : Db} {user : User}
    {draw : TokenDraw} {now : Instant} (huser : getUser db user.id = some user)
    (hkept : accounts kept now = accounts db now) (hids : (kept.users.map User.id).Nodup)
    (h : createRefreshToken cfg kept user.id draw now = some db') :
    Carries now db (issued cfg user.id) db' := by
  refine ⟨follows_of_eq ?_, meets_issued huser cfg now, ?_⟩
  · rw [accounts_createRefreshToken h, hkept]
  · obtain ⟨-, rfl⟩ := createRefreshToken_eq_some.mp h
    exact hids

/-- A user whose password was accepted. -/
theorem carries_accepted {cfg : Config} {db : Db} {user : User} {draw : TokenDraw} {now : Instant}
    (hids : (db.users.map User.id).Nodup) (huser : getUser db user.id = some user) :
    Carries now db
      (if mfaMethods user = [] ∧ tokenFree db draw.id (cfg.sha256 draw.value) = true then
        issued cfg user.id else .keep)
      (if mfaMethods user ≠ [] then setUser db (succeededLogin user)
        else (createRefreshToken cfg (setUser db (succeededLogin user)) user.id draw now).getD db) := by
  have hsame : accounts (setUser db (succeededLogin user)) now = accounts db now :=
    accounts_setUser_of_same (succeededLogin user) huser rfl now
  have hids' : ((setUser db (succeededLogin user)).users.map User.id).Nodup := by
    rw [map_id_setUser]
    exact hids
  by_cases hmfa : mfaMethods user = []
  · simp only [hmfa, ne_eq, not_true_eq_false, if_false, true_and]
    cases hcreate : createRefreshToken cfg (setUser db (succeededLogin user)) user.id draw now with
    | none =>
      -- the UNIQUE columns of the tokens refuse the row, and the login is rolled back
      have htaken : ¬tokenFree (setUser db (succeededLogin user)) draw.id
          (cfg.sha256 draw.value) = true := createRefreshToken_eq_none.mp hcreate
      change ¬tokenFree db draw.id (cfg.sha256 draw.value) = true at htaken
      rw [if_neg htaken]
      exact carries_keep hids rfl
    | some db' =>
      have hfree : tokenFree db draw.id (cfg.sha256 draw.value) = true :=
        (createRefreshToken_eq_some.mp hcreate).1
      rw [if_pos hfree]
      exact carries_createRefreshToken huser hsame hids' hcreate
  · rw [if_neg (fun h => hmfa h.1), if_pos hmfa]
    exact carries_keep hids' hsame

theorem carries_login {cfg : Config} {db : Db} (hids : (db.users.map User.id).Nodup)
    (data : LoginRequest) (draw : TokenDraw) (now : Instant) :
    Carries now db (loginEvent cfg db data draw now) (login cfg db data draw now).2 := by
  cases hfind : getUserByEmail db data.email with
  | none =>
    have hdb : (login cfg db data draw now).2 = db := by
      simp [login, authenticateUser, hfind]
    simp only [hdb, loginEvent, hfind]
    exact carries_keep hids rfl
  | some user =>
    have huser := getUser_of_email hids hfind
    cases hlocked : isLocked user now with
    | true =>
      rw [login_of_locked hfind hlocked]
      simp only [loginEvent, hfind, hlocked, Bool.true_eq_false, false_and, if_false]
      exact carries_keep hids rfl
    | false =>
      cases hpassword : cfg.verifyPassword data.password user.passwordHash with
      | true =>
        rw [login_of_accepted hfind hlocked hpassword]
        simp only [loginEvent, hfind, hlocked, hpassword, true_and]
        exact carries_accepted hids huser
      | false =>
        rw [login_of_wrong hfind hlocked hpassword]
        simp only [loginEvent, hfind, hpassword, Bool.false_eq_true, false_and, and_false, if_false]
        -- a failed login writes its counter, which is no flag
        refine carries_keep ?_ (accounts_setUser_of_same (failedLogin cfg user now) huser rfl now)
        rw [map_id_setUser]
        exact hids

/-- The event of a refresh: the user is active, or nothing happens. -/
def refreshEvent (cfg : Config) (db : Db) (oldToken : String) (draw : TokenDraw) (now : Instant) :
    Event Uuid :=
  match findRefreshToken cfg db oldToken now with
  | none => .keep
  | some token =>
    match getUser db token.userId with
    | none => .keep
    | some user =>
      if user.isActive = true ∧
          tokenFree (revokeToken db token.id) draw.id (cfg.sha256 draw.value) = true then
        issued cfg user.id
      else .keep

theorem getUser_revokeToken (db : Db) (tokenId userId : Uuid) :
    getUser (revokeToken db tokenId) userId = getUser db userId := rfl

/-- The old token ends, and a new one begins unless tokens do not live at all. -/
theorem follows_rotate {cfg : Config} {db db' : Db} {tokenId userId : Uuid} {draw : TokenDraw}
    {now : Instant} (h : createRefreshToken cfg (revokeToken db tokenId) userId draw now = some db') :
    Follows (accounts db now) (issued cfg userId) (accounts db' now) := by
  have hafter := accounts_createRefreshToken h
  have hsub := live_revokeToken_subset db tokenId now
  rw [hafter]
  unfold issued
  split_ifs
  · exact ⟨rfl, hsub, fun _ hnames => absurd hnames id⟩
  · refine ⟨rfl, Set.insert_subset_insert hsub, ?_⟩
    rintro other rfl -
    exact Set.mem_insert other _

theorem carries_refresh {cfg : Config} {db : Db} (hids : (db.users.map User.id).Nodup)
    (oldToken : String) (draw : TokenDraw) (now : Instant) :
    Carries now db (refreshEvent cfg db oldToken draw now)
      (refresh cfg db oldToken draw now).2 := by
  unfold refreshEvent refresh rotateRefreshToken
  cases htoken : findRefreshToken cfg db oldToken now with
  | none => exact carries_keep hids rfl
  | some token =>
    simp only [getUser_revokeToken]
    cases huser : getUser db token.userId with
    | none => exact carries_keep hids rfl
    | some user =>
      have hid : user.id = token.userId := Table.key_of_find huser
      dsimp only
      cases hactive : user.isActive with
      | false =>
        simp only [Bool.not_false, if_true, Bool.false_eq_true, false_and, if_false]
        exact carries_keep hids rfl
      | true =>
        simp only [Bool.not_true, Bool.false_eq_true, if_false, true_and]
        cases hcreate : createRefreshToken cfg (revokeToken db token.id) user.id draw now with
        | none =>
          -- the revocation of the old token is rolled back with the rest
          rw [if_neg (createRefreshToken_eq_none.mp hcreate)]
          exact carries_keep hids rfl
        | some db' =>
          obtain ⟨hfree, hdb⟩ := createRefreshToken_eq_some.mp hcreate
          rw [if_pos hfree]
          refine ⟨follows_rotate hcreate, meets_issued (hid ▸ huser) cfg now, ?_⟩
          subst hdb
          exact hids

/-! Callbacks. -/

/-- A user with a token, if tokens live at all. -/
def enrolled (cfg : Config) (userId : Uuid) : Event Uuid :=
  if cfg.jwtRefreshTokenExpireDays = 0 then .register userId true else .enroll userId

def completeEvent (cfg : Config) (db : Db) (who : Sso.Identity) (draw : Sso.Draw)
    (now : Instant) : Event Uuid :=
  match Sso.findOrCreateUser db who draw with
  | .error _ => .keep
  | .ok (user, db') =>
    if (Sso.newSsoSession db' who user draw now).isSome = true ∧
        tokenFree db draw.token.id (cfg.sha256 draw.token.value) = true then
      if (getUserByEmail db who.email).isSome then issued cfg user.id else enrolled cfg user.id
    else .keep

/-- A user who is found keeps the flag, and one who is created is active. -/
theorem findOrCreateUser_cases {db db' : Db} {who : Sso.Identity} {draw : Sso.Draw} {user : User}
    (hids : (db.users.map User.id).Nodup)
    (h : Sso.findOrCreateUser db who draw = .ok (user, db')) :
    db'.tokens = db.tokens ∧ (db'.users.map User.id).Nodup ∧
      (((getUserByEmail db who.email).isSome = true ∧ (∃ old, getUser db user.id = some old) ∧
          ∀ now, accounts db' now = accounts db now) ∨
        ((getUserByEmail db who.email).isSome = false ∧ insertUser db user = some db' ∧
          user.isActive = true)) := by
  rcases Sso.findOrCreateUser_eq_ok h with ⟨old, hfind, rfl, rfl⟩ | ⟨hfind, hinsert, name, hcreated⟩
  · have huser := getUser_of_email hids hfind
    rw [hfind]
    refine ⟨rfl, ?_, Or.inl ⟨rfl, ⟨old, huser⟩, fun now => ?_⟩⟩
    · rw [map_id_setUser]
      exact hids
    · exact accounts_setUser_of_same
        (Sso.applyRoleMapping old who.provider who.claims) huser rfl now
  · rw [hfind]
    refine ⟨?_, nodup_insertUser hids hinsert, Or.inr ⟨rfl, hinsert, ?_⟩⟩
    · rw [(insertUser_eq_some hinsert).2]
    · simp only [Sso.ssoUser, Option.bind_eq_bind, Option.bind_eq_some_iff,
        Option.some.injEq] at hcreated
      obtain ⟨_, -, _, -, _, -, rfl⟩ := hcreated
      rfl

/-- A callback stores its session beside the accounts. -/
theorem newSsoSession_tables {db db' : Db} {who : Sso.Identity} {user : User} {draw : Sso.Draw}
    {now : Instant} (h : Sso.newSsoSession db who user draw now = some db') :
    db'.users = db.users ∧ db'.tokens = db.tokens := by
  unfold Sso.newSsoSession at h
  split_ifs at h
  obtain ⟨externalId, -, rfl⟩ := Option.map_eq_some_iff.mp h
  exact ⟨rfl, rfl⟩

theorem accounts_enrolled (cfg : Config) (A : Accounts Uuid) (userId : Uuid) :
    (A.after (.register userId true)).after (issued cfg userId) =
      A.after (enrolled cfg userId) := by
  unfold issued enrolled
  split_ifs <;> rfl

theorem meets_enrolled {cfg : Config} {A : Accounts Uuid} {userId : Uuid}
    (h : A.active userId = none) : A.Meets (enrolled cfg userId) := by
  unfold enrolled
  split_ifs
  · exact h
  · exact h

theorem completeLogin_eq_ok {cfg : Config} {db out : Db} {who : Sso.Identity} {draw : Sso.Draw}
    {now : Instant} {signedIn : Sso.SignedIn}
    (h : Sso.completeLogin cfg db who draw now = .ok (signedIn, out)) :
    ∃ user db' db'', Sso.findOrCreateUser db who draw = .ok (user, db') ∧
      Sso.newSsoSession db' who user draw now = some db'' ∧
      createRefreshToken cfg db'' user.id draw.token now = some out := by
  unfold Sso.completeLogin at h
  cases hfind : Sso.findOrCreateUser db who draw with
  | error failure =>
    rw [hfind] at h
    cases h
  | ok found =>
    obtain ⟨user, db'⟩ := found
    rw [hfind] at h
    dsimp only at h
    cases hsession : Sso.newSsoSession db' who user draw now with
    | none =>
      rw [hsession] at h
      cases h
    | some db'' =>
      rw [hsession] at h
      dsimp only at h
      cases hcreate : createRefreshToken cfg db'' user.id draw.token now with
      | none =>
        rw [hcreate] at h
        cases h
      | some out' =>
        rw [hcreate] at h
        obtain ⟨-, rfl⟩ := Prod.mk.inj (Except.ok.inj h)
        exact ⟨user, db', db'', rfl, hsession, hcreate⟩

theorem completeEvent_of_error {cfg : Config} {db : Db} (hids : (db.users.map User.id).Nodup)
    {who : Sso.Identity} {draw : Sso.Draw} {now : Instant} {failure : Sso.Failure}
    (h : Sso.completeLogin cfg db who draw now = .error failure) :
    completeEvent cfg db who draw now = .keep := by
  unfold Sso.completeLogin at h
  unfold completeEvent
  cases hfind : Sso.findOrCreateUser db who draw with
  | error failure => rfl
  | ok found =>
    obtain ⟨user, db'⟩ := found
    rw [hfind] at h
    dsimp only at h ⊢
    cases hsession : Sso.newSsoSession db' who user draw now with
    | none => exact if_neg (fun hboth => by cases hboth.1)
    | some db'' =>
      rw [hsession] at h
      dsimp only at h
      cases hcreate : createRefreshToken cfg db'' user.id draw.token now with
      | none =>
        refine if_neg (fun hboth => createRefreshToken_eq_none.mp hcreate ?_)
        have htokens : db''.tokens = db.tokens :=
          (newSsoSession_tables hsession).2.trans (findOrCreateUser_cases hids hfind).1
        simp only [tokenFree, htokens]
        exact hboth.2
      | some out =>
        rw [hcreate] at h
        cases h

theorem carries_completeLogin {cfg : Config} {db out : Db} (hids : (db.users.map User.id).Nodup)
    {who : Sso.Identity} {draw : Sso.Draw} {now : Instant} {signedIn : Sso.SignedIn}
    (h : Sso.completeLogin cfg db who draw now = .ok (signedIn, out)) :
    Carries now db (completeEvent cfg db who draw now) out := by
  obtain ⟨user, db', db'', hfind, hsession, hcreate⟩ := completeLogin_eq_ok h
  obtain ⟨htokens, hids', hcases⟩ := findOrCreateUser_cases hids hfind
  obtain ⟨husers'', htokens''⟩ := newSsoSession_tables hsession
  have hids'' : (db''.users.map User.id).Nodup := by
    rw [husers'']
    exact hids'
  have hacc := accounts_congr husers'' htokens'' now
  have hfree : tokenFree db draw.token.id (cfg.sha256 draw.token.value) = true := by
    have hfree'' := (createRefreshToken_eq_some.mp hcreate).1
    simpa only [tokenFree, htokens'', htokens] using hfree''
  have hout : (out.users.map User.id).Nodup := by
    obtain ⟨-, rfl⟩ := createRefreshToken_eq_some.mp hcreate
    exact hids''
  have hissued := accounts_createRefreshToken hcreate
  rcases hcases with ⟨hknown, ⟨old, hold⟩, hsame⟩ | ⟨hnew, hinsert, hactive⟩
  -- a user who was there keeps the flag and gets a token
  · have hevent : completeEvent cfg db who draw now = issued cfg user.id := by
      simp only [completeEvent, hfind, hsession, hfree, hknown, Option.isSome_some, and_self, if_true]
    rw [hevent]
    refine ⟨follows_of_eq ?_, meets_issued hold cfg now, hout⟩
    rw [hissued, hacc, hsame now]
  -- a user who was created is active and gets a token
  · have hevent : completeEvent cfg db who draw now = enrolled cfg user.id := by
      simp only [completeEvent, hfind, hsession, hfree, hnew, Option.isSome_some, and_self, if_true,
        Bool.false_eq_true, if_false]
    rw [hevent]
    refine ⟨follows_of_eq ?_, meets_enrolled (meets_register hinsert now), hout⟩
    rw [hissued, hacc, accounts_insertUser hinsert, hactive, accounts_enrolled]

def ssoEvent (cfg : Config) (db : Db) (state : String) (reply : Option Sso.IdpReply)
    (draw : Sso.Draw) (now : Instant) : Event Uuid :=
  match Sso.consumeSsoState db state now with
  | (.error _, _) => .keep
  | (.ok session, db') =>
    match Sso.ssoIdentity db' session reply with
    | .error _ => .keep
    | .ok who => completeEvent cfg db' who draw now

theorem consumeSsoState_tables (db : Db) (state : String) (now : Instant) :
    (Sso.consumeSsoState db state now).2.users = db.users ∧
      (Sso.consumeSsoState db state now).2.tokens = db.tokens := by
  unfold Sso.consumeSsoState
  split
  · exact ⟨rfl, rfl⟩
  · dsimp only
    split
    · exact ⟨rfl, rfl⟩
    · split_ifs <;> exact ⟨rfl, rfl⟩

theorem Carries.of_accounts {now : Instant} {db db' out : Db} {e : Event Uuid}
    (h : Carries now db' e out) (hacc : accounts db' now = accounts db now) :
    Carries now db e out := by
  obtain ⟨hfollows, hmeets, hids⟩ := h
  rw [hacc] at hfollows hmeets
  exact ⟨hfollows, hmeets, hids⟩

theorem carries_ssoCallback {cfg : Config} {db : Db} (hids : (db.users.map User.id).Nodup)
    (state : String) (reply : Option Sso.IdpReply) (draw : Sso.Draw) (now : Instant) :
    Carries now db (ssoEvent cfg db state reply draw now)
      (Sso.ssoCallback cfg db state reply draw now).2 := by
  obtain ⟨husers, htokens⟩ := consumeSsoState_tables db state now
  unfold ssoEvent Sso.ssoCallback
  cases hconsume : Sso.consumeSsoState db state now with
  | mk result db' =>
    rw [hconsume] at husers htokens
    have hacc : accounts db' now = accounts db now := accounts_congr husers htokens now
    have hids' : (db'.users.map User.id).Nodup := by
      rw [husers]
      exact hids
    -- the state is consumed before the login, and stays consumed unless a flush failed
    have hfailed : ∀ failure, Carries now db .keep (Sso.afterFailure db db' failure) := by
      intro failure
      cases failure with
      | flush => exact carries_keep hids rfl
      | refused message => exact carries_keep hids' hacc
      | unexpected => exact carries_keep hids' hacc
    cases result with
    | error failure => exact carries_keep hids' hacc
    | ok session =>
      dsimp only
      cases hwho : Sso.ssoIdentity db' session reply with
      | error failure => exact hfailed failure
      | ok who =>
        dsimp only
        cases hcomplete : Sso.completeLogin cfg db' who draw now with
        | error failure =>
          rw [completeEvent_of_error hids' hcomplete]
          exact hfailed failure
        | ok out =>
          obtain ⟨signedIn, db''⟩ := out
          exact (carries_completeLogin hids' hcomplete).of_accounts hacc

def samlEvent (cfg : Config) (db : Db) (providerId : Uuid)
    (assertion : Except Sso.Failure Sso.SamlAssertion) (draw : Sso.Draw) (now : Instant) :
    Event Uuid :=
  match Table.find SSOProvider.id providerId db.providers with
  | none => .keep
  | some provider =>
    match assertion.bind (Sso.samlIdentity provider) with
    | .error _ => .keep
    | .ok who => completeEvent cfg db who draw now

theorem carries_samlCallback {cfg : Config} {db : Db} (hids : (db.users.map User.id).Nodup)
    (providerId : Uuid) (assertion : Except Sso.Failure Sso.SamlAssertion) (draw : Sso.Draw)
    (now : Instant) :
    Carries now db (samlEvent cfg db providerId assertion draw now)
      (Sso.samlCallback cfg db providerId assertion draw now).2 := by
  unfold samlEvent Sso.samlCallback
  cases hprovider : Table.find SSOProvider.id providerId db.providers with
  | none => exact carries_keep hids rfl
  | some provider =>
    dsimp only
    cases hwho : assertion.bind (Sso.samlIdentity provider) with
    | error failure => exact carries_keep hids rfl
    | ok who =>
      dsimp only
      cases hcomplete : Sso.completeLogin cfg db who draw now with
      | error failure =>
        rw [completeEvent_of_error hids hcomplete]
        exact carries_keep hids rfl
      | ok out =>
        obtain ⟨signedIn, db'⟩ := out
        exact carries_completeLogin hids hcomplete

end LegalForge.Auth
