import LegalForge.AccountSessions
import LegalForge.AuthModels
import LegalForge.AuthSessions

/-! What the user and token tables say about accounts and sessions, and what the
single writes do to that. -/
namespace LegalForge.Auth
open Access

/-- User keys are unique, and a token that can be used belongs to a user. -/
structure TablesOk (db : Db) (now : Instant) : Prop where
  ids : (db.users.map User.id).Nodup
  owned : ∀ token ∈ db.tokens, token.revoked = false → now < token.expiresAt →
    (getUser db token.userId).isSome = true

/-- What the tables say about accounts and sessions. -/
def accounts (db : Db) (now : Instant) : Accounts Uuid where
  active userId := (getUser db userId).map (fun u => u.isActive)
  live := {userId | ∃ token ∈ db.tokens, token.userId = userId ∧ token.revoked = false ∧
    now < token.expiresAt}

theorem known_accounts_iff {db : Db} {now : Instant} :
    (accounts db now).Known ↔ ∀ token ∈ db.tokens, token.revoked = false → now < token.expiresAt →
      (getUser db token.userId).isSome = true := by
  constructor
  · intro h token htoken hrevoked hexpires
    have hflag := h token.userId ⟨token, htoken, rfl, hrevoked, hexpires⟩
    rw [Option.isSome_iff_ne_none]
    intro hnone
    exact hflag (by simp [accounts, hnone])
  · rintro h userId ⟨token, htoken, rfl, hrevoked, hexpires⟩ hflag
    have hsome := h token htoken hrevoked hexpires
    have hnone : getUser db token.userId = none := by
      simpa [accounts] using hflag
    rw [hnone] at hsome
    cases hsome

/-- Between two requests sessions only run out. -/
theorem live_accounts_subset (db : Db) {now later : Instant} (h : now ≤ later) :
    (accounts db later).live ⊆ (accounts db now).live := by
  rintro userId ⟨token, htoken, hid, hrevoked, hexpires⟩
  exact ⟨token, htoken, hid, hrevoked, h.trans_lt hexpires⟩

/-! What the single writes do to the accounts. -/

theorem getUser_setUser (db : Db) (user : User) (userId : Uuid) :
    getUser (setUser db user) userId =
      if userId = user.id then (getUser db userId).map (fun _ => user) else getUser db userId := by
  split_ifs with h
  · subst h
    exact Table.find_alter_self (fun _ _ => rfl) db.users
  · exact Table.find_alter_of_ne (fun _ _ => rfl) h db.users

theorem accounts_setUser {db : Db} {old : User} (user : User)
    (hold : getUser db user.id = some old) (now : Instant) :
    accounts (setUser db user) now = (accounts db now).after (.setActive user.id user.isActive) := by
  refine Accounts.ext ?_ rfl
  funext userId
  simp only [accounts, Accounts.after, getUser_setUser]
  by_cases h : userId = user.id
  · subst h
    simp [hold]
  · simp [h]

/-- A change of other columns. -/
theorem accounts_setUser_of_same {db : Db} {old : User} (user : User)
    (hold : getUser db user.id = some old) (hflag : user.isActive = old.isActive) (now : Instant) :
    accounts (setUser db user) now = accounts db now := by
  rw [accounts_setUser user hold]
  refine Accounts.ext ?_ rfl
  have hsame : (accounts db now).active user.id = some user.isActive := by
    simp [accounts, hold, hflag]
  simp only [Accounts.after, ← hsame, Function.update_eq_self]

theorem insertUser_eq_some {db db' : Db} {user : User} (h : insertUser db user = some db') :
    getUser db user.id = none ∧ db' = { db with users := db.users++[user] } := by
  unfold insertUser at h
  split_ifs at h with hfree
  refine ⟨?_, (Option.some.inj h).symm⟩
  have hid := (not_or.mp hfree).1
  simpa using hid

theorem accounts_insertUser {db db' : Db} {user : User} (h : insertUser db user = some db')
    (now : Instant) :
    accounts db' now = (accounts db now).after (.register user.id user.isActive) := by
  obtain ⟨hnone, rfl⟩ := insertUser_eq_some h
  refine Accounts.ext ?_ rfl
  funext userId
  simp only [accounts, Accounts.after, getUser, Table.find_append]
  by_cases hid : userId = user.id
  · subst hid
    have hold : Table.find User.id user.id db.users = none := hnone
    have hnew : Table.find User.id user.id [user] = some user := by
      simp [Table.find]
    simp [hold, hnew]
  · have hother : Table.find User.id userId [user] = none := by
      simp [Table.find, Ne.symm hid]
    simp [hother, hid]

/-- A token is issued, if tokens live at all. -/
def issued (cfg : Config) (userId : Uuid) : Event Uuid :=
  if cfg.jwtRefreshTokenExpireDays = 0 then .keep else .signIn userId

theorem createRefreshToken_eq_some {cfg : Config} {db db' : Db} {userId : Uuid}
    {draw : TokenDraw} {now : Instant} :
    createRefreshToken cfg db userId draw now = some db' ↔
      tokenFree db draw.id (cfg.sha256 draw.value) = true ∧
        { db with tokens := db.tokens++[refreshToken cfg userId draw now] } = db' := by
  unfold createRefreshToken
  split_ifs with h <;> simp [h]

theorem createRefreshToken_eq_none {cfg : Config} {db : Db} {userId : Uuid} {draw : TokenDraw}
    {now : Instant} :
    createRefreshToken cfg db userId draw now = none ↔
      ¬tokenFree db draw.id (cfg.sha256 draw.value) = true := by
  unfold createRefreshToken
  split_ifs with h <;> simp [h]

theorem now_lt_expiresAt_iff {cfg : Config} {userId : Uuid} {draw : TokenDraw} {now : Instant} :
    now < (refreshToken cfg userId draw now).expiresAt ↔ cfg.jwtRefreshTokenExpireDays ≠ 0 := by
  have hlife : 0 < days cfg.jwtRefreshTokenExpireDays ↔ cfg.jwtRefreshTokenExpireDays ≠ 0 := by
    simp only [days, minutes]
    omega
  rw [← hlife]
  exact Nat.lt_add_right_iff_pos

theorem accounts_createRefreshToken {cfg : Config} {db db' : Db} {userId : Uuid}
    {draw : TokenDraw} {now : Instant}
    (h : createRefreshToken cfg db userId draw now = some db') :
    accounts db' now = (accounts db now).after (issued cfg userId) := by
  obtain ⟨-, rfl⟩ := createRefreshToken_eq_some.mp h
  unfold issued
  split_ifs with hdays
  · refine Accounts.ext rfl ?_
    ext other
    have hdead : ¬now < (refreshToken cfg userId draw now).expiresAt :=
      fun hlt => now_lt_expiresAt_iff.mp hlt hdays
    simp [accounts, Accounts.after, or_and_right, exists_or, hdead]
  · refine Accounts.ext rfl ?_
    ext other
    have hlive : now < (refreshToken cfg userId draw now).expiresAt :=
      now_lt_expiresAt_iff.mpr hdays
    simp only [accounts, Accounts.after, List.mem_append, List.mem_singleton, Set.mem_ofPred_eq,
      Set.mem_insert_iff, or_and_right, exists_or, exists_eq_left]
    have hnew : (refreshToken cfg userId draw now).userId = other ∧
        (refreshToken cfg userId draw now).revoked = false ∧
        now < (refreshToken cfg userId draw now).expiresAt ↔ other = userId := by
      constructor
      · exact fun h => h.1.symm
      · rintro rfl
        exact ⟨rfl, rfl, hlive⟩
    rw [hnew]
    exact or_comm

/-- Revoking a token ends no other session. -/
theorem live_revokeToken_subset (db : Db) (tokenId : Uuid) (now : Instant) :
    (accounts (revokeToken db tokenId) now).live ⊆ (accounts db now).live := by
  rintro userId ⟨token, htoken, hid, hrevoked, hexpires⟩
  obtain ⟨old, hold, hnew⟩ := Table.mem_alter.mp htoken
  split_ifs at hnew
  · subst hnew
    cases hrevoked
  · subst hnew
    exact ⟨old, hold, hid, hrevoked, hexpires⟩

theorem accounts_revokeSessions (db : Db) (userId : Uuid) (now : Instant) :
    accounts (revokeSessions db userId) now =
      ⟨(accounts db now).active, (accounts db now).live \ {userId}⟩ := by
  refine Accounts.ext rfl ?_
  ext other
  constructor
  · rintro ⟨token, htoken, hid, hrevoked, hexpires⟩
    obtain ⟨old, hold, hnew⟩ := Table.mem_alter.mp htoken
    split_ifs at hnew with huser
    · subst hnew
      cases hrevoked
    · subst hnew
      refine ⟨⟨old, hold, hid, hrevoked, hexpires⟩, ?_⟩
      exact fun hother => huser (hid.trans hother)
  · rintro ⟨⟨token, htoken, hid, hrevoked, hexpires⟩, hother⟩
    have hne : token.userId ≠ userId := fun h => hother (hid.symm.trans h)
    refine ⟨token, Table.mem_alter.mpr ⟨token, htoken, if_neg hne⟩, hid, hrevoked, hexpires⟩

end LegalForge.Auth
