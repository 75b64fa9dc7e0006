import LegalForge.AccountEvents
import LegalForge.TransitionRun

/-! Whether the sessions of a deactivated user have ended, over every sequence of
logins, refreshes, callbacks and changes of users. -/
namespace LegalForge.Auth
open Access Transition

inductive Request where
  | login (data : LoginRequest) (draw : TokenDraw)
  | refresh (oldToken : String) (draw : TokenDraw)
  | ssoCallback (state : String) (reply : Option Sso.IdpReply) (draw : Sso.Draw)
  | samlCallback (providerId : Uuid) (assertion : Except Sso.Failure Sso.SamlAssertion)
      (draw : Sso.Draw)
  | updateUser (userId : Uuid) (data : UserUpdate)
  | scimCreate (scimData : Json) (userId : Uuid) (passwordHash : String)
  | scimReplace (userId : Uuid) (scimData : Json)
  | scimPatch (userId : Uuid) (scimData : Json)
  | scimDelete (userId : Uuid)
  | soarDisable (userId : Uuid)

/-- The tables after a request. -/
def handle (cfg : Config) (db : Db) (now : Instant) : Request → Db
  | .login data draw => (login cfg db data draw now).2
  | .refresh oldToken draw => (refresh cfg db oldToken draw now).2
  | .ssoCallback state reply draw => (Sso.ssoCallback cfg db state reply draw now).2
  | .samlCallback providerId assertion draw =>
    (Sso.samlCallback cfg db providerId assertion draw now).2
  | .updateUser userId data => (updateUser db userId data).2
  | .scimCreate scimData userId passwordHash => (Scim.createUser db scimData userId passwordHash).2
  | .scimReplace userId scimData => (Scim.updateUser db userId scimData).2
  | .scimPatch userId scimData => (Scim.patchUser db userId scimData).2
  | .scimDelete userId => (Scim.deleteUser db userId).2
  | .soarDisable userId => (soarDisableUser db userId).2

/-- The tables, and the time of the last request. -/
structure AuthState where
  db : Db
  clock : Instant

/-- A request and its time, which is never before the last one. -/
def authStep (cfg : Config) (s : AuthState) (timed : Instant × Request) : Option AuthState :=
  if s.clock ≤ timed.1 then some ⟨handle cfg s.db timed.1 timed.2, timed.1⟩ else none

/-- No user who is not active has a refresh token that is neither revoked nor expired. -/
def SessionsEnded (s : AuthState) : Prop :=
  ∀ user ∈ s.db.users, user.isActive = false →
    ∀ token ∈ s.db.tokens, token.userId = user.id → token.revoked = true ∨ token.expiresAt ≤ s.clock

instance : DecidablePred SessionsEnded := fun s =>
  inferInstanceAs (Decidable (∀ user ∈ s.db.users, user.isActive = false →
    ∀ token ∈ s.db.tokens, token.userId = user.id → token.revoked = true ∨
      token.expiresAt ≤ s.clock))

theorem sessionsEnded_iff {s : AuthState} (hids : (s.db.users.map User.id).Nodup) :
    SessionsEnded s ↔ (accounts s.db s.clock).Ended := by
  constructor
  · rintro h userId ⟨token, htoken, rfl, hrevoked, hexpires⟩ hflag
    obtain ⟨user, huser, hinactive⟩ := Option.map_eq_some_iff.mp hflag
    have hid : user.id = token.userId := Table.key_of_find huser
    rcases h user (Table.mem_of_find huser) hinactive token htoken hid.symm with hr | he
    · rw [hrevoked] at hr
      cases hr
    · exact absurd hexpires (not_lt.mpr he)
  · intro h user huser hinactive token htoken hid
    by_contra hneither
    rw [not_or, Bool.not_eq_true, not_le] at hneither
    have hfind : getUser s.db user.id = some user :=
      (Table.find_eq_some_iff hids).mpr ⟨huser, rfl⟩
    refine h user.id ⟨token, htoken, hid, hneither⟩ ?_
    simp [accounts, hfind, hinactive]

/-- What a request does to accounts and sessions. -/
def eventOf (cfg : Config) (db : Db) (now : Instant) : Request → Event Uuid
  | .login data draw => loginEvent cfg db data draw now
  | .refresh oldToken draw => refreshEvent cfg db oldToken draw now
  | .ssoCallback state reply draw => ssoEvent cfg db state reply draw now
  | .samlCallback providerId assertion draw => samlEvent cfg db providerId assertion draw now
  | .updateUser userId data => writeEvent db userId (updatedUser data)
  | .scimCreate scimData userId passwordHash => createEvent db scimData userId passwordHash
  | .scimReplace userId scimData => writeEvent db userId (Scim.replacedUser scimData)
  | .scimPatch userId scimData => patchEvent db userId scimData
  | .scimDelete userId => writeEvent db userId (fun user => some (deactivated user))
  | .soarDisable userId => disableEvent db userId

theorem carries_handle (cfg : Config) {db : Db} (hids : (db.users.map User.id).Nodup)
    (now : Instant) (r : Request) :
    Carries now db (eventOf cfg db now r) (handle cfg db now r) := by
  cases r with
  | login data draw => exact carries_login hids data draw now
  | refresh oldToken draw => exact carries_refresh hids oldToken draw now
  | ssoCallback state reply draw => exact carries_ssoCallback hids state reply draw now
  | samlCallback providerId assertion draw =>
    exact carries_samlCallback hids providerId assertion draw now
  | updateUser userId data => exact carries_writeUser hids userId _ (fun _ _ => id_updatedUser) _ now
  | scimCreate scimData userId passwordHash =>
    exact carries_createUser hids scimData userId passwordHash now
  | scimReplace userId scimData => exact carries_writeUser hids userId _ (fun _ _ => id_replacedUser) _ now
  | scimPatch userId scimData => exact carries_patchUser hids userId scimData now
  | scimDelete userId =>
    have hrow : ∀ user user', some (deactivated user) = some user' → user'.id = user.id := by
      intro user user' h
      rw [← Option.some.inj h]
      rfl
    exact carries_writeUser hids userId (fun user => some (deactivated user)) hrow _ now
  | soarDisable userId => exact carries_soarDisableUser hids userId now

/-- The request issues no refresh token to a user who is not active, and it takes
the flag from nobody whose refresh tokens can still be used. -/
def Permits (cfg : Config) (s : AuthState) (timed : Instant × Request) : Prop :=
  (accounts s.db timed.1).Allows (eventOf cfg s.db timed.1 timed.2)

/-- The routes that check the flag or revoke the tokens are permitted always. -/
theorem permits_refresh (cfg : Config) (s : AuthState) (now : Instant) (oldToken : String)
    (draw : TokenDraw) : Permits cfg s (now, .refresh oldToken draw) := by
  simp only [Permits, eventOf, refreshEvent]
  split
  · trivial
  · split
    · trivial
    · rename_i user huser
      split_ifs with hactive
      · have hid := Table.key_of_find huser
        unfold issued
        split_ifs
        · trivial
        · simp [Accounts.Allows, accounts, hid, huser, hactive.1]
      · trivial

theorem permits_soarDisable (cfg : Config) (s : AuthState) (now : Instant) (userId : Uuid) :
    Permits cfg s (now, .soarDisable userId) := by
  simp only [Permits, eventOf, disableEvent]
  split_ifs <;> trivial

/-- A change of a user is permitted unless it closes an account over its sessions. -/
theorem allows_writeEvent_iff {db : Db} {userId : Uuid} {row : User → Option User} {now : Instant} :
    (accounts db now).Allows (writeEvent db userId row) ↔
      ∀ user user', getUser db userId = some user → row user = some user' →
        (flushUser db user user').isSome = true → user'.isActive = false →
          userId ∉ (accounts db now).live := by
  unfold writeEvent
  cases huser : getUser db userId with
  | none => exact iff_of_true trivial (fun _ _ h => by cases h)
  | some user =>
    dsimp only
    cases hrow : row user with
    | none =>
      refine iff_of_true trivial (fun old new hold hnew => ?_)
      obtain rfl := Option.some.inj hold
      rw [hrow] at hnew
      cases hnew
    | some user' =>
      dsimp only
      constructor
      · intro h old new hold hnew hflush hinactive
        obtain rfl := Option.some.inj hold
        obtain rfl := Option.some.inj (hrow.symm.trans hnew)
        rw [if_pos hflush] at h
        exact h hinactive
      · intro h
        split_ifs with hflush
        · exact h user user' rfl hrow hflush
        · trivial

theorem authStep_eq_some {cfg : Config} {s s' : AuthState} {timed : Instant × Request} :
    authStep cfg s timed = some s' ↔
      s.clock ≤ timed.1 ∧ (⟨handle cfg s.db timed.1 timed.2, timed.1⟩ : AuthState) = s' := by
  unfold authStep
  split_ifs with h <;> simp [h]

theorem tablesOk_step {cfg : Config} {s s' : AuthState} {timed : Instant × Request}
    (h : TablesOk s.db s.clock) (hstep : authStep cfg s timed = some s') :
    TablesOk s'.db s'.clock := by
  obtain ⟨hclock, rfl⟩ := authStep_eq_some.mp hstep
  have hcarries := carries_handle cfg h.ids timed.1 timed.2
  -- tokens may have run out since the last request
  have hknown : (accounts s.db timed.1).Known :=
    (known_accounts_iff.mpr h.owned).of_subset rfl (live_accounts_subset s.db hclock)
  exact ⟨hcarries.ids, known_accounts_iff.mp (hcarries.follows.known hknown hcarries.meets)⟩

/-- One request keeps the sessions of deactivated users ended exactly when it is
permitted. -/
theorem sessionsEnded_step_iff {cfg : Config} {s s' : AuthState} {timed : Instant × Request}
    (h : TablesOk s.db s.clock) (hended : SessionsEnded s)
    (hstep : authStep cfg s timed = some s') : SessionsEnded s' ↔ Permits cfg s timed := by
  have hids' := (tablesOk_step h hstep).ids
  obtain ⟨hclock, rfl⟩ := authStep_eq_some.mp hstep
  have hcarries := carries_handle cfg h.ids timed.1 timed.2
  have hlive := live_accounts_subset s.db hclock
  have hknown : (accounts s.db timed.1).Known :=
    (known_accounts_iff.mpr h.owned).of_subset rfl hlive
  have hended' : (accounts s.db timed.1).Ended :=
    ((sessionsEnded_iff h.ids).mp hended).of_subset rfl hlive
  rw [sessionsEnded_iff hids']
  exact hcarries.follows.ended_iff hended' hknown hcarries.meets

/-- Over every sequence of requests the sessions of deactivated users have ended
in every state, if and only if every request is permitted. -/
theorem sessionsEnded_throughout_iff (cfg : Config) {s : AuthState} (htables : TablesOk s.db s.clock)
    (hended : SessionsEnded s) (rs : List (Instant × Request)) :
    Throughout (authStep cfg) SessionsEnded s rs ↔
      Along (authStep cfg) (fun s timed _ => Permits cfg s timed) s rs := by
  have hiff := throughout_iff_along (P := SessionsEnded) (C := Permits cfg)
    (I := fun s : AuthState => TablesOk s.db s.clock)
    (fun _ _ _ h hstep => tablesOk_step h hstep)
    (fun _ _ _ h hended hstep => sessionsEnded_step_iff h hended hstep) htables rs
  rw [hiff]
  exact and_iff_right hended

def sampleConfig : Config where
  verifyPassword plain hashed := hashed = "hash of "++plain
  sha256 text := "digest of "++text

def attorney : User :=
  { id := 3, email := "ann@firm.test", passwordHash := "hash of password1", firstName := "Ann"
    lastName := "Lee" }

/-- One user, and nobody logged in. -/
def firm : AuthState := ⟨⟨[attorney], [], [], []⟩, 0⟩

/-- A login, and an administrator who deactivates the user afterwards. -/
def deactivatedAfterLogin : List (Instant × Request) :=
  [(1, .login ⟨"ann@firm.test", "password1"⟩ ⟨11, "r1"⟩),
   (2, .updateUser 3 { isActive := some false })]

theorem tablesOk_firm : TablesOk firm.db firm.clock :=
  ⟨List.nodup_singleton _, fun _ h => absurd h List.not_mem_nil⟩

theorem sessionsEnded_throughout_deactivatedAfterLogin :
    Throughout (authStep sampleConfig) SessionsEnded firm deactivatedAfterLogin ↔
      Along (authStep sampleConfig) (fun s timed _ => Permits sampleConfig s timed) firm
        deactivatedAfterLogin :=
  sessionsEnded_throughout_iff sampleConfig tablesOk_firm (by decide) deactivatedAfterLogin

/-- The refresh token outlives the deactivation. -/
theorem not_sessionsEnded_deactivatedAfterLogin :
    ¬Throughout (authStep sampleConfig) SessionsEnded firm deactivatedAfterLogin := by
  intro h
  have hlast := throughout_iff_prefix.mp h deactivatedAfterLogin [] _ rfl rfl
  revert hlast
  decide

end LegalForge.Auth
