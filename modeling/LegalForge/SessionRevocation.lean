import LegalForge.RevocationRequests

/-! Which refresh tokens outlive a revocation of sessions, over every interleaving of logins,
refreshes and revocations. -/
namespace LegalForge.Auth
open Transition ReadCommitted

variable {Tx : Type*}

/-- Every token of the user that is not revoked descends from an authentication made after the
last revocation. -/
def Severed (db : SessionDb) (userId : Uuid) : Prop :=
  ∀ t ∈ db.tokens, t.userId = userId → t.revoked = false → t.root = db.epoch userId

/-- The requests that began before the last revocation of the user have their responses. -/
def Settled (s : AccountState Tx) (userId : Uuid) : Prop :=
  ∀ t epochs, (s.session t).started = some epochs → epochs userId < s.committed.epoch userId →
    finished (s.session t).request = true

/-- Once the sessions of a user have been revoked and no older request is open, none of them is
left. -/
def RevocationComplete (s : AccountState Tx) : Prop :=
  ∀ userId, 0 < s.committed.epoch userId → Settled s userId → Severed s.committed userId

/-- The refresh token that a request is about to commit. -/
def newToken : AccountRequest → Option RefreshToken
  | .login (.ready _ new _) => new
  | .refresh (.ready _ new _) => some new
  | .twoFactor (.ready _ new _) => some new
  | _ => none

/-- A new token is committed only if its user has not been revoked since the authentication, or
since the presented token was read; and a revocation only if it has read all tokens there are. -/
def UpToDate (db : SessionDb) (m : AccountSession) : Prop :=
  match m.request with
  | .revoke (.ready _ user tokens) =>
    ∀ t ∈ db.tokens, t.userId = user.id → t.revoked = false → t.id ∈ tokens
  | request => ∀ new ∈ newToken request, m.since = db.epoch new.userId

def AllSevered (db : SessionDb) : Prop :=
  ∀ userId, Severed db userId

theorem allSevered_iff {db : SessionDb} :
    AllSevered db ↔ ∀ t ∈ db.tokens, t.revoked = false → t.root = db.epoch t.userId := by
  constructor
  · exact fun h t ht => h t.userId t ht rfl
  · rintro h userId t ht rfl
    exact h t ht

/-- The UPDATE leaves the other live tokens. -/
theorem live_mem_revokeTokens {ids : List Uuid} {tokens : List IssuedToken} {t : IssuedToken} :
    t ∈ revokeTokens ids tokens ∧ t.revoked = false ↔
      t ∈ tokens ∧ t.revoked = false ∧ t.id ∉ ids := by
  constructor
  · rintro ⟨hmem, hlive⟩
    obtain ⟨x, hx, rfl⟩ := List.mem_map.mp hmem
    split_ifs at hlive with hid
    rw [if_neg hid]
    exact ⟨hx, hlive, hid⟩
  · rintro ⟨hmem, hlive, hid⟩
    exact ⟨List.mem_map.mpr ⟨t, hmem, if_neg hid⟩, hlive⟩

theorem revokeTokens_nil (tokens : List IssuedToken) : revokeTokens [] tokens = tokens := by
  simp [revokeTokens]

section
variable {db db' : SessionDb} {root : ℕ} {request request' : AccountRequest}

/-- A commit revokes some tokens and adds the new one, or it revokes the tokens of a user. -/
theorem publishRequest_cases (h : publishRequest db root request = some (db', request')) :
    newToken request' = none ∧
    ((∃ ids, (∀ how user tokens, request ≠ .revoke (.ready how user tokens)) ∧
      db'.tokens = revokeTokens ids db.tokens++(newToken request).toList.map (fun t => ⟨t, root⟩) ∧
      db'.epoch = db.epoch) ∨
    (∃ how user tokens, request = .revoke (.ready how user tokens) ∧
      db'.tokens = revokeTokens tokens db.tokens ∧
      db'.epoch = Function.update db.epoch user.id (db.epoch user.id+1))) := by
  cases request with
  | idle => cases h
  | login m =>
    obtain ⟨⟨out, m'⟩, hpub, hout⟩ := Option.map_eq_some_iff.mp h
    obtain ⟨rfl, rfl⟩ := Prod.mk.inj hout
    unfold publishLogin at hpub
    split at hpub
    · obtain ⟨rfl, rfl⟩ := Prod.mk.inj (Option.some.inj hpub)
      exact ⟨rfl, Or.inl ⟨[], by rintro _ _ _ ⟨⟩, by simp [revokeTokens_nil, newToken], rfl⟩⟩
    · obtain ⟨rfl, rfl⟩ := Prod.mk.inj (Option.some.inj hpub)
      exact ⟨rfl, Or.inl ⟨[], by rintro _ _ _ ⟨⟩,
        by simp [revokeTokens_nil, newToken, changeUser], rfl⟩⟩
    · obtain ⟨rfl, rfl⟩ := Prod.mk.inj (Option.some.inj hpub)
      exact ⟨rfl, Or.inl ⟨[], by rintro _ _ _ ⟨⟩,
        by simp [revokeTokens_nil, newToken, changeUser], rfl⟩⟩
    · cases hpub
  | refresh m =>
    obtain ⟨⟨out, m'⟩, hpub, hout⟩ := Option.map_eq_some_iff.mp h
    obtain ⟨rfl, rfl⟩ := Prod.mk.inj hout
    unfold publishRefresh at hpub
    split at hpub
    · rename_i token new response
      obtain ⟨rfl, rfl⟩ := Prod.mk.inj (Option.some.inj hpub)
      exact ⟨rfl, Or.inl ⟨[token.id], by rintro _ _ _ ⟨⟩, rfl, rfl⟩⟩
    · cases hpub
  | twoFactor m =>
    obtain ⟨⟨out, m'⟩, hpub, hout⟩ := Option.map_eq_some_iff.mp h
    obtain ⟨rfl, rfl⟩ := Prod.mk.inj hout
    unfold publishTwoFactor at hpub
    split at hpub
    · obtain ⟨rfl, rfl⟩ := Prod.mk.inj (Option.some.inj hpub)
      exact ⟨rfl, Or.inl ⟨[], by rintro _ _ _ ⟨⟩, by simp [revokeTokens_nil, newToken], rfl⟩⟩
    · cases hpub
  -- the only request that moves the epoch of a user
  | revoke m =>
    obtain ⟨⟨out, m'⟩, hpub, hout⟩ := Option.map_eq_some_iff.mp h
    obtain ⟨rfl, rfl⟩ := Prod.mk.inj hout
    unfold publishRevoke at hpub
    split at hpub
    · rename_i how user tokens
      obtain ⟨rfl, rfl⟩ := Prod.mk.inj (Option.some.inj hpub)
      exact ⟨rfl, Or.inr ⟨how, user, tokens, rfl, rfl, rfl⟩⟩
    · cases hpub

/-- A token that is added belongs to its user's sessions if its authentication is recent enough. -/
theorem allSevered_issue_iff {ids : List Uuid} (hsevered : AllSevered db)
    (hlive : ∀ new ∈ newToken request, new.revoked = false)
    (htokens : db'.tokens =
      revokeTokens ids db.tokens++(newToken request).toList.map (fun t => ⟨t, root⟩))
    (hepoch : db'.epoch = db.epoch) :
    AllSevered db' ↔ ∀ new ∈ newToken request, root = db.epoch new.userId := by
  rw [allSevered_iff] at hsevered ⊢
  rw [hepoch, htokens]
  constructor
  · intro h new hnew
    refine h ⟨new, root⟩ (List.mem_append_right _ ?_) (hlive new hnew)
    exact List.mem_map.mpr ⟨new, Option.mem_toList.mpr hnew, rfl⟩
  · intro h t ht hunrevoked
    rcases List.mem_append.mp ht with hold | hnew
    · have hrow := (live_mem_revokeTokens.mp ⟨hold, hunrevoked⟩).1
      exact hsevered t hrow hunrevoked
    · obtain ⟨new, hmem, rfl⟩ := List.mem_map.mp hnew
      exact h new (Option.mem_toList.mp hmem)

/-- A revocation is complete exactly when it has read every live token of the user. -/
theorem allSevered_revoke_iff {user : User} {ids : List Uuid} (hsevered : AllSevered db)
    (htokens : db'.tokens = revokeTokens ids db.tokens)
    (hepoch : db'.epoch = Function.update db.epoch user.id (db.epoch user.id+1)) :
    AllSevered db' ↔ ∀ t ∈ db.tokens, t.userId = user.id → t.revoked = false → t.id ∈ ids := by
  rw [allSevered_iff] at hsevered ⊢
  rw [hepoch, htokens]
  constructor
  · intro h t ht huser hunrevoked
    by_contra hid
    obtain ⟨hmem, -⟩ := live_mem_revokeTokens.mpr ⟨ht, hunrevoked, hid⟩
    have hafter := h t hmem hunrevoked
    rw [huser, Function.update_self, hsevered t ht hunrevoked, huser] at hafter
    omega
  · intro h t ht hunrevoked
    obtain ⟨hrow, -, hid⟩ := live_mem_revokeTokens.mp ⟨ht, hunrevoked⟩
    have hother : t.userId ≠ user.id := fun huser => hid (h t hrow huser hunrevoked)
    rw [Function.update_of_ne hother]
    exact hsevered t hrow hunrevoked

/-- What a login is about to commit has just been drawn. -/
theorem live_of_loginStmt {cfg : Config} {now : Instant} {tables : Db} {m : LoginSession}
    {a : LoginStatement} {m' : LoginSession} (h : loginStmt cfg now tables m a = some m') :
    ∀ new ∈ newToken (.login m'), new.revoked = false := by
  unfold loginStmt at h
  split at h
  · -- the email is looked up
    split at h
    · obtain rfl := Option.some.inj h
      exact nofun
    · split_ifs at h <;> obtain rfl := Option.some.inj h <;> exact nofun
  · split_ifs at h <;> obtain rfl := Option.some.inj h <;> exact nofun
  · obtain rfl := Option.some.inj h
    exact nofun
  · obtain rfl := Option.some.inj h
    exact nofun
  · -- the response is built, with the token
    split_ifs at h
    · obtain rfl := Option.some.inj h
      exact nofun
    · obtain rfl := Option.some.inj h
      rintro new hnew
      obtain rfl := Option.some.inj hnew
      rfl
    · obtain rfl := Option.some.inj h
      exact nofun
  · cases h

theorem live_of_refreshStmt {cfg : Config} {tables : Db} {m m' : RefreshSession}
    {a : RefreshStatement} (h : refreshStmt cfg tables m a = some m') :
    ∀ new ∈ newToken (.refresh m'), new.revoked = false := by
  rcases refreshStmt_cases h with ⟨_, rfl⟩ | ⟨_, _, _, -, rfl⟩ | ⟨_, -, rfl⟩ | ⟨_, _, -, rfl⟩ |
    ⟨_, _, _, _, -, -, -, rfl⟩
  · exact nofun
  · exact nofun
  · exact nofun
  · exact nofun
  · rintro new hnew
    obtain rfl := Option.some.inj hnew
    rfl

theorem newToken_checkCode (cfg : TwoFactorConfig) (user : TwoFactorUser) (secret code : String)
    (now : Instant) : newToken (.twoFactor (checkCode cfg user secret code now)) = none := by
  unfold checkCode
  split_ifs
  · rfl
  · split
    · rfl
    · split_ifs
      · rfl
      · split <;> rfl

theorem newToken_selectUser (cfg : TwoFactorConfig) (tables : TwoFactorDb)
    (data : TwoFactorLoginRequest) (now : Instant) :
    newToken (.twoFactor (selectUser cfg tables data now)) = none := by
  unfold selectUser
  split
  · rfl
  · split
    · rfl
    · split_ifs
      · rfl
      · split
        · rfl
        · split_ifs
          · rfl
          · exact newToken_checkCode cfg _ _ _ now

theorem live_of_twoFactorStmt {cfg : TwoFactorConfig} {tables : TwoFactorDb}
    {m m' : TwoFactorSession} {a : TwoFactorStatement} (h : twoFactorStmt cfg tables m a = some m') :
    ∀ new ∈ newToken (.twoFactor m'), new.revoked = false := by
  cases m with
  | idle =>
    cases a with
    | select data now =>
      obtain rfl := Option.some.inj h
      rw [newToken_selectUser]
      exact nofun
    | _ => cases h
  | updating use =>
    cases a with
    | flush =>
      obtain rfl := Option.some.inj h
      exact nofun
    | _ => cases h
  | issuing user use =>
    cases a with
    | insert draw now =>
      simp only [twoFactorStmt] at h
      split_ifs at h
      · obtain rfl := Option.some.inj h
        rintro new hnew
        obtain rfl := Option.some.inj hnew
        rfl
      · obtain rfl := Option.some.inj h
        exact nofun
    | _ => cases h
  | ready use new response => cases h
  | returned response => cases h
  | raised error => cases h

/-- A new token is not revoked. -/
theorem live_of_requestStmt {cfg : TwoFactorConfig} {a : AccountStatement}
    (h : requestStmt cfg db request a = some request') :
    ∀ new ∈ newToken request', new.revoked = false := by
  unfold requestStmt at h
  split at h
  · obtain ⟨m, hm, rfl⟩ := Option.map_eq_some_iff.mp h
    exact live_of_loginStmt hm
  · obtain ⟨m, hm, rfl⟩ := Option.map_eq_some_iff.mp h
    exact live_of_loginStmt hm
  · obtain ⟨m, hm, rfl⟩ := Option.map_eq_some_iff.mp h
    exact live_of_refreshStmt hm
  · obtain ⟨m, hm, rfl⟩ := Option.map_eq_some_iff.mp h
    exact live_of_refreshStmt hm
  · split_ifs at h
    obtain ⟨m, hm, rfl⟩ := Option.map_eq_some_iff.mp h
    exact live_of_twoFactorStmt hm
  · obtain ⟨m, hm, rfl⟩ := Option.map_eq_some_iff.mp h
    exact live_of_twoFactorStmt hm
  · obtain ⟨m, hm, rfl⟩ := Option.map_eq_some_iff.mp h
    exact nofun
  · obtain ⟨m, hm, rfl⟩ := Option.map_eq_some_iff.mp h
    exact nofun
  · cases h

/-- The row that a refresh reads descends from an authentication after the last revocation. -/
theorem rootOf_found {cfg : Config} {oldToken : String} {now : Instant} {token : RefreshToken}
    (hsevered : AllSevered db) (hfind : findRefreshToken cfg db.auth oldToken now = some token) :
    rootOf db token = db.epoch token.userId := by
  obtain ⟨hmem, hlive⟩ := findRefreshToken_eq_some hfind
  obtain ⟨row, hrow, rfl⟩ := List.mem_map.mp hmem
  cases hfirst : db.tokens.find? (fun t => t.toRefreshToken = row.toRefreshToken) with
  | none =>
    have hnot := List.find?_eq_none.mp hfirst row hrow
    exact absurd (decide_eq_true rfl) hnot
  | some first =>
    have hsame : first.toRefreshToken = row.toRefreshToken := by
      simpa only [decide_eq_true_eq] using List.find?_some hfirst
    have hroot := allSevered_iff.mp hsevered first (List.mem_of_find?_eq_some hfirst)
      (by rw [hsame]; exact hlive)
    rw [rootOf, hfirst]
    exact hroot.trans (by rw [hsame])

/-- A refresh begins with a token that it finds. -/
theorem found_of_requestStmt {cfg : TwoFactorConfig} {a : AccountStatement} {token : RefreshToken}
    (h : requestStmt cfg db .idle a = some (.refresh (.found token))) :
    ∃ oldToken now, findRefreshToken cfg.toConfig db.auth oldToken now = some token := by
  cases a with
  | login a now =>
    obtain ⟨m, -, hm⟩ := Option.map_eq_some_iff.mp h
    cases hm
  | refresh a =>
    obtain ⟨m, hm, heq⟩ := Option.map_eq_some_iff.mp h
    obtain rfl := AccountRequest.refresh.inj heq
    rcases refreshStmt_cases hm with ⟨_, heq⟩ | ⟨oldToken, now, found, hfind, heq⟩ | ⟨_, heq, -⟩ |
      ⟨_, _, heq, -⟩ | ⟨_, _, _, _, heq, -⟩
    · cases heq
    · obtain rfl := RefreshSession.found.inj heq
      exact ⟨oldToken, now, hfind⟩
    · cases heq
    · cases heq
    · cases heq
  | twoFactor a authentication =>
    simp only [requestStmt] at h
    split_ifs at h
    obtain ⟨m, -, hm⟩ := Option.map_eq_some_iff.mp h
    cases hm
  | revoke a =>
    obtain ⟨m, -, hm⟩ := Option.map_eq_some_iff.mp h
    cases hm

/-- The session rests on the authentication that its new token will descend from. -/
structure SessionOk (m : AccountSession) : Prop where
  root_eq : m.root = m.since
  live : ∀ new ∈ newToken m.request, new.revoked = false

theorem sessionOk_idle : SessionOk {} :=
  ⟨rfl, nofun⟩

theorem sessionOk_stmt {cfg : TwoFactorConfig} {m m' : AccountSession} {a : AccountStatement}
    (hsevered : AllSevered db) (hm : SessionOk m) (h : accountStmt cfg db m a = some m') :
    SessionOk m' := by
  obtain ⟨request', hrequest, rfl⟩ := Option.map_eq_some_iff.mp h
  have hlive := live_of_requestStmt hrequest
  split
  · rename_i hidle
    rw [hidle] at hrequest
    unfold begun
    split
    · exact ⟨rfl, hlive⟩
    · -- the presented token is read from the rows there are
      obtain ⟨oldToken, now, hfind⟩ := found_of_requestStmt hrequest
      exact ⟨rootOf_found hsevered hfind, hlive⟩
    · exact ⟨rfl, hlive⟩
    · exact ⟨rfl, hlive⟩
  · exact ⟨hm.root_eq, hlive⟩

theorem newToken_abortRequest (request : AccountRequest) :
    newToken (abortRequest request) = none := by
  unfold abortRequest
  split_ifs with hfinished
  · unfold finished at hfinished
    split at hfinished <;> first | rfl | cases hfinished
  · split <;> rfl

end

variable [DecidableEq Tx] {s s' : AccountState Tx}

def SessionsOk (s : AccountState Tx) : Prop :=
  ∀ t, SessionOk (s.session t)

theorem sessionsOk_step {cfg : TwoFactorConfig} {l : AccountLabel Tx} (hok : SessionsOk s)
    (hsevered : AllSevered s.committed) (hstep : step (accountProgram cfg) s l = some s') :
    SessionsOk s' := by
  intro u
  rcases step_session_cases hstep u with hsame | ⟨a, -, hm⟩ | ⟨-, hpub⟩ | ⟨-, habort⟩
  · rw [hsame]
    exact hok u
  · exact sessionOk_stmt hsevered (hok u) hm
  · obtain ⟨out, hout, heq⟩ := Option.map_eq_some_iff.mp hpub
    have hnone := (publishRequest_cases hout).1
    rw [← (Prod.mk.inj heq).2]
    refine ⟨(hok u).root_eq, ?_⟩
    simp only [hnone]
    exact nofun
  · rw [habort]
    refine ⟨(hok u).root_eq, ?_⟩
    simp only [accountProgram, newToken_abortRequest]
    exact nofun

/-- A commit keeps the sessions severed exactly when it is up to date. -/
theorem allSevered_commit_iff {cfg : TwoFactorConfig} {t : Tx} (hok : SessionsOk s)
    (hsevered : AllSevered s.committed) (hstep : step (accountProgram cfg) s (.commit t) = some s') :
    AllSevered s'.committed ↔ UpToDate s.committed (s.session t) := by
  obtain ⟨db, m, hpub, rfl⟩ := step_commit_eq_some.mp hstep
  obtain ⟨⟨out, request'⟩, hout, heq⟩ := Option.map_eq_some_iff.mp hpub
  obtain ⟨rfl, -⟩ := Prod.mk.inj heq
  obtain ⟨hroot, hlive⟩ := hok t
  obtain ⟨-, hcases⟩ := publishRequest_cases hout
  unfold UpToDate
  rcases hcases with ⟨ids, hissue, htokens, hepoch⟩ | ⟨how, user, tokens, hrequest, htokens, hepoch⟩
  · rw [allSevered_issue_iff hsevered hlive htokens hepoch, hroot]
    split
    · rename_i how user tokens hrequest
      exact absurd hrequest (hissue how user tokens)
    · exact Iff.rfl
  · rw [allSevered_revoke_iff hsevered htokens hepoch, hrequest]

/-- No token outlives a revocation of its user's sessions exactly when every commit is up to
date. -/
theorem allSevered_throughout_iff (cfg : TwoFactorConfig) {db : SessionDb}
    (hstart : AllSevered db) (ls : List (AccountLabel Tx)) :
    Throughout (step (accountProgram cfg)) (fun s => AllSevered s.committed) (start db {}) ls ↔
      Along (step (accountProgram cfg)) (fun s l _ => AtCommit UpToDate s l) (start db {}) ls := by
  rw [throughout_atCommit_iff (I := SessionsOk) (C := UpToDate)
    (fun _ _ _ hok hsevered hstep _ => sessionsOk_step hok hsevered hstep)
    (fun s l s' _ hsevered hstep hl => by
      rw [step_committed_eq hstep hl]
      exact hsevered)
    (fun _ _ _ hok hsevered hstep => allSevered_commit_iff hok hsevered hstep)
    (fun _ => sessionOk_idle) ls]
  exact and_iff_right hstart

/-- Tables whose history is not recorded: no revocation so far. -/
def sessionTables (users : List TwoFactorUser) (tokens : List RefreshToken) (challenges : List Jwt) :
    SessionDb where
  users := users
  tokens := tokens.map fun token => ⟨token, 0⟩
  challenges := challenges.map fun token => (token, 0)
  epoch := fun _ => 0

theorem allSevered_sessionTables (users : List TwoFactorUser) (tokens : List RefreshToken)
    (challenges : List Jwt) : AllSevered (sessionTables users tokens challenges) := by
  intro userId t ht _ _
  obtain ⟨token, -, rfl⟩ := List.mem_map.mp ht
  rfl

/-- Where every commit is up to date, the revocations of sessions are complete. -/
theorem revocationComplete_throughout (cfg : TwoFactorConfig) (users : List TwoFactorUser)
    (tokens : List RefreshToken) (challenges : List Jwt) (ls : List (AccountLabel Tx))
    (hrun : Along (step (accountProgram cfg)) (fun s l _ => AtCommit UpToDate s l)
      (start (sessionTables users tokens challenges) {}) ls) :
    Throughout (step (accountProgram cfg)) RevocationComplete
      (start (sessionTables users tokens challenges) {}) ls := by
  have hstart := allSevered_sessionTables users tokens challenges
  have hsevered := (allSevered_throughout_iff cfg hstart ls).mpr hrun
  rw [ throughout_iff_prefix] at hsevered ⊢
  intro pre post s hsplit hpre userId _ _
  exact hsevered pre post s hsplit hpre userId

/-! A user with a second factor, whose sessions are revoked while a login is at its second step. -/

def revocationConfig : TwoFactorConfig :=
  { rotationConfig with
    verifyPassword := fun plain hashed => plain = hashed
    verifyTotpCode := fun _ code _ => code = "492039" }

def userWithTotp : TwoFactorUser where
  id := 3
  email := "ann@firm.test"
  passwordHash := "Correct-Horse-1"
  firstName := "Ann"
  lastName := "Lee"
  totpEnabled := true
  totpSecret := some "JBSWY3DPEHPK3PXP"

/-- The password has been checked at time 5. -/
def secondStep : TwoFactorLoginRequest where
  tempToken := some (create2faPendingToken userWithTotp.toUser 5)
  code := "492039"
  code_length := by decide

def passwordStep : List (AccountLabel ℕ) :=
  [.stmt 0 (.login (.select ⟨"ann@firm.test", "Correct-Horse-1"⟩) 5), .stmt 0 (.login .verify 5),
   .stmt 0 (.login .flush 5), .stmt 0 (.login (.respond ⟨10, "tk-a"⟩) 5), .commit 0]

def sessionsRevoked : List (AccountLabel ℕ) :=
  [.stmt 1 (.revoke (.select .soarRevokeSessions 3)), .stmt 1 (.revoke .writeUser),
   .stmt 1 (.revoke .collect), .stmt 1 (.revoke .mark), .commit 1]

/-- Every live token there is when the revocation commits has been read by it. -/
theorem along_sessionsRevoked : Along (step (accountProgram revocationConfig))
    (fun s l _ => AtCommit UpToDate s l)
    (start (sessionTables [userWithTotp] loggedIn.tokens []) {}) sessionsRevoked := by
  refine Along.cons rfl trivial (Along.cons rfl trivial (Along.cons rfl trivial
    (Along.cons rfl trivial (Along.cons rfl ?_ trivial))))
  intro t ht _ _
  obtain rfl := List.mem_singleton.mp ht
  exact List.mem_singleton_self _

theorem revocationComplete_sessionsRevoked :
    Throughout (step (accountProgram revocationConfig)) RevocationComplete
      (start (sessionTables [userWithTotp] loggedIn.tokens []) {}) sessionsRevoked :=
  revocationComplete_throughout revocationConfig [userWithTotp] loggedIn.tokens [] sessionsRevoked
    along_sessionsRevoked

def totpStep : List (AccountLabel ℕ) :=
  [.stmt 2 (.twoFactor (.select secondStep 8) 0), .stmt 2 (.twoFactor (.insert ⟨11, "tk-b"⟩ 9) 0),
   .commit 2]

/-- The temporary token outlives the revocation, and is still good for a refresh token. -/
theorem not_revocationComplete_totpStep :
    ¬Throughout (step (accountProgram revocationConfig)) RevocationComplete
      (start (sessionTables [userWithTotp] [] []) {}) (passwordStep++sessionsRevoked++totpStep) := by
  intro h
  obtain ⟨s, hrun⟩ : ∃ s, exec (step (accountProgram revocationConfig))
      (start (sessionTables [userWithTotp] [] []) {}) (passwordStep++sessionsRevoked++totpStep) =
        some s := ⟨_, rfl⟩
  -- what the run leaves: one revocation, one token from before it, and no open request
  have hview : (exec (step (accountProgram revocationConfig))
      (start (sessionTables [userWithTotp] [] []) {}) (passwordStep++sessionsRevoked++totpStep)).map
        (fun s => (s.committed.epoch 3, s.committed.tokens,
          (List.range 3).map fun t => finished (s.session t).request)) =
      some (1, [⟨refreshToken revocationConfig.toConfig 3 ⟨11, "tk-b"⟩ 9, 0⟩],
        [true, true, true]) := by
    decide +kernel
  rw [hrun, Option.map_some, Option.some.injEq, Prod.mk.injEq, Prod.mk.injEq] at hview
  obtain ⟨hepoch, htokens, hfinished⟩ := hview
  have hsettled : Settled s 3 := by
    intro t epochs hstarted _
    by_cases ht : t < 3
    · have hmem : finished (s.session t).request ∈
          (List.range 3).map fun t => finished (s.session t).request :=
        List.mem_map_of_mem (List.mem_range.mpr ht)
      rw [hfinished] at hmem
      simpa using hmem
    · have htx : ∀ u ∈ (passwordStep++sessionsRevoked++totpStep).map Label.tx, u < 3 := by decide
      have hidle : s.session t = {} := exec_session_of_ne hrun fun l hl heq =>
        ht (heq ▸ htx _ (List.mem_map_of_mem hl))
      rw [hidle] at hstarted
      cases hstarted
  have hsevered := h.final hrun 3 (by omega) hsettled
  have hroot := hsevered _ (htokens ▸ List.mem_singleton_self _) rfl rfl
  rw [hepoch] at hroot
  cases hroot

end LegalForge.Auth
