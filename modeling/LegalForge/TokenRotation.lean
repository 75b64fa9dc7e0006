import LegalForge.AuthSessions
import LegalForge.ReadCommitted

/-! `POST /refresh` as the statements that concurrent sessions interleave. The
presented token is read without a lock. The UPDATE that revokes it waits for the
row, and names it by its key alone. -/
namespace LegalForge.Auth
open Transition ReadCommitted

inductive RefreshSession where
  | idle
  /-- The presented token is loaded, and `token.revoked = True` is pending. -/
  | found (token : RefreshToken)
  /-- The UPDATE is sent by the autoflush. -/
  | revoking (token : RefreshToken)
  | issuing (token : RefreshToken) (user : User)
  /-- The new token is flushed. Only COMMIT is left. -/
  | ready (token new : RefreshToken) (response : TokenResponse)
  | returned (token : RefreshToken) (response : TokenResponse)
  | raised (error : HttpError)

inductive RefreshStatement where
  | selectToken (oldToken : String) (now : Instant)
  | revoke
  | selectUser
  | insert (draw : TokenDraw) (now : Instant)

inductive TokenKey where
  | row (id : Uuid)
  | hash (tokenHash : String)
  deriving DecidableEq

def invalidRefreshToken : HttpError := ⟨401, "Invalid or expired refresh token"⟩

def tokenResponse (cfg : Config) (user : User) (draw : TokenDraw) (now : Instant) :
    TokenResponse where
  accessToken := createAccessToken cfg user now
  refreshToken := draw.value

def refreshStmt (cfg : Config) (db : Db) : RefreshSession → RefreshStatement → Option RefreshSession
  | .idle, .selectToken oldToken now =>
    match findRefreshToken cfg db oldToken now with
    | none => some (.raised invalidRefreshToken)
    | some token => some (.found token)
  | .found token, .revoke => some (.revoking token)
  | .revoking token, .selectUser =>
    match getUser db token.userId with
    | none => some (.raised invalidRefreshToken)
    | some user =>
      if !user.isActive then some (.raised invalidRefreshToken) else some (.issuing token user)
  | .issuing token user, .insert draw now =>
    if tokenFree db draw.id (cfg.sha256 draw.value) then
      some (.ready token (refreshToken cfg user.id draw now) (tokenResponse cfg user draw now))
    else some (.raised .internal)
  | _, _ => none

/-- An INSERT takes the keys of its row until the session ends. -/
def refreshLocks (cfg : Config) : RefreshSession → RefreshStatement → List TokenKey
  | .found token, .revoke => [.row token.id]
  | .issuing _ _, .insert draw _ => [.row draw.id, .hash (cfg.sha256 draw.value)]
  | _, _ => []

/-- The tables after a rotation is committed. -/
def rotated (db : Db) (token new : RefreshToken) : Db :=
  { revokeToken db token.id with tokens := (revokeToken db token.id).tokens++[new] }

def refreshProgram (cfg : Config) : Program Db RefreshSession RefreshStatement TokenKey where
  locks := fun _ m a => refreshLocks cfg m a
  stmt := refreshStmt cfg
  publish := fun db m =>
    match m with
    | .ready token new response => some (rotated db token new, .returned token response)
    | _ => none
  abort := fun m =>
    match m with
    | .idle => .idle
    | .returned token response => .returned token response
    | .raised error => .raised error
    | _ => .raised .internal

/-- The token a session has been given and not been refused. -/
def presented : RefreshSession → Option RefreshToken
  | .found token => some token
  | .revoking token => some token
  | .issuing token _ => some token
  | .ready token _ _ => some token
  | _ => none

/-- The token row is there and is revoked. -/
def Revoked (db : Db) (tokenId : Uuid) : Prop :=
  ∃ t ∈ db.tokens, t.id = tokenId ∧ t.revoked = true

def Unrevoked (db : Db) (tokenId : Uuid) : Prop :=
  ∃ t ∈ db.tokens, t.id = tokenId ∧ t.revoked = false

abbrev RefreshState (Tx : Type*) := State Db RefreshSession TokenKey Tx
abbrev RefreshLabel (Tx : Type*) := Label RefreshStatement Tx

/-- No two requests obtain a new token pair for one token. -/
def SingleUse {Tx : Type*} (s : RefreshState Tx) : Prop :=
  ∀ t u token token' response response', s.session t = .returned token response →
    s.session u = .returned token' response' → token.id = token'.id → t = u

/-- The token that a session is about to commit as revoked is not revoked yet. -/
def StillUnrevoked (db : Db) : RefreshSession → Prop
  | .ready token _ _ => Unrevoked db token.id
  | _ => True

section
variable {cfg : Config} {db : Db} {m m' : RefreshSession} {a : RefreshStatement}

/-- What one statement of a request does. -/
theorem refreshStmt_cases (h : refreshStmt cfg db m a = some m') :
    (∃ error, m' = .raised error) ∨
    (∃ oldToken now token, findRefreshToken cfg db oldToken now = some token ∧
      m' = .found token) ∨
    (∃ token, m = .found token ∧ m' = .revoking token) ∨
    (∃ token user, m = .revoking token ∧ m' = .issuing token user) ∨
    (∃ token user draw now, m = .issuing token user ∧ a = .insert draw now ∧
      tokenFree db draw.id (cfg.sha256 draw.value) = true ∧
      m' = .ready token (refreshToken cfg user.id draw now) (tokenResponse cfg user draw now)) := by
  -- each stage takes one statement, which raises or leads to the next stage
  cases m with
  | idle =>
    cases a with
    | selectToken oldToken now =>
      simp only [refreshStmt] at h
      split at h
      · exact Or.inl ⟨_, (Option.some.inj h).symm⟩
      · rename_i token hfind
        exact Or.inr (Or.inl ⟨oldToken, now, token, hfind, (Option.some.inj h).symm⟩)
    | _ => cases h
  | found token =>
    cases a with
    | revoke => exact Or.inr (Or.inr (Or.inl ⟨token, rfl, (Option.some.inj h).symm⟩))
    | _ => cases h
  | revoking token =>
    cases a with
    | selectUser =>
      simp only [refreshStmt] at h
      split at h
      · exact Or.inl ⟨_, (Option.some.inj h).symm⟩
      · rename_i user _
        split_ifs at h
        · exact Or.inl ⟨_, (Option.some.inj h).symm⟩
        · refine Or.inr (Or.inr (Or.inr (Or.inl ⟨token, user, rfl, ?_⟩)))
          exact (Option.some.inj h).symm
    | _ => cases h
  | issuing token user =>
    cases a with
    | insert draw now =>
      simp only [refreshStmt] at h
      split_ifs at h with hfree
      · refine Or.inr (Or.inr (Or.inr (Or.inr ⟨token, user, draw, now, rfl, rfl, hfree, ?_⟩)))
        exact (Option.some.inj h).symm
      · exact Or.inl ⟨_, (Option.some.inj h).symm⟩
    | _ => cases h
  | ready token new response => cases h
  | returned token response => cases h
  | raised error => cases h

theorem findRefreshToken_eq_some {oldToken : String} {now : Instant} {token : RefreshToken}
    (h : findRefreshToken cfg db oldToken now = some token) :
    token ∈ db.tokens ∧ token.revoked = false := by
  have hmem := List.mem_of_find?_eq_some h
  have hconds := List.find?_some h
  simp only [decide_eq_true_eq] at hconds
  exact ⟨hmem, hconds.2.1⟩

/-- A pending token of a session was pending before or has just been read. -/
theorem presented_refreshStmt {token : RefreshToken} (h : refreshStmt cfg db m a = some m')
    (hpending : presented m' = some token) :
    presented m = some token ∨ (token ∈ db.tokens ∧ token.revoked = false) := by
  rcases refreshStmt_cases h with ⟨_, rfl⟩ | ⟨_, _, read, hfind, rfl⟩ | ⟨_, rfl, rfl⟩ |
    ⟨_, _, rfl, rfl⟩ | ⟨_, _, _, _, rfl, -, -, rfl⟩
  · cases hpending
  · obtain rfl := Option.some.inj hpending
    exact Or.inr (findRefreshToken_eq_some hfind)
  · exact Or.inl hpending
  · exact Or.inl hpending
  · exact Or.inl hpending

theorem publish_eq_some {db' : Db} (h : (refreshProgram cfg).publish db m = some (db', m')) :
    ∃ token new response, m = .ready token new response ∧ db' = rotated db token new ∧
      m' = .returned token response := by
  cases m with
  | ready token new response =>
    obtain ⟨rfl, rfl⟩ := Prod.mk.inj (Option.some.inj h)
    exact ⟨token, new, response, rfl, rfl, rfl⟩
  | _ => cases h

end

/-! What a commit does to the token table. -/

theorem mem_rotated {db : Db} {token new t : RefreshToken} :
    t ∈ (rotated db token new).tokens ↔
      (∃ x ∈ db.tokens, (if x.id = token.id then { x with revoked := true } else x) = t) ∨
        t = new := by
  simp only [rotated, revokeToken, List.mem_append, List.mem_singleton, Table.mem_alter]

theorem map_id_rotated (db : Db) (token new : RefreshToken) :
    (rotated db token new).tokens.map RefreshToken.id =
      db.tokens.map RefreshToken.id++[new.id] := by
  have hkeys : (Table.alter RefreshToken.id token.id (fun t => { t with revoked := true })
      db.tokens).map RefreshToken.id = db.tokens.map RefreshToken.id :=
    Table.map_key_alter (f := fun t => { t with revoked := true }) (fun _ h => h) db.tokens
  rw [rotated, revokeToken, List.map_append, hkeys]
  rfl

/-- A commit revokes the presented token, and revokes nothing else. -/
theorem revoked_rotated {db : Db} {token new : RefreshToken} (hnew : new.revoked = false)
    (htoken : ∃ t ∈ db.tokens, t.id = token.id) {tokenId : Uuid} :
    Revoked (rotated db token new) tokenId ↔ Revoked db tokenId ∨ tokenId = token.id := by
  constructor
  · rintro ⟨t, hmem, hid, hrevoked⟩
    rcases mem_rotated.mp hmem with ⟨x, hx, rfl⟩ | rfl
    · by_cases hsame : x.id = token.id
      · rw [if_pos hsame] at hid
        exact Or.inr (hid.symm.trans hsame)
      · rw [if_neg hsame] at hid hrevoked
        exact Or.inl ⟨x, hx, hid, hrevoked⟩
    · rw [hnew] at hrevoked
      cases hrevoked
  · intro h
    have hrow : ∃ x ∈ db.tokens, x.id = tokenId ∧ (x.revoked = true ∨ x.id = token.id) := by
      rcases h with ⟨x, hx, hid, hrevoked⟩ | rfl
      · exact ⟨x, hx, hid, Or.inl hrevoked⟩
      · obtain ⟨x, hx, hid⟩ := htoken
        exact ⟨x, hx, hid, Or.inr hid⟩
    obtain ⟨x, hx, hid, hcase⟩ := hrow
    refine ⟨_, mem_rotated.mpr (Or.inl ⟨x, hx, rfl⟩), ?_, ?_⟩
    · split_ifs <;> exact hid
    · split_ifs with hsame
      · rfl
      · exact hcase.resolve_right hsame

theorem tokenFree_revokeToken (db : Db) (i tokenId : Uuid) (tokenHash : String) :
    tokenFree (revokeToken db i) tokenId tokenHash = tokenFree db tokenId tokenHash := by
  simp only [tokenFree, revokeToken, Table.alter, List.all_map]
  congr 1
  funext t
  by_cases hid : t.id = i <;> simp [hid]

/-! The proof outline of a request. -/

/-- What a session relies on: the presented row stays, the key of a new row is
its own, and a token it has rotated stays revoked. -/
structure RefreshOutline (db : Db) (rows : Set TokenKey) (m : RefreshSession) : Prop where
  exists_row : ∀ token, presented m = some token → ∃ t ∈ db.tokens, t.id = token.id
  new_key : ∀ token new response, m = .ready token new response →
    new.revoked = false ∧ .row new.id ∈ rows ∧ ∀ t ∈ db.tokens, t.id ≠ new.id
  revoked : ∀ token response, m = .returned token response → Revoked db token.id

def UniqueIds (db : Db) : Prop :=
  (db.tokens.map RefreshToken.id).Nodup

/-- A session that presents nothing and has not returned relies on nothing. -/
theorem refreshOutline_of_raised (db : Db) (rows : Set TokenKey) (error : HttpError) :
    RefreshOutline db rows (.raised error) where
  exists_row := fun _ h => by cases h
  new_key := fun _ _ _ h => by cases h
  revoked := fun _ _ h => by cases h

theorem refreshOutline_of_idle (db : Db) (rows : Set TokenKey) : RefreshOutline db rows .idle where
  exists_row := fun _ h => by cases h
  new_key := fun _ _ _ h => by cases h
  revoked := fun _ _ h => by cases h

theorem refreshOutline_stmt {cfg : Config} {db : Db} {rows : Set TokenKey}
    {m m' : RefreshSession} {a : RefreshStatement} (hK : RefreshOutline db rows m)
    (h : refreshStmt cfg db m a = some m') :
    RefreshOutline db (rows ∪ {r | r ∈ refreshLocks cfg m a}) m' := by
  have hrow : ∀ token, presented m' = some token → ∃ t ∈ db.tokens, t.id = token.id := by
    intro token hpending
    rcases presented_refreshStmt h hpending with hold | hread
    · exact hK.exists_row token hold
    · exact ⟨token, hread.1, rfl⟩
  rcases refreshStmt_cases h with ⟨error, rfl⟩ | ⟨_, _, token, -, rfl⟩ | ⟨token, -, rfl⟩ |
    ⟨token, user, -, rfl⟩ | ⟨token, user, draw, now, rfl, rfl, hfree, rfl⟩
  · exact refreshOutline_of_raised db _ error
  · exact ⟨hrow, nofun, nofun⟩
  · exact ⟨hrow, nofun, nofun⟩
  · exact ⟨hrow, nofun, nofun⟩
  · refine ⟨hrow, ?_, nofun⟩
    intro token' new response' heq
    obtain ⟨-, rfl, -⟩ := RefreshSession.ready.inj heq
    refine ⟨rfl, Or.inr (List.mem_cons_self), fun t ht => ?_⟩
    have hunused := List.all_eq_true.mp hfree t ht
    simp only [ne_eq, Bool.decide_and, Bool.and_eq_true, decide_eq_true_eq] at hunused
    exact hunused.1

/-- The UPDATE of another session keeps every row, and its INSERT has another key. -/
theorem refreshOutline_stable {db : Db} {rows rows' : Set TokenKey} {n : RefreshSession}
    {token new : RefreshToken} {response : TokenResponse}
    (hK : RefreshOutline db rows (.ready token new response)) (hdisjoint : Disjoint rows rows')
    (hn : RefreshOutline db rows' n) : RefreshOutline (rotated db token new) rows' n where
  exists_row := by
    intro other hpending
    obtain ⟨t, ht, hid⟩ := hn.exists_row other hpending
    refine ⟨_, mem_rotated.mpr (Or.inl ⟨t, ht, rfl⟩), ?_⟩
    split_ifs <;> exact hid
  new_key := by
    intro other new' response' heq
    obtain ⟨hunrevoked, hlock, hunused⟩ := hn.new_key other new' response' heq
    refine ⟨hunrevoked, hlock, fun t ht hid => ?_⟩
    rcases mem_rotated.mp ht with ⟨x, hx, rfl⟩ | rfl
    · have hx' : x.id = new'.id := by
        rw [← hid]
        split_ifs <;> rfl
      exact hunused x hx hx'
    · -- both sessions would hold the lock on the key
      have hown := (hK.new_key token t response rfl).2.1
      rw [hid] at hown
      exact Set.disjoint_left.mp hdisjoint hown hlock
  revoked := by
    intro other response' heq
    have hnew := (hK.new_key token new response rfl).1
    have hrow := hK.exists_row token rfl
    exact (revoked_rotated hnew hrow).mpr (Or.inl (hn.revoked other response' heq))

theorem uniqueIds_rotated {db : Db} {token new : RefreshToken} (h : UniqueIds db)
    (hunused : ∀ t ∈ db.tokens, t.id ≠ new.id) : UniqueIds (rotated db token new) := by
  have hdisjoint : ∀ i ∈ db.tokens.map RefreshToken.id, ∀ j ∈ [new.id], i ≠ j := by
    intro i hi j hj
    obtain ⟨t, ht, rfl⟩ := List.mem_map.mp hi
    rw [List.mem_singleton.mp hj]
    exact hunused t ht
  rw [UniqueIds, map_id_rotated]
  exact List.nodup_append.mpr ⟨h, List.nodup_singleton _, hdisjoint⟩

theorem refreshOutline (cfg : Config) :
    Outline (refreshProgram cfg) UniqueIds RefreshOutline where
  stmt := fun _ hK h => refreshOutline_stmt hK h
  commit := by
    intro db rows m db' m' hJ hK hpub
    obtain ⟨token, new, response, rfl, rfl, rfl⟩ := publish_eq_some hpub
    obtain ⟨hnew, -, hunused⟩ := hK.new_key token new response rfl
    refine ⟨uniqueIds_rotated hJ hunused, nofun, nofun, ?_⟩
    intro token' response' heq
    obtain ⟨rfl, -⟩ := RefreshSession.returned.inj heq
    exact (revoked_rotated hnew (hK.exists_row token rfl)).mpr (Or.inr rfl)
  abort := by
    intro db rows m _ hK
    cases m with
    | returned token response => exact ⟨nofun, nofun, hK.revoked⟩
    | idle => exact refreshOutline_of_idle db ∅
    | raised error => exact refreshOutline_of_raised db ∅ error
    | _ => exact refreshOutline_of_raised db ∅ .internal
  stable := by
    intro db rows m db' m' rows' n _ hK hpub hdisjoint hn
    obtain ⟨token, new, response, rfl, rfl, rfl⟩ := publish_eq_some hpub
    exact refreshOutline_stable hK hdisjoint hn

/-! What the sessions know of each other. -/

variable {cfg : Config} {Tx : Type*} [DecidableEq Tx] {s s' : RefreshState Tx}

/-- A pending token that is revoked has been rotated by a session that returned. -/
def RevokedByReturned (s : RefreshState Tx) : Prop :=
  ∀ t token, presented (s.session t) = some token → Revoked s.committed token.id →
    ∃ u token' response, s.session u = .returned token' response ∧ token'.id = token.id

structure RefreshInv (s : RefreshState Tx) : Prop where
  holds : Holds UniqueIds RefreshOutline s
  revoked : RevokedByReturned s

omit [DecidableEq Tx] in
theorem not_revoked_of_unrevoked {db : Db} (h : UniqueIds db) {tokenId : Uuid}
    (hfresh : Unrevoked db tokenId) : ¬Revoked db tokenId := by
  rintro ⟨x, hx, hxid, hrevoked⟩
  obtain ⟨y, hy, hyid, hunrevoked⟩ := hfresh
  have heq : x = y := List.inj_on_of_nodup_map h hx hy (hxid.trans hyid.symm)
  rw [heq, hunrevoked] at hrevoked
  cases hrevoked

theorem returned_step {l : RefreshLabel Tx} (hstep : step (refreshProgram cfg) s l = some s')
    {u : Tx} {token : RefreshToken} {response : TokenResponse}
    (hu : s.session u = .returned token response) : s'.session u = .returned token response := by
  rcases step_session_cases hstep u with hsame | ⟨a, -, hm⟩ | ⟨-, hpub⟩ | ⟨-, habort⟩
  · exact hsame.trans hu
  · -- a request that has returned sends no more statements
    rw [hu] at hm
    cases hm
  · rw [hu] at hpub
    cases hpub
  · rw [habort, hu]
    rfl

/-- A pending token was pending before the step or has just been read unrevoked. -/
theorem presented_step {l : RefreshLabel Tx} (hstep : step (refreshProgram cfg) s l = some s')
    {u : Tx} {token : RefreshToken} (hu : presented (s'.session u) = some token) :
    presented (s.session u) = some token ∨ Unrevoked s.committed token.id := by
  rcases step_session_cases hstep u with hsame | ⟨a, -, hm⟩ | ⟨-, hpub⟩ | ⟨-, habort⟩
  · exact Or.inl (hsame ▸ hu)
  · rcases presented_refreshStmt hm hu with hold | hread
    · exact Or.inl hold
    · exact Or.inr ⟨token, hread.1, rfl, hread.2⟩
  · obtain ⟨_, _, _, -, -, hreturned⟩ := publish_eq_some hpub
    rw [hreturned] at hu
    cases hu
  · rw [habort] at hu
    cases hsess : s.session u <;> rw [hsess] at hu <;> cases hu

/-- The commit of a session, with the rows before and after it. -/
theorem refresh_commit_cases {t : Tx} (hstep : step (refreshProgram cfg) s (.commit t) = some s') :
    ∃ token new response, s.session t = .ready token new response ∧
      s'.committed = rotated s.committed token new ∧
      s'.session t = .returned token response := by
  obtain ⟨db, m, hpub, rfl⟩ := step_commit_eq_some.mp hstep
  obtain ⟨token, new, response, hsess, rfl, rfl⟩ := publish_eq_some hpub
  exact ⟨token, new, response, hsess, rfl, Function.update_self t _ s.session⟩

omit [DecidableEq Tx] in
theorem RefreshInv.outline {t : Tx} (h : RefreshInv s) :
    RefreshOutline s.committed (held s t) (s.session t) :=
  h.holds.2 t

omit [DecidableEq Tx] in
/-- What a commit revokes. -/
theorem revoked_commit {t : Tx} {token new : RefreshToken} {response : TokenResponse}
    (h : RefreshInv s) (hsess : s.session t = .ready token new response) {tokenId : Uuid} :
    Revoked (rotated s.committed token new) tokenId ↔
      Revoked s.committed tokenId ∨ tokenId = token.id := by
  have hout := h.outline (t := t)
  rw [hsess] at hout
  exact revoked_rotated (hout.new_key token new response rfl).1 (hout.exists_row token rfl)

theorem revokedByReturned_step {l : RefreshLabel Tx} (h : RefreshInv s)
    (hstep : step (refreshProgram cfg) s l = some s') : RevokedByReturned s' := by
  intro u token hpending hrevoked
  -- either the row was revoked before the step, or this commit revokes it
  have hcases : Revoked s.committed token.id ∨ ∃ t token' response,
      s'.session t = .returned token' response ∧ token'.id = token.id := by
    cases l with
    | commit t =>
      obtain ⟨token', new, response, hsess, hdb, hreturned⟩ := refresh_commit_cases hstep
      rw [hdb, revoked_commit h hsess] at hrevoked
      rcases hrevoked with hbefore | hid
      · exact Or.inl hbefore
      · exact Or.inr ⟨t, token', response, hreturned, hid.symm⟩
    | stmt t a =>
      rw [step_committed_eq hstep nofun] at hrevoked
      exact Or.inl hrevoked
    | rollback t =>
      rw [step_committed_eq hstep nofun] at hrevoked
      exact Or.inl hrevoked
  rcases hcases with hbefore | hnow
  · rcases presented_step hstep hpending with hold | hread
    · obtain ⟨v, token', response, hv, hid⟩ := h.revoked u token hold hbefore
      exact ⟨v, token', response, returned_step hstep hv, hid⟩
    · exact absurd hbefore (not_revoked_of_unrevoked h.holds.1 hread)
  · exact hnow

theorem refreshInv_step {l : RefreshLabel Tx} (h : RefreshInv s)
    (hstep : step (refreshProgram cfg) s l = some s') : RefreshInv s' :=
  ⟨(refreshOutline cfg).holds_step h.holds hstep, revokedByReturned_step h hstep⟩

omit [DecidableEq Tx] in
/-- A token that has been rotated is revoked. -/
theorem revoked_of_returned {t : Tx} {token : RefreshToken} {response : TokenResponse}
    (h : RefreshInv s) (ht : s.session t = .returned token response) :
    Revoked s.committed token.id :=
  (h.outline (t := t)).revoked token response ht

/-- A commit gives out a second pair exactly when it finds its token revoked. -/
theorem singleUse_commit_iff {t : Tx} (h : RefreshInv s) (hsingle : SingleUse s)
    (hstep : step (refreshProgram cfg) s (.commit t) = some s') :
    SingleUse s' ↔ StillUnrevoked s.committed (s.session t) := by
  obtain ⟨token, new, response, hsess, -, hreturned⟩ := refresh_commit_cases hstep
  have hother : ∀ u, u ≠ t → s'.session u = s.session u :=
    fun u hu => step_session_of_ne hstep hu
  rw [hsess]
  constructor
  · intro hafter
    have hout := h.outline (t := t)
    rw [hsess] at hout
    obtain ⟨x, hx, hid⟩ := hout.exists_row token rfl
    refine ⟨x, hx, hid, ?_⟩
    by_contra hrevoked
    have hrow : Revoked s.committed token.id := ⟨x, hx, hid, Bool.of_not_eq_false hrevoked⟩
    obtain ⟨u, token', response', hu, hsame⟩ := h.revoked t token (by rw [hsess]; rfl) hrow
    have hut : u = t :=
      hafter u t token' token response' response (returned_step hstep hu) hreturned hsame
    rw [hut, hsess] at hu
    cases hu
  · intro hfresh
    -- nobody else has rotated the token, or its row would be revoked
    have honly : ∀ u token' response', u ≠ t → s.session u = .returned token' response' →
        token'.id ≠ token.id := by
      intro u token' response' _ hu hid
      have hrevoked := revoked_of_returned h hu
      rw [hid] at hrevoked
      exact not_revoked_of_unrevoked h.holds.1 hfresh hrevoked
    intro u v token₁ token₂ response₁ response₂ hu hv hid
    by_cases hut : u = t <;> by_cases hvt : v = t
    · rw [hut, hvt]
    · subst hut
      rw [hother v hvt] at hv
      obtain ⟨rfl, -⟩ := RefreshSession.returned.inj (hreturned.symm.trans hu)
      exact absurd hid.symm (honly v token₂ response₂ hvt hv)
    · subst hvt
      rw [hother u hut] at hu
      obtain ⟨rfl, -⟩ := RefreshSession.returned.inj (hreturned.symm.trans hv)
      exact absurd hid (honly u token₁ response₁ hut hu)
    · rw [hother u hut] at hu
      rw [hother v hvt] at hv
      exact hsingle u v token₁ token₂ response₁ response₂ hu hv hid

/-- Statements and rollbacks give out nothing. -/
theorem singleUse_quiet {l : RefreshLabel Tx} (hsingle : SingleUse s)
    (hstep : step (refreshProgram cfg) s l = some s') (hl : ∀ t, l ≠ .commit t) :
    SingleUse s' := by
  have hback : ∀ u token response, s'.session u = .returned token response →
      s.session u = .returned token response := by
    intro u token response hu
    rcases step_session_cases hstep u with hsame | ⟨a, -, hm⟩ | ⟨hcommit, -⟩ | ⟨-, habort⟩
    · exact hsame.symm.trans hu
    · rw [hu] at hm
      rcases refreshStmt_cases hm with ⟨_, heq⟩ | ⟨_, _, _, -, heq⟩ | ⟨_, -, heq⟩ |
        ⟨_, _, -, heq⟩ | ⟨_, _, _, _, -, -, -, heq⟩ <;> cases heq
    · exact absurd hcommit (hl u)
    · rw [habort] at hu
      cases hsess : s.session u <;> rw [hsess] at hu <;> first | exact hu | cases hu
  intro u v token token' response response' hu hv hid
  exact hsingle u v token token' response response' (hback u _ _ hu) (hback v _ _ hv) hid

omit [DecidableEq Tx] in
theorem refreshInv_start {db : Db} (h : UniqueIds db) :
    RefreshInv (start db .idle : RefreshState Tx) where
  holds := holds_start h (refreshOutline_of_idle db ∅)
  revoked := fun _ _ hpending => by cases hpending

/-- In every interleaving of refresh requests each token is rotated at most once,
exactly when every session that commits finds the token it revokes unrevoked. -/
theorem singleUse_throughout_iff (cfg : Config) {db : Db} (h : UniqueIds db)
    (ls : List (RefreshLabel Tx)) :
    Throughout (step (refreshProgram cfg)) SingleUse (start db .idle) ls ↔
      Along (step (refreshProgram cfg)) (fun s l _ => AtCommit StillUnrevoked s l)
        (start db .idle) ls := by
  have hstart : SingleUse (start db .idle : RefreshState Tx) :=
    fun _ _ _ _ _ _ hu => by cases hu
  rw [throughout_atCommit_iff (I := RefreshInv) (C := StillUnrevoked)
    (fun _ _ _ hinv _ hstep _ => refreshInv_step hinv hstep)
    (fun _ _ _ _ hsingle hstep hl => singleUse_quiet hsingle hstep hl)
    (fun _ _ _ hinv hsingle hstep => singleUse_commit_iff hinv hsingle hstep)
    (refreshInv_start h) ls]
  exact and_iff_right hstart

omit [DecidableEq Tx] in
/-- A rotation that gives out a new token. -/
theorem rotateRefreshToken_eq_some {db db' : Db} {oldToken : String} {draw : TokenDraw}
    {now : Instant} {user : User}
    (h : rotateRefreshToken cfg db oldToken draw now = some (some user, db')) :
    ∃ token, findRefreshToken cfg db oldToken now = some token ∧
      getUser db token.userId = some user ∧ user.isActive = true ∧
      tokenFree db draw.id (cfg.sha256 draw.value) = true ∧
      db' = rotated db token (refreshToken cfg user.id draw now) := by
  unfold rotateRefreshToken at h
  split at h
  · cases h
  · rename_i token hfind
    simp only at h
    split at h
    · cases h
    · rename_i owner howner
      split_ifs at h with hinactive
      · cases h
      · obtain ⟨created, hcreate, heq⟩ := Option.map_eq_some_iff.mp h
        obtain ⟨howner', rfl⟩ := Prod.mk.inj heq
        obtain rfl := Option.some.inj howner'
        unfold createRefreshToken at hcreate
        split_ifs at hcreate with hfree
        rw [tokenFree_revokeToken] at hfree
        exact ⟨token, hfind, howner, by simpa using hinactive, hfree,
          (Option.some.inj hcreate).symm⟩

/-- The statements of a request that is alone do what `refresh` does. -/
theorem exec_refresh {t : Tx} (halone : Alone s t) (hidle : s.session t = .idle)
    {oldToken : String} {draw : TokenDraw} {now : Instant} {response : TokenResponse} {db' : Db}
    (h : refresh cfg s.committed oldToken draw now = (.ok response, db')) :
    ∃ s', exec (step (refreshProgram cfg)) s
        [.stmt t (.selectToken oldToken now), .stmt t .revoke, .stmt t .selectUser,
         .stmt t (.insert draw now), .commit t] = some s' ∧
      s'.committed = db' ∧ ∃ token, s'.session t = .returned token response := by
  unfold refresh at h
  split at h
  · cases h
  · cases h
  · rename_i user db'' hrotate
    obtain ⟨hresponse, rfl⟩ := Prod.mk.inj h
    obtain rfl := Except.ok.inj hresponse
    obtain ⟨token, hfind, huser, hactive, hfree, rfl⟩ := rotateRefreshToken_eq_some hrotate
    have hrun : exec (refreshStmt cfg s.committed) (s.session t)
        [.selectToken oldToken now, .revoke, .selectUser, .insert draw now] =
        some (.ready token (refreshToken cfg user.id draw now)
          (tokenResponse cfg user draw now)) := by
      rw [hidle]
      simp [exec, refreshStmt, hfind, huser, hactive, hfree]
    obtain ⟨s', hs', hdb, hm⟩ := halone.exec_commit (P := refreshProgram cfg) hrun rfl
    exact ⟨s', hs', hdb, token, hm⟩

/-- SHA-256 of the three tokens of the example. -/
def rotationConfig : Config where
  verifyPassword _ _ := false
  sha256 text :=
    if text = "tk-a" then "a931e5ac52fa60c906318bd3c09f955f4ce0cf8a6de46fa63055bd15b0ff9095"
    else if text = "tk-b" then "7c61b65725e750f2c1eb13118494e6c0128e5fc4b5884ebabe9b122134cdc1a0"
    else "ae0b4ae39f40ac62f114514dfa6d11339de87b277ceb75ad4b608d7672bbbb9f"

/-- One user with one refresh token. -/
def loggedIn : Db :=
  { users := [{ id := 3, email := "ann@firm.test", passwordHash := "$2b$12$", firstName := "Ann"
                lastName := "Lee" }]
    tokens := [{ id := 10, userId := 3, expiresAt := 1000
                 tokenHash := "a931e5ac52fa60c906318bd3c09f955f4ce0cf8a6de46fa63055bd15b0ff9095" }]
    providers := [], ssoSessions := [] }

theorem uniqueIds_loggedIn : UniqueIds loggedIn :=
  List.nodup_singleton 10

/-- Two requests with one token. Both read it before either commits. -/
def replayed : List (RefreshLabel ℕ) :=
  [.stmt 0 (.selectToken "tk-a" 5), .stmt 1 (.selectToken "tk-a" 6),
   .stmt 0 .revoke, .stmt 0 .selectUser, .stmt 0 (.insert ⟨11, "tk-b"⟩ 7), .commit 0,
   .stmt 1 .revoke, .stmt 1 .selectUser, .stmt 1 (.insert ⟨12, "tk-c"⟩ 8), .commit 1]

theorem singleUse_throughout_replayed :
    Throughout (step (refreshProgram rotationConfig)) SingleUse (start loggedIn .idle) replayed ↔
      Along (step (refreshProgram rotationConfig)) (fun s l _ => AtCommit StillUnrevoked s l)
        (start loggedIn .idle) replayed :=
  singleUse_throughout_iff rotationConfig uniqueIds_loggedIn replayed

/-- Both requests get a new pair. -/
theorem not_singleUse_replayed :
    ¬Throughout (step (refreshProgram rotationConfig)) SingleUse (start loggedIn .idle)
      replayed := by
  intro h
  have hlast := throughout_iff_prefix.mp h replayed [] _ rfl rfl
  have hsame : (0 : ℕ) = 1 := hlast 0 1 _ _ _ _ rfl rfl rfl
  cases hsame

end LegalForge.Auth
