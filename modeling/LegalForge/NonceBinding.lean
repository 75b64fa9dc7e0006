import LegalForge.SsoStateReuse

/-! Whether an id token is accepted only in the login that it was minted for, over every
interleaving of logins and callbacks. -/
namespace LegalForge.Sso
open Auth Transition ReadCommitted

variable {Tx : Type*}

/-- A column or a claim, as `claims.get` and the loaded row give it. -/
def nonceValue : Option String → Json
  | none => .null
  | some nonce => .str nonce

/-- If the callback has used the claims of an id token, its nonce is the one of the row. -/
def NonceMatches (c : Consumption) : Prop :=
  ∀ reply, c.reply = some reply → reply.idTokenClaims ≠ [] →
    (reply.idTokenClaims.lookup "nonce").getD .null = nonceValue c.session.nonce

/-- No callback has logged a user in by an id token that was minted for another login. -/
def NonceBound (s : SsoState Tx) : Prop :=
  ∀ t c response, s.session t = .responded (some c) (.ok response) → NonceMatches c

/-- A callback that has flushed everything has been given a token for its own login. -/
def MintedForLogin (_ : SsoDb) : SsoRequest → Prop
  | .callback c (.ready _ _ _ _) => NonceMatches c
  | _ => True

/-! The nonce of a token takes no part in a callback. -/

def withoutNonce (claims : List (String × Json)) : List (String × Json) :=
  claims.filter (fun field => field.1 ≠ "nonce")

theorem lookup_withoutNonce {key : String} (hkey : key ≠ "nonce") (claims : List (String × Json)) :
    (withoutNonce claims).lookup key = claims.lookup key := by
  induction claims with
  | nil => rfl
  | cons field claims ih =>
    rcases field with ⟨name, value⟩
    by_cases hname : name = "nonce"
    · have hne : (key == name) = false := beq_false_of_ne (hname ▸ hkey)
      rw [withoutNonce, List.filter_cons_of_neg (by simpa using hname), List.lookup_cons, hne]
      exact ih
    · rw [withoutNonce, List.filter_cons_of_pos (by simpa using hname), List.lookup_cons,
        List.lookup_cons]
      rw [← ih]
      rfl

theorem withoutNonce_updateFields (base new : List (String × Json)) :
    withoutNonce (updateFields base new) =
      updateFields (withoutNonce base) (withoutNonce new) := by
  have hbase : (base.map fun field => (field.1, (new.lookup field.1).getD field.2)).filter
      (fun field => field.1 ≠ "nonce") =
      (withoutNonce base).map fun field =>
        (field.1, ((withoutNonce new).lookup field.1).getD field.2) := by
    rw [List.filter_map]
    refine List.map_congr_left fun field hfield => ?_
    have hkey : field.1 ≠ "nonce" := of_decide_eq_true (List.mem_filter.mp hfield).2
    rw [lookup_withoutNonce hkey]
  have hnew : (new.filter fun field => (base.lookup field.1).isNone).filter
      (fun field => field.1 ≠ "nonce") =
      (withoutNonce new).filter fun field => ((withoutNonce base).lookup field.1).isNone := by
    rw [List.filter_comm]
    refine List.filter_congr fun field hfield => ?_
    have hkey : field.1 ≠ "nonce" := of_decide_eq_true (List.mem_filter.mp hfield).2
    rw [lookup_withoutNonce hkey]
  rw [updateFields, updateFields, withoutNonce, List.filter_append, hbase, hnew]

def IdpReply.withoutNonce (reply : IdpReply) : IdpReply :=
  { reply with
    idTokenClaims := Sso.withoutNonce reply.idTokenClaims
    userinfo := reply.userinfo.map Sso.withoutNonce }

def Identity.withoutNonce (who : Identity) : Identity :=
  { who with claims := Sso.withoutNonce who.claims }

theorem ssoClaims_withoutNonce {provider : SSOProvider} {reply : IdpReply}
    (hemail : textOr provider.emailClaim "email" ≠ "nonce") :
    ssoClaims provider reply.withoutNonce = withoutNonce (ssoClaims provider reply) := by
  have hfound : (reply.withoutNonce.idTokenClaims.lookup (textOr provider.emailClaim "email")) =
      reply.idTokenClaims.lookup (textOr provider.emailClaim "email") :=
    lookup_withoutNonce hemail reply.idTokenClaims
  have huserinfo : reply.withoutNonce.userinfo.getD [] = withoutNonce (reply.userinfo.getD []) := by
    unfold IdpReply.withoutNonce
    cases reply.userinfo <;> rfl
  have haccess : reply.withoutNonce.hasAccessToken = reply.hasAccessToken := rfl
  simp only [ssoClaims, hfound, huserinfo, haccess]
  split_ifs
  · exact (withoutNonce_updateFields _ _).symm
  · rfl

/-- Whom the provider has authenticated does not depend on a nonce. -/
theorem ssoIdentity_withoutNonce {db : Db} {session : SSOSession} {reply : Option IdpReply}
    (hclaims : ∀ provider ∈ db.providers, textOr provider.emailClaim "email" ≠ "nonce" ∧
      textOr provider.nameClaim "name" ≠ "nonce") :
    ssoIdentity db session (reply.map IdpReply.withoutNonce) =
      (ssoIdentity db session reply).map Identity.withoutNonce := by
  unfold ssoIdentity
  split
  · rfl
  · rename_i provider hfind
    obtain ⟨hemail, hname⟩ := hclaims provider (Table.mem_of_find hfind)
    split_ifs
    · rfl
    · cases reply with
      | none => rfl
      | some reply =>
        have hsub : "sub" ≠ "nonce" := by decide
        simp only [Option.map_some, ssoClaims_withoutNonce hemail, lookup_withoutNonce hemail,
          lookup_withoutNonce hname, lookup_withoutNonce hsub]
        split_ifs
        · rfl
        · split <;> rfl

theorem mappedRole_withoutNonce (provider : SSOProvider) (claims : List (String × Json)) :
    mappedRole provider (withoutNonce claims) = mappedRole provider claims := by
  have hgroups : groupsOf (withoutNonce claims) = groupsOf claims := by
    rw [groupsOf, groupsOf, lookup_withoutNonce (by decide)]
  rw [mappedRole, mappedRole, hgroups]

def NewSession.withoutNonce (row : NewSession) : NewSession :=
  { row with
    idTokenClaims := match row.idTokenClaims with
      | some (.obj claims) => some (.obj (Sso.withoutNonce claims))
      | other => other }

def Progress.withoutNonce : Progress → Progress
  | .identified who => .identified who.withoutNonce
  | .userRead who user => .userRead who.withoutNonce user
  | .userStored who write => .userStored who.withoutNonce write
  | .sessionStored write row => .sessionStored write row.withoutNonce
  | .ready write row token response => .ready write row.withoutNonce token response
  | progress => progress

def SsoRequest.withoutNonce : SsoRequest → SsoRequest
  | .callback c progress => .callback c progress.withoutNonce
  | request => request

theorem storeUser_withoutNonce (db : SsoDb) (who : Identity) (draw : Draw) (user : Option User) :
    storeUser db who.withoutNonce draw user = (storeUser db who draw user).withoutNonce := by
  cases user with
  | some user =>
    have hrole : applyRoleMapping user who.provider (withoutNonce who.claims) =
        applyRoleMapping user who.provider who.claims := by
      rw [applyRoleMapping, applyRoleMapping, mappedRole_withoutNonce]
    simp only [storeUser, Identity.withoutNonce, hrole]
    by_cases hlost : applyRoleMapping user who.provider who.claims ≠ user ∧
        getUser db.auth user.id = none
    · rw [if_pos hlost, if_pos hlost]
      rfl
    · rw [if_neg hlost, if_neg hlost]
      rfl
  | none =>
    have hrow : ∀ name, ssoUser who.provider who.email name (withoutNonce who.claims) draw =
        ssoUser who.provider who.email name who.claims draw := by
      intro name
      simp only [ssoUser, mappedRole_withoutNonce]
    simp only [storeUser, Identity.withoutNonce, hrow]
    split_ifs
    · rfl
    · split
      · rfl
      · split
        · rfl
        · split <;> rfl

theorem completedLogin_withoutNonce (who : Identity) (user : User) (draw : Draw) (now : Instant) :
    completedLogin who.withoutNonce user draw now =
      (completedLogin who user draw now).map NewSession.withoutNonce := by
  simp only [completedLogin, Identity.withoutNonce, Option.map_map]
  rfl

/-- Neither does what a later statement does. -/
theorem callbackStmt_withoutNonce {cfg : SsoConfig} {db : SsoDb} {c : Consumption}
    {progress : Progress} {a : SsoStatement} (hexchanged : progress ≠ .consumed) :
    callbackStmt cfg db c progress.withoutNonce a =
      (callbackStmt cfg db c progress a).map SsoRequest.withoutNonce := by
  cases progress with
  | consumed => exact absurd rfl hexchanged
  | identified who =>
    cases a with
    | selectUser =>
      simp only [callbackStmt, Progress.withoutNonce, Identity.withoutNonce]
      split_ifs <;> rfl
    | _ => rfl
  | userRead who user =>
    cases a with
    | flushUser draw =>
      simp only [callbackStmt, Progress.withoutNonce, storeUser_withoutNonce]
      rfl
    | _ => rfl
  | userStored who write =>
    cases a with
    | flushSession draw now =>
      simp only [callbackStmt, Progress.withoutNonce, completedLogin_withoutNonce]
      cases completedLogin who write.user draw now with
      | none => rfl
      | some row =>
        have hid : row.withoutNonce.id = row.id := rfl
        have hstate : row.withoutNonce.state = row.state := rfl
        simp only [Option.map_some, hid, hstate]
        split_ifs <;> rfl
    | _ => rfl
  | sessionStored write row =>
    cases a with
    | flushToken draw now =>
      simp only [callbackStmt, Progress.withoutNonce]
      split_ifs <;> rfl
    | _ => rfl
  | ready write row token response => rfl
  | failed failure => rfl
  | aborted => rfl

/-! Which tokens are accepted over a run. -/

/-- A login has been started, or a user has been logged in. -/
def succeeded : SsoRequest → Bool
  | .initiated _ _ => true
  | .responded _ (.ok _) => true
  | _ => false

section
variable {cfg : SsoConfig} {db db' : SsoDb} {m m' : SsoRequest} {a : SsoStatement}

/-- No statement is the answer. -/
theorem succeeded_ssoStmt (h : ssoStmt cfg db m a = some m') : succeeded m' = false := by
  rcases ssoStmt_cases h with ⟨state, now, -, -, rfl⟩ | ⟨_, _, _, _, -, rfl, -⟩ |
    ⟨_, rfl⟩ | ⟨_, _, rfl⟩ | ⟨_, rfl⟩
  · rcases consumeState_cases db state now with hstate | ⟨_, -, hstate | ⟨-, hstate⟩⟩
    · rw [hstate]
      rfl
    · rw [hstate]
      rfl
    · rw [hstate]
      rfl
  · rfl
  · rfl
  · rfl
  · rfl

/-- A rollback does not make a request succeed. -/
theorem succeeded_of_abortSso (hm' : succeeded m' = true) (h : abortSso m = m') : m = m' := by
  subst h
  unfold abortSso at hm' ⊢
  split at hm'
  · cases hm'
  · cases hm'
  · cases hm'
  · cases hm'
  · cases hm'
  · cases hm'
  · rfl

/-- A user is logged in by the commit of a callback that has flushed everything. -/
theorem publishSso_ok {c : Consumption} {response : SignedIn}
    (h : publishSso db m = some (db', .responded (some c) (.ok response))) :
    ∃ write row token, m = .callback c (.ready write row token response) := by
  unfold publishSso at h
  split at h
  · cases h
  · cases h
  · cases h
  · cases h
  · rename_i d write row token response'
    obtain ⟨-, hout⟩ := Prod.mk.inj (Option.some.inj h)
    obtain ⟨hc, hresponse⟩ := SsoRequest.responded.inj hout
    obtain rfl := Option.some.inj hc
    obtain rfl := Except.ok.inj hresponse
    exact ⟨write, row, token, rfl⟩
  · cases h
  · cases h

/-- A login is answered by the commit of its row. -/
theorem publishSso_initiated {row : StoredSession} {login : SSOLoginInitiateResponse}
    (h : publishSso db m = some (db', .initiated row login)) :
    ∃ new, m = .offered new login ∧ row = ⟨new, db.stored⟩ := by
  unfold publishSso at h
  split at h
  · rename_i new login'
    obtain ⟨-, hout⟩ := Prod.mk.inj (Option.some.inj h)
    obtain ⟨rfl, rfl⟩ := SsoRequest.initiated.inj hout
    exact ⟨new, rfl, rfl⟩
  · cases h
  · cases h
  · cases h
  · cases h
  · cases h
  · cases h

end

variable [DecidableEq Tx] {cfg : SsoConfig} {s s' : SsoState Tx}

/-- A request that has succeeded after a step had done so before, or the step is its commit. -/
theorem succeeded_step {l : SsoLabel Tx} (h : step (ssoProgram cfg) s l = some s') {t : Tx}
    (hsucceeded : succeeded (s'.session t) = true) :
    s.session t = s'.session t ∨
      l = .commit t ∧ publishSso s.committed (s.session t) = some (s'.committed, s'.session t) := by
  rcases step_session_cases h t with hsame | ⟨a, -, hstmt⟩ | hcommit | ⟨-, habort⟩
  · exact Or.inl hsame.symm
  · have hopen := succeeded_ssoStmt hstmt
    rw [hsucceeded] at hopen
    cases hopen
  · exact Or.inr hcommit
  · exact Or.inl (succeeded_of_abortSso hsucceeded habort.symm)

/-- A user who is logged in after a step was so before, or the step is the commit. -/
theorem responded_step {l : SsoLabel Tx} (h : step (ssoProgram cfg) s l = some s') {t : Tx}
    {c : Consumption} {response : SignedIn}
    (hm : s'.session t = .responded (some c) (.ok response)) :
    s.session t = .responded (some c) (.ok response) ∨ l = .commit t ∧
      ∃ write row token, s.session t = .callback c (.ready write row token response) := by
  rcases succeeded_step h (by rw [hm]; rfl) with hsame | ⟨hl, hpub⟩
  · exact Or.inl (hsame.trans hm)
  · rw [hm] at hpub
    exact Or.inr ⟨hl, publishSso_ok hpub⟩

theorem nonceBound_commit_iff {t : Tx} (hbound : NonceBound s)
    (h : step (ssoProgram cfg) s (.commit t) = some s') :
    NonceBound s' ↔ MintedForLogin s.committed (s.session t) := by
  constructor
  · intro hafter
    unfold MintedForLogin
    split
    · rename_i c write row token response hm
      obtain ⟨db, m, hpub, rfl⟩ := step_commit_eq_some.mp h
      rw [hm] at hpub
      obtain ⟨-, hout⟩ := Prod.mk.inj (Option.some.inj hpub)
      refine hafter t c response ?_
      simp only [Function.update_self]
      exact hout.symm
    · trivial
  · intro hminted u c response hm
    rcases responded_step h hm with hold | ⟨hl, write, row, token, hready⟩
    · exact hbound u c response hold
    · obtain rfl := Label.commit.inj hl
      rw [hready] at hminted
      exact hminted

/-- A row that a login has stored is the one that a callback has consumed under its number. -/
structure RowKnown (s : SsoState Tx) (row : StoredSession) : Prop where
  older : row.serial < s.committed.stored
  stored : ∀ other ∈ s.committed.sessions, other.serial = row.serial → other = row
  consumed : ∀ t c, passed (s.session t) = some c → c.session.serial = row.serial →
    c.session = row

/-- The logins that have been started, each with its row. -/
def LoginsKnown (s : SsoState Tx) : Prop :=
  ∀ u row login, s.session u = .initiated row login → RowKnown s row

theorem rowKnown_stmt {t : Tx} {a : SsoStatement} {row : StoredSession} (hknown : RowKnown s row)
    (h : step (ssoProgram cfg) s (.stmt t a) = some s') : RowKnown s' row := by
  have hdb := step_committed_eq h nofun
  refine ⟨by rw [hdb]; exact hknown.older, by rw [hdb]; exact hknown.stored, ?_⟩
  intro u c hc hserial
  rcases step_session_cases h u with hsame | ⟨a, -, hstmt⟩ | ⟨hl, -⟩ | ⟨hl, -⟩
  · exact hknown.consumed u c (hsame ▸ hc) hserial
  · rcases ssoStmt_cases hstmt with ⟨state, now, -, -, heq⟩ |
      ⟨d, progress, e, progress', hold, hnew, hsession, -⟩ | ⟨_, heq⟩ | ⟨_, _, heq⟩ | ⟨_, heq⟩
    · rcases consumeState_cases s.committed state now with hstate |
        ⟨found, hfind, hstate | ⟨-, hstate⟩⟩
      · rw [heq, hstate] at hc
        cases hc
      · rw [heq, hstate] at hc
        cases hc
      · rw [heq, hstate] at hc
        obtain rfl := Option.some.inj hc
        exact hknown.stored found (Table.mem_of_find hfind) hserial
    · rw [hnew] at hc
      obtain rfl := Option.some.inj hc
      rw [hsession] at hserial ⊢
      exact hknown.consumed u d (by rw [hold]; rfl) hserial
    · rw [heq] at hc
      cases hc
    · rw [heq] at hc
      cases hc
    · rw [heq] at hc
      cases hc
  · cases hl
  · cases hl

theorem rowKnown_commit {t : Tx} {row : StoredSession} (hknown : RowKnown s row)
    (h : step (ssoProgram cfg) s (.commit t) = some s') : RowKnown s' row := by
  have hpassed := passed_step_end h nofun
  obtain ⟨db, m, hpub, rfl⟩ := step_commit_eq_some.mp h
  refine ⟨hknown.older.trans_le (stored_le_publish hpub), ?_, ?_⟩
  · intro other hother hserial
    rcases mem_publishSso hpub hother with hold | hnew
    · exact hknown.stored other (mem_remaining.mp hold).1 hserial
    · have := hknown.older
      omega
  · exact fun u c hc => hknown.consumed u c ((hpassed u).symm.trans hc)

theorem rowKnown_rollback {t : Tx} {row : StoredSession} (hknown : RowKnown s row)
    (h : step (ssoProgram cfg) s (.rollback t) = some s') : RowKnown s' row := by
  have hdb := step_committed_eq h nofun
  refine ⟨by rw [hdb]; exact hknown.older, by rw [hdb]; exact hknown.stored, ?_⟩
  exact fun u c hc => hknown.consumed u c ((passed_step_end h nofun u).symm.trans hc)

theorem rowKnown_step {l : SsoLabel Tx} {row : StoredSession} (hknown : RowKnown s row)
    (h : step (ssoProgram cfg) s l = some s') : RowKnown s' row := by
  cases l with
  | stmt t a => exact rowKnown_stmt hknown h
  | commit t => exact rowKnown_commit hknown h
  | rollback t => exact rowKnown_rollback hknown h

/-- A row that has just been stored is the only one with its number. -/
theorem rowKnown_new {t : Tx} {new : NewSession} {login : SSOLoginInitiateResponse}
    (hinv : Holds Numbered SsoOutline s) (hm : s.session t = .offered new login)
    (h : step (ssoProgram cfg) s (.commit t) = some s') :
    RowKnown s' ⟨new, s.committed.stored⟩ := by
  have hpassed := passed_step_end h nofun
  obtain ⟨db, m, hpub, rfl⟩ := step_commit_eq_some.mp h
  rw [hm] at hpub
  obtain ⟨rfl, -⟩ := Prod.mk.inj (Option.some.inj hpub)
  refine ⟨Nat.lt_succ_self _, ?_, ?_⟩
  · intro other hother hserial
    rcases List.mem_append.mp hother with hold | hnew
    · have := hinv.1.older other hold
      simp only at hserial
      omega
    · exact List.mem_singleton.mp hnew
  · intro u c hc hserial
    have := (hinv.2 u).older c ((hpassed u).symm.trans hc)
    simp only at hserial
    omega

/-- A login that has been answered after a step was so before, or the step is its commit. -/
theorem initiated_step {l : SsoLabel Tx} (h : step (ssoProgram cfg) s l = some s') {u : Tx}
    {row : StoredSession} {login : SSOLoginInitiateResponse}
    (hm : s'.session u = .initiated row login) :
    s.session u = .initiated row login ∨ l = .commit u ∧
      ∃ new, s.session u = .offered new login ∧ row = ⟨new, s.committed.stored⟩ := by
  rcases succeeded_step h (by rw [hm]; rfl) with hsame | ⟨hl, hpub⟩
  · exact Or.inl (hsame.trans hm)
  · rw [hm] at hpub
    exact Or.inr ⟨hl, publishSso_initiated hpub⟩

theorem loginsKnown_step {l : SsoLabel Tx} (hinv : Holds Numbered SsoOutline s)
    (hknown : LoginsKnown s) (h : step (ssoProgram cfg) s l = some s') : LoginsKnown s' := by
  intro u row login hm
  rcases initiated_step h hm with hold | ⟨rfl, new, hoffered, rfl⟩
  · exact rowKnown_step (hknown u row login hold) h
  · exact rowKnown_new hinv hoffered h

/-- In every run, the row that a callback consumes under the number of a login is the row that
the login has stored, with its state and its nonce. -/
theorem session_of_login {users : List User} {tokens : List RefreshToken}
    {providers : List LoginProvider} {rows : List NewSession} {ls : List (SsoLabel Tx)}
    (hrun : exec (step (ssoProgram cfg)) (start (ssoTables users tokens providers rows) .idle) ls =
      some s) {t u : Tx} {c : Consumption} {row : StoredSession}
    {login : SSOLoginInitiateResponse} (hlogin : s.session u = .initiated row login)
    (hc : passed (s.session t) = some c) (hserial : c.session.serial = row.serial) :
    c.session = row := by
  have hnone : LoginsKnown (start (ssoTables users tokens providers rows) .idle : SsoState Tx) :=
    fun _ _ _ h => by cases h
  have hboth := exec_invariant (I := fun s => Holds Numbered SsoOutline s ∧ LoginsKnown s)
    (fun _ _ _ hinv h => ⟨(ssoOutline cfg).holds_step hinv.1 h, loginsKnown_step hinv.1 hinv.2 h⟩)
    ⟨holds_ssoTables users tokens providers rows, hnone⟩ hrun
  exact (hboth.2 u row login hlogin).consumed t c hc hserial

/-- The state of one login comes with the token of another. -/
def foreignToken : List (SsoLabel ℕ) :=
  loginStarted 0 21 "s-1" "n-1"++loginStarted 1 22 "s-2" "n-2"++
    statePresented 2 "s-2" "n-1"++loginCompleted 2 firstDraw

/-- A user has been logged in by a token with this nonce, from a row with that one. -/
def acceptedWith (nonce stored : String) : SsoRequest → Bool
  | .responded (some c) (.ok _) =>
    c.session.nonce = some stored ∧ c.reply.any (fun reply =>
      ((reply.idTokenClaims.lookup "nonce").getD .null).isText nonce)
  | _ => false

theorem not_nonceMatches {nonce stored : String} {m : SsoRequest}
    (h : acceptedWith nonce stored m = true) (hne : nonce ≠ stored) :
    ∃ c response, m = .responded (some c) (.ok response) ∧ ¬NonceMatches c := by
  unfold acceptedWith at h
  split at h
  · rename_i c response
    refine ⟨c, response, rfl, fun hmatches => ?_⟩
    rw [decide_eq_true_eq] at h
    obtain ⟨hstored, hreply⟩ := h
    obtain ⟨reply, hreply, hnonce⟩ := (Option.any_eq_true _ _).mp hreply
    have hused : reply.idTokenClaims ≠ [] := by
      intro hnil
      rw [hnil] at hnonce
      cases hnonce
    rw [hmatches reply hreply hused, hstored] at hnonce
    exact hne (of_decide_eq_true hnonce).symm
  · cases h

end LegalForge.Sso
