import LegalForge.SsoRequests
import LegalForge.TokenRotation

/-! How often the state of a login through an identity provider gets past
`_consume_sso_state`, over every interleaving of logins and callbacks. -/
namespace LegalForge.Sso
open Auth Transition ReadCommitted

variable {Tx : Type*}

/-- What a callback has got past `_consume_sso_state` with. -/
def passed : SsoRequest → Option Consumption
  | .callback c _ => some c
  | .responded c _ => c
  | .brokenOff c => c
  | _ => none

/-- The callback has ended. -/
def answered : SsoRequest → Bool
  | .responded _ _ => true
  | .brokenOff _ => true
  | _ => false

/-- At most one callback gets past `_consume_sso_state` with a stored state, the state is gone
once that callback has ended, and no callback gets past with an expired one. A state that is
drawn again is another row. -/
structure StateSingleUse (s : SsoState Tx) : Prop where
  once : ∀ t u c d, passed (s.session t) = some c → passed (s.session u) = some d →
    c.session.serial = d.session.serial → t = u
  gone : ∀ t c, passed (s.session t) = some c → answered (s.session t) = true →
    ∀ row ∈ s.committed.sessions, row.serial ≠ c.session.serial
  unexpired : ∀ t c, passed (s.session t) = some c → isExpired c.session c.time = false

/-- A callback that has got past `_consume_sso_state` is not rolled back. -/
def Kept (s : SsoState Tx) : SsoLabel Tx → Prop
  | .rollback t => ∀ c progress, s.session t ≠ .callback c progress
  | .commit _ => True
  | .stmt _ _ => True

/-- The row that a callback has locked to delete it. -/
def lockedRow : SsoRequest → Option StoredSession
  | .expired row => some row
  | .callback c _ => some c.session
  | _ => none

/-- The rows of `sso_sessions` without the one that the session deletes. -/
def remaining (db : SsoDb) (m : SsoRequest) : List StoredSession :=
  match lockedRow m with
  | none => db.sessions
  | some row => Table.remove (fun s => s.state) row.state db.sessions

section
variable {cfg : SsoConfig} {db db' : SsoDb} {m m' : SsoRequest} {a : SsoStatement}

theorem mem_remaining {row : StoredSession} : row ∈ remaining db m ↔
    row ∈ db.sessions ∧ ∀ locked, lockedRow m = some locked → row.state ≠ locked.state := by
  unfold remaining
  cases lockedRow m with
  | none => simp
  | some locked => simp [Table.remove]

theorem remaining_sublist (db : SsoDb) (m : SsoRequest) :
    (remaining db m).Sublist db.sessions := by
  unfold remaining
  cases lockedRow m with
  | none => exact List.Sublist.refl _
  | some locked => exact List.filter_sublist

/-- A commit deletes the locked row and may add a new one. -/
theorem publishSso_cases (h : publishSso db m = some (db', m')) :
    passed m' = passed m ∧ lockedRow m' = none ∧ ∃ added : Option NewSession,
      db'.sessions = remaining db m++added.toList.map (fun row => ⟨row, db.stored⟩) ∧
      db'.stored = db.stored+added.toList.length := by
  unfold publishSso at h
  split at h
  · rename_i row login
    obtain ⟨rfl, rfl⟩ := Prod.mk.inj (Option.some.inj h)
    exact ⟨rfl, rfl, some row, rfl, rfl⟩
  · obtain ⟨rfl, rfl⟩ := Prod.mk.inj (Option.some.inj h)
    exact ⟨rfl, rfl, none, (List.append_nil _).symm, rfl⟩
  · obtain ⟨rfl, rfl⟩ := Prod.mk.inj (Option.some.inj h)
    exact ⟨rfl, rfl, none, (List.append_nil _).symm, rfl⟩
  · obtain ⟨rfl, rfl⟩ := Prod.mk.inj (Option.some.inj h)
    exact ⟨rfl, rfl, none, (List.append_nil _).symm, rfl⟩
  · rename_i c write row token response
    obtain ⟨rfl, rfl⟩ := Prod.mk.inj (Option.some.inj h)
    exact ⟨rfl, rfl, some row, rfl, rfl⟩
  · rename_i w
    obtain ⟨rfl, rfl⟩ := Prod.mk.inj (Option.some.inj h)
    refine ⟨rfl, rfl, w.session, ?_⟩
    unfold writeOther
    cases w.session with
    | none => exact ⟨(List.append_nil _).symm, rfl⟩
    | some row => exact ⟨rfl, rfl⟩
  · cases h

/-- The statements after `_consume_sso_state` do not change what has been consumed. -/
theorem callbackStmt_cases {c : Consumption} {progress : Progress}
    (h : callbackStmt cfg db c progress a = some m') :
    ∃ d progress', m' = .callback d progress' ∧ d.session = c.session ∧ d.time = c.time := by
  unfold callbackStmt at h
  split at h
  · simp only at h
    split at h
    · exact ⟨_, _, (Option.some.inj h).symm, rfl, rfl⟩
    · exact ⟨_, _, (Option.some.inj h).symm, rfl, rfl⟩
  · split_ifs at h
    · exact ⟨_, _, (Option.some.inj h).symm, rfl, rfl⟩
    · exact ⟨_, _, (Option.some.inj h).symm, rfl, rfl⟩
  · exact ⟨_, _, (Option.some.inj h).symm, rfl, rfl⟩
  · split at h
    · exact ⟨_, _, (Option.some.inj h).symm, rfl, rfl⟩
    · split_ifs at h
      · exact ⟨_, _, (Option.some.inj h).symm, rfl, rfl⟩
      · exact ⟨_, _, (Option.some.inj h).symm, rfl, rfl⟩
  · split_ifs at h
    · exact ⟨_, _, (Option.some.inj h).symm, rfl, rfl⟩
    · exact ⟨_, _, (Option.some.inj h).symm, rfl, rfl⟩
  · cases h

/-- The database refuses a statement of a callback: a text has a zero byte, the loaded user is
gone, or a row does not fit its columns or has the key of another one. -/
def Refused (cfg : SsoConfig) (db : SsoDb) (c : Consumption) : Progress → SsoStatement → Prop
  | .identified who, .selectUser => '\x00' ∈ who.email.toList
  | .userRead who (some user), .flushUser _ =>
    applyRoleMapping user who.provider who.claims ≠ user ∧ getUser db.auth user.id = none
  | .userRead who none, .flushUser draw =>
    who.provider.autoCreateUsers = true ∧ ∃ name, nameText who.fullName = some name ∧
      ∀ user, ssoUser who.provider who.email name who.claims draw = some user →
        insertUser db.auth user = none
  | .userStored who write, .flushSession draw now =>
    ∀ row, completedLogin who write.user draw now = some row →
      sessionFree (Table.remove (fun s => s.state) c.session.state db.sessions) row.id
        row.state = false
  | .sessionStored _ _, .flushToken draw _ =>
    tokenFree db.auth draw.token.id (cfg.sha256 draw.token.value) = false
  | _, _ => False

theorem storeUser_eq_aborted_iff {who : Identity} {draw : Draw} {c : Consumption}
    {user : Option User} :
    storeUser db who draw user = .aborted ↔ Refused cfg db c (.userRead who user) (.flushUser draw) := by
  cases user with
  | some user =>
    simp only [storeUser, Refused]
    split_ifs with h
    · exact iff_of_true rfl h
    · exact iff_of_false nofun h
  | none =>
    simp only [storeUser]
    split_ifs with hauto
    · simp [Refused, Bool.not_eq_true' _ |>.mp hauto]
    · have hcreate : who.provider.autoCreateUsers = true := by simpa using hauto
      split
      · rename_i hname
        simp [Refused, hname]
      · rename_i name hname
        split
        · rename_i hrow
          simp [Refused, hcreate, hname, hrow]
        · rename_i user hrow
          cases hfree : insertUser db.auth user <;> simp [Refused, hcreate, hname, hrow, hfree]

/-- A callback loses its transaction exactly when the database refuses a statement. -/
theorem callbackStmt_aborted_iff {c : Consumption} {progress : Progress}
    (h : callbackStmt cfg db c progress a = some m') :
    (∃ d, m' = .callback d .aborted) ↔ Refused cfg db c progress a := by
  unfold callbackStmt at h
  split at h
  · simp only at h
    split at h <;> obtain rfl := Option.some.inj h <;> simp [Refused]
  · split_ifs at h with hzero
    · obtain rfl := Option.some.inj h
      exact iff_of_true ⟨_, rfl⟩ hzero
    · obtain rfl := Option.some.inj h
      refine iff_of_false ?_ hzero
      rintro ⟨_, ⟨⟩⟩
  · obtain rfl := Option.some.inj h
    rw [← storeUser_eq_aborted_iff]
    simp
  · rename_i who write draw now
    split at h
    · rename_i hnone
      obtain rfl := Option.some.inj h
      simp [Refused, hnone]
    · rename_i row hrow
      split_ifs at h with hfree
      · obtain rfl := Option.some.inj h
        simp [Refused, hrow, hfree]
      · obtain rfl := Option.some.inj h
        simp [Refused, hrow, hfree]
  · split_ifs at h with hfree
    · obtain rfl := Option.some.inj h
      simp [Refused, hfree]
    · obtain rfl := Option.some.inj h
      simp [Refused, hfree]
  · cases h

/-- What one statement makes of a request: it consumes a state, it leaves what has been
consumed, or it begins a request of another kind. -/
theorem ssoStmt_cases (h : ssoStmt cfg db m a = some m') :
    (∃ state now, m = .idle ∧ a = .consume state now ∧ m' = consumeState db state now) ∨
    (∃ c progress d progress', m = .callback c progress ∧ m' = .callback d progress' ∧
      d.session = c.session ∧ d.time = c.time) ∨
    (∃ error, m' = .raised error) ∨ (∃ row login, m' = .offered row login) ∨
    (∃ w, m' = .writing w) := by
  unfold ssoStmt at h
  split at h
  · split at h
    · exact Or.inr (Or.inr (Or.inl ⟨_, (Option.some.inj h).symm⟩))
    · exact Or.inr (Or.inr (Or.inr (Or.inl ⟨_, _, (Option.some.inj h).symm⟩)))
  · rename_i state now
    exact Or.inl ⟨state, now, rfl, rfl, (Option.some.inj h).symm⟩
  · exact Or.inr (Or.inr (Or.inr (Or.inr ⟨_, (Option.some.inj h).symm⟩)))
  · rename_i c progress
    obtain ⟨d, progress', rfl, hsession, htime⟩ := callbackStmt_cases h
    exact Or.inr (Or.inl ⟨c, progress, d, progress', rfl, rfl, hsession, htime⟩)
  · cases h

/-- A state is unknown, or the callback has locked its row. -/
theorem consumeState_cases (db : SsoDb) (state : String) (now : Instant) :
    consumeState db state now = .unknown ∨
    ∃ row, findState db state = some row ∧
      (consumeState db state now = .expired row ∨
        isExpired row now = false ∧
          consumeState db state now = .callback { session := row, time := now } .consumed) := by
  unfold consumeState
  split
  · exact Or.inl rfl
  · rename_i row hfind
    refine Or.inr ⟨row, hfind, ?_⟩
    split_ifs with hexpired
    · exact Or.inl rfl
    · exact Or.inr ⟨Bool.eq_false_iff.mpr hexpired, rfl⟩

theorem passed_abortSso (m : SsoRequest) : passed (abortSso m) = passed m := by
  unfold abortSso
  split <;> rfl

theorem lockedRow_abortSso (m : SsoRequest) : lockedRow (abortSso m) = none := by
  unfold abortSso
  split
  · rfl
  · rfl
  · rfl
  · rfl
  · rfl
  · rfl
  · rename_i hexpired _ hcallback _
    unfold lockedRow
    split
    · exact absurd rfl (hexpired _)
    · exact absurd rfl (hcallback _ _)
    · rfl

/-! What the sessions rely on. -/

/-- The rows are numbered by the order in which they have been stored. -/
structure Numbered (db : SsoDb) : Prop where
  nodup : (db.sessions.map fun s => s.serial).Nodup
  older : ∀ row ∈ db.sessions, row.serial < db.stored

/-- A locked row stays, and a consumed one is older than any row to come. -/
structure SsoOutline (db : SsoDb) (rows : Set SsoRow) (m : SsoRequest) : Prop where
  locked : ∀ row, lockedRow m = some row → row ∈ db.sessions ∧ .state row.state ∈ rows
  older : ∀ c, passed m = some c → c.session.serial < db.stored
  unexpired : ∀ c, passed m = some c → isExpired c.session c.time = false

theorem Numbered.eq_of_serial (h : Numbered db) {row other : StoredSession}
    (hrow : row ∈ db.sessions) (hother : other ∈ db.sessions)
    (hserial : row.serial = other.serial) : row = other :=
  List.inj_on_of_nodup_map h.nodup hrow hother hserial

/-- The rows after a commit are rows from before that are not deleted, and a new one. -/
theorem mem_publishSso (h : publishSso db m = some (db', m')) {row : StoredSession}
    (hrow : row ∈ db'.sessions) : row ∈ remaining db m ∨ row.serial = db.stored := by
  obtain ⟨-, -, added, hsessions, -⟩ := publishSso_cases h
  rw [hsessions] at hrow
  rcases List.mem_append.mp hrow with hold | hnew
  · exact Or.inl hold
  · obtain ⟨new, -, rfl⟩ := List.mem_map.mp hnew
    exact Or.inr rfl

theorem Numbered.publish (hdb : Numbered db) (h : publishSso db m = some (db', m')) :
    Numbered db' := by
  obtain ⟨-, -, added, hsessions, hstored⟩ := publishSso_cases h
  have hsub := remaining_sublist db m
  constructor
  · rw [hsessions, List.map_append, List.nodup_append]
    refine ⟨hdb.nodup.sublist (hsub.map _), ?_, ?_⟩
    · cases added <;> simp
    · intro i hi j hj
      obtain ⟨row, hrow, rfl⟩ := List.mem_map.mp hi
      obtain ⟨new, hnew, rfl⟩ := List.mem_map.mp hj
      obtain ⟨_, -, rfl⟩ := List.mem_map.mp hnew
      exact Nat.ne_of_lt (hdb.older row (hsub.subset hrow))
  · intro row hrow
    rw [hsessions] at hrow
    rcases List.mem_append.mp hrow with hold | hnew
    · have := hdb.older row (hsub.subset hold)
      omega
    · obtain ⟨new, hmem, rfl⟩ := List.mem_map.mp hnew
      have := List.length_pos_of_mem hmem
      simp only
      omega

theorem stored_le_publish (h : publishSso db m = some (db', m')) : db.stored ≤ db'.stored := by
  obtain ⟨-, -, added, -, hstored⟩ := publishSso_cases h
  omega

/-- A session without a row relies on nothing. -/
theorem ssoOutline_of_none {rows : Set SsoRow} (hlocked : lockedRow m = none)
    (hpassed : passed m = none) : SsoOutline db rows m where
  locked := fun _ h => absurd (hlocked.symm.trans h) nofun
  older := fun _ h => absurd (hpassed.symm.trans h) nofun
  unexpired := fun _ h => absurd (hpassed.symm.trans h) nofun

/-- A callback that reads its row has the lock of the state. -/
theorem ssoOutline_consume {rows : Set SsoRow} {state : String} {now : Instant}
    (hdb : Numbered db) : SsoOutline db
      (rows ∪ {r | r ∈ ssoLocks cfg db .idle (.consume state now)}) (consumeState db state now) := by
  rcases consumeState_cases db state now with heq | ⟨row, hfind, heq⟩
  · rw [heq]
    exact ssoOutline_of_none rfl rfl
  · have hmem : row ∈ db.sessions := Table.mem_of_find hfind
    have hlock : SsoRow.state row.state ∈
        rows ∪ {r | r ∈ ssoLocks cfg db .idle (.consume state now)} := by
      refine Or.inr ?_
      simp [ssoLocks, hfind]
    have hlocked : ∀ locked, some row = some locked →
        locked ∈ db.sessions ∧ SsoRow.state locked.state ∈
          rows ∪ {r | r ∈ ssoLocks cfg db .idle (.consume state now)} := by
      intro locked hsome
      obtain rfl := Option.some.inj hsome
      exact ⟨hmem, hlock⟩
    rcases heq with heq | ⟨hfresh, heq⟩
    · rw [heq]
      exact ⟨hlocked, nofun, nofun⟩
    · rw [heq]
      refine ⟨hlocked, ?_, ?_⟩
      · rintro c hc
        obtain rfl := Option.some.inj hc
        exact hdb.older row hmem
      · rintro c hc
        obtain rfl := Option.some.inj hc
        exact hfresh

theorem ssoOutline_stmt {rows : Set SsoRow} (hdb : Numbered db) (hm : SsoOutline db rows m)
    (h : ssoStmt cfg db m a = some m') :
    SsoOutline db (rows ∪ {r | r ∈ ssoLocks cfg db m a}) m' := by
  rcases ssoStmt_cases h with ⟨state, now, rfl, rfl, rfl⟩ |
    ⟨c, progress, d, progress', rfl, rfl, hsession, htime⟩ | ⟨_, rfl⟩ | ⟨_, _, rfl⟩ | ⟨_, rfl⟩
  · exact ssoOutline_consume hdb
  · refine ⟨?_, ?_, ?_⟩
    · intro row hrow
      obtain ⟨hmem, hlock⟩ := hm.locked row (by simpa [lockedRow, hsession] using hrow)
      exact ⟨hmem, Or.inl hlock⟩
    · intro e he
      obtain rfl := Option.some.inj he
      rw [hsession]
      exact hm.older c rfl
    · intro e he
      obtain rfl := Option.some.inj he
      rw [hsession, htime]
      exact hm.unexpired c rfl
  · exact ssoOutline_of_none rfl rfl
  · exact ssoOutline_of_none rfl rfl
  · exact ssoOutline_of_none rfl rfl

/-- The program keeps the numbering, and no session deletes a row that another has locked. -/
theorem ssoOutline (cfg : SsoConfig) : Outline (ssoProgram cfg) Numbered SsoOutline where
  stmt := fun hdb hm h => ssoOutline_stmt hdb hm h
  commit := by
    intro db rows m db' m' hdb hm h
    obtain ⟨hpassed, hlocked, -⟩ := publishSso_cases h
    refine ⟨hdb.publish h, ?_, ?_, ?_⟩
    · rw [hlocked]
      exact nofun
    · rw [hpassed]
      exact fun c hc => (hm.older c hc).trans_le (stored_le_publish h)
    · rw [hpassed]
      exact hm.unexpired
  abort := by
    intro db rows m _ hm
    refine ⟨?_, ?_, ?_⟩
    · intro row hrow
      exact absurd ((lockedRow_abortSso m).symm.trans hrow) nofun
    · exact fun c hc => hm.older c ((passed_abortSso m).symm.trans hc)
    · exact fun c hc => hm.unexpired c ((passed_abortSso m).symm.trans hc)
  stable := by
    intro db rows m db' m' rows' n hdb hm h hdisjoint hn
    refine ⟨?_, fun c hc => (hn.older c hc).trans_le (stored_le_publish h), hn.unexpired⟩
    intro row hrow
    obtain ⟨hmem, hlock⟩ := hn.locked row hrow
    obtain ⟨-, -, added, hsessions, -⟩ := publishSso_cases h
    refine ⟨?_, hlock⟩
    have hkept : row ∈ remaining db m := by
      refine mem_remaining.mpr ⟨hmem, fun other hother hstate => ?_⟩
      -- both sessions would hold the lock of the state
      have hown := (hm.locked other hother).2
      rw [← hstate] at hown
      exact Set.disjoint_left.mp hdisjoint hown hlock
    rw [hsessions]
    exact List.mem_append_left _ hkept

theorem numbered_storeSession (hdb : Numbered db) (row : NewSession) :
    Numbered (storeSession db row) :=
  hdb.publish (m := .offered row ⟨"", ""⟩) rfl

theorem numbered_ssoTables (users : List User) (tokens : List RefreshToken)
    (providers : List LoginProvider) (rows : List NewSession) :
    Numbered (ssoTables users tokens providers rows) := by
  have hempty : Numbered ⟨users, tokens, providers, [], 0⟩ := ⟨List.nodup_nil, nofun⟩
  unfold ssoTables
  generalize (⟨users, tokens, providers, [], 0⟩ : SsoDb) = db at hempty
  induction rows generalizing db with
  | nil => exact hempty
  | cons row rows ih => exact ih _ (numbered_storeSession hempty row)

end

theorem callback_of_passed {m : SsoRequest} {c : Consumption} (hpassed : passed m = some c)
    (hopen : answered m = false) : ∃ progress, m = .callback c progress := by
  unfold passed at hpassed
  split at hpassed
  · obtain rfl := Option.some.inj hpassed
    exact ⟨_, rfl⟩
  · cases hopen
  · cases hopen
  · cases hpassed

variable {cfg : SsoConfig} {s s' : SsoState Tx}

theorem holds_ssoTables (users : List User) (tokens : List RefreshToken)
    (providers : List LoginProvider) (rows : List NewSession) :
    Holds Numbered SsoOutline (start (ssoTables users tokens providers rows) .idle : SsoState Tx) :=
  holds_start (numbered_ssoTables users tokens providers rows) (ssoOutline_of_none rfl rfl)

theorem stateSingleUse_start {db : SsoDb} :
    StateSingleUse (start db .idle : SsoState Tx) where
  once := fun _ _ _ _ h => by cases h
  gone := fun _ _ h => by cases h
  unexpired := fun _ _ h => by cases h

/-- As long as a consumed row is there, the callback that has consumed it holds the lock. -/
theorem holder_of_passed (hinv : Holds Numbered SsoOutline s) (hsingle : StateSingleUse s)
    {t : Tx} {c : Consumption} {row : StoredSession} (hpassed : passed (s.session t) = some c)
    (hrow : row ∈ s.committed.sessions) (hserial : row.serial = c.session.serial) :
    s.holder (.state row.state) = some t := by
  cases hopen : answered (s.session t) with
  | true => exact absurd hserial (hsingle.gone t c hpassed hopen row hrow)
  | false =>
    obtain ⟨progress, hm⟩ := callback_of_passed hpassed hopen
    obtain ⟨hmem, hlock⟩ := (hinv.2 t).locked c.session (by rw [hm]; rfl)
    have heq : row = c.session := hinv.1.eq_of_serial hrow hmem hserial
    rw [heq]
    exact hlock

/-- A callback gets past `_consume_sso_state` with a row that no other has consumed. -/
theorem passed_stmt {t : Tx} {a : SsoStatement} {m : SsoRequest} {c : Consumption}
    (hinv : Holds Numbered SsoOutline s) (hsingle : StateSingleUse s)
    (hfree : ∀ r ∈ ssoLocks cfg s.committed (s.session t) a,
      s.holder r = none ∨ s.holder r = some t)
    (hm : ssoStmt cfg s.committed (s.session t) a = some m) (hc : passed m = some c) :
    answered m = false ∧ ∀ u d, passed (s.session u) = some d →
      d.session.serial = c.session.serial → u = t := by
  rcases ssoStmt_cases hm with ⟨state, now, hidle, rfl, rfl⟩ |
    ⟨e, progress, d, progress', hold, rfl, hsession, -⟩ | ⟨_, rfl⟩ | ⟨_, _, rfl⟩ | ⟨_, rfl⟩
  · rcases consumeState_cases s.committed state now with heq | ⟨row, hfind, heq | ⟨-, heq⟩⟩
    · rw [heq] at hc
      cases hc
    · rw [heq] at hc
      cases hc
    · rw [heq] at hc ⊢
      obtain rfl := Option.some.inj hc
      refine ⟨rfl, fun u d hd hserial => ?_⟩
      have hheld := holder_of_passed hinv hsingle hd (Table.mem_of_find hfind) hserial.symm
      have hlock : SsoRow.state row.state ∈
          ssoLocks cfg s.committed (s.session t) (.consume state now) := by
        simp [hidle, ssoLocks, hfind]
      rcases hfree _ hlock with hnone | hown
      · exact absurd (hheld.symm.trans hnone) nofun
      · exact Option.some.inj (hheld.symm.trans hown)
  · obtain rfl := Option.some.inj hc
    refine ⟨rfl, fun u d hd hserial => ?_⟩
    have hpassed : passed (s.session t) = some e := by
      rw [hold]
      rfl
    exact hsingle.once u t d e hd hpassed (hserial.trans (by rw [hsession]))
  · cases hc
  · cases hc
  · cases hc

variable [DecidableEq Tx]

theorem stateSingleUse_stmt {t : Tx} {a : SsoStatement} (hinv : Holds Numbered SsoOutline s)
    (hsingle : StateSingleUse s) (h : step (ssoProgram cfg) s (.stmt t a) = some s') :
    StateSingleUse s' := by
  have hinv' := (ssoOutline cfg).holds_step hinv h
  obtain ⟨hfree, m, hm, rfl⟩ := step_stmt_eq_some.mp h
  have hself : Function.update s.session t m t = m := Function.update_self t m s.session
  have hother : ∀ u, u ≠ t → Function.update s.session t m u = s.session u := fun u hu =>
    Function.update_of_ne hu m s.session
  refine ⟨?_, ?_, fun u c hc => (hinv'.2 u).unexpired c hc⟩
  · intro u v c d hc hd hserial
    simp only at hc hd
    -- at most one of the two requests has moved
    by_cases hu : u = t
    · subst hu
      by_cases hv : v = u
      · exact hv.symm
      · rw [hself] at hc
        rw [hother v hv] at hd
        exact absurd ((passed_stmt hinv hsingle hfree hm hc).2 v d hd hserial.symm) hv
    · rw [hother u hu] at hc
      by_cases hv : v = t
      · subst hv
        rw [hself] at hd
        exact (passed_stmt hinv hsingle hfree hm hd).2 u c hc hserial
      · rw [hother v hv] at hd
        exact hsingle.once u v c d hc hd hserial
  · intro u c hc hended
    simp only at hc hended
    by_cases hu : u = t
    · subst hu
      rw [hself] at hc hended
      rw [(passed_stmt hinv hsingle hfree hm hc).1] at hended
      cases hended
    · rw [hother u hu] at hc hended
      exact hsingle.gone u c hc hended

/-- The steps that end a request do not change what has been consumed. -/
theorem passed_step_end {l : SsoLabel Tx} (h : step (ssoProgram cfg) s l = some s')
    (hl : ∀ t a, l ≠ .stmt t a) (u : Tx) : passed (s'.session u) = passed (s.session u) := by
  rcases step_session_cases h u with hsame | ⟨a, rfl, -⟩ | ⟨-, hpub⟩ | ⟨-, habort⟩
  · rw [hsame]
  · exact absurd rfl (hl u a)
  · exact (publishSso_cases hpub).1
  · rw [habort]
    exact passed_abortSso _

/-- The row that a callback has consumed is gone once it has committed. -/
theorem stateSingleUse_commit {t : Tx} (hinv : Holds Numbered SsoOutline s)
    (hsingle : StateSingleUse s) (h : step (ssoProgram cfg) s (.commit t) = some s') :
    StateSingleUse s' := by
  have hinv' := (ssoOutline cfg).holds_step hinv h
  have hpassed := passed_step_end h nofun
  refine ⟨?_, ?_, fun u c hc => (hinv'.2 u).unexpired c hc⟩
  · intro u v c d hc hd hserial
    rw [hpassed] at hc hd
    exact hsingle.once u v c d hc hd hserial
  · intro u c hc hended row hrow hserial
    rw [hpassed] at hc
    obtain ⟨db, m, hpub, rfl⟩ := step_commit_eq_some.mp h
    rcases mem_publishSso hpub hrow with hold | hnew
    · obtain ⟨hmem, hstate⟩ := mem_remaining.mp hold
      by_cases hu : u = t
      · subst hu
        cases hopen : answered (s.session u) with
        | true => exact hsingle.gone u c hc hopen row hmem hserial
        | false =>
          obtain ⟨progress, hm⟩ := callback_of_passed hc hopen
          have hlocked : lockedRow (s.session u) = some c.session := by
            rw [hm]
            rfl
          have hthere := ((hinv.2 u).locked c.session hlocked).1
          have heq := hinv.1.eq_of_serial hmem hthere hserial
          exact hstate c.session hlocked (by rw [heq])
      · simp only [Function.update_of_ne hu] at hended
        exact hsingle.gone u c hc hended row hmem hserial
    · have := (hinv.2 u).older c hc
      omega

/-- A rollback leaves the rows, and those that the callback has consumed are there again. -/
theorem stateSingleUse_rollback_iff {t : Tx} (hinv : Holds Numbered SsoOutline s)
    (hsingle : StateSingleUse s) (h : step (ssoProgram cfg) s (.rollback t) = some s') :
    StateSingleUse s' ↔ Kept s (.rollback t) := by
  have hinv' := (ssoOutline cfg).holds_step hinv h
  have hpassed := passed_step_end h nofun
  rw [step_rollback_eq_some] at h
  constructor
  · rintro hafter c progress hm
    have hlocked : lockedRow (s.session t) = some c.session := by
      rw [hm]
      rfl
    have hthere := ((hinv.2 t).locked c.session hlocked).1
    have hc : passed (s'.session t) = some c := by
      rw [hpassed, hm]
      rfl
    have hended : answered (s'.session t) = true := by
      rw [h]
      simp only [Function.update_self, ssoProgram, hm]
      cases progress <;> rfl
    refine hafter.gone t c hc hended c.session ?_ rfl
    rw [h]
    exact hthere
  · intro hkept
    refine ⟨?_, ?_, fun u c hc => (hinv'.2 u).unexpired c hc⟩
    · intro u v c d hc hd hserial
      rw [hpassed] at hc hd
      exact hsingle.once u v c d hc hd hserial
    · intro u c hc hended row hrow
      rw [hpassed] at hc
      -- a request that is answered now was answered before, or is the one rolled back
      have hbefore : answered (s.session u) = true := by
        by_contra hopen
        obtain ⟨progress, hm⟩ := callback_of_passed hc (Bool.eq_false_iff.mpr hopen)
        by_cases hu : u = t
        · subst hu
          exact hkept c progress hm
        · rw [h] at hended
          simp only [Function.update_of_ne hu, hm] at hended
          cases hended
      rw [h] at hrow
      exact hsingle.gone u c hc hbefore row hrow

theorem stateSingleUse_step_iff {l : SsoLabel Tx} (hinv : Holds Numbered SsoOutline s)
    (hsingle : StateSingleUse s) (h : step (ssoProgram cfg) s l = some s') :
    StateSingleUse s' ↔ Kept s l := by
  cases l with
  | stmt t a => exact iff_of_true (stateSingleUse_stmt hinv hsingle h) trivial
  | commit t => exact iff_of_true (stateSingleUse_commit hinv hsingle h) trivial
  | rollback t => exact stateSingleUse_rollback_iff hinv hsingle h

/-- A state is used once, and gone after that, in every state of a run exactly when no callback
that has got past `_consume_sso_state` is rolled back. -/
theorem stateSingleUse_throughout_iff (cfg : SsoConfig) (users : List User)
    (tokens : List RefreshToken) (providers : List LoginProvider) (rows : List NewSession)
    (ls : List (SsoLabel Tx)) :
    Throughout (step (ssoProgram cfg)) StateSingleUse
        (start (ssoTables users tokens providers rows) .idle) ls ↔
      Along (step (ssoProgram cfg)) (fun s l _ => Kept s l)
        (start (ssoTables users tokens providers rows) .idle) ls := by
  have hstart : Holds Numbered SsoOutline
      (start (ssoTables users tokens providers rows) .idle : SsoState Tx) :=
    holds_ssoTables users tokens providers rows
  refine (throughout_iff_along (fun _ _ _ hinv h => (ssoOutline cfg).holds_step hinv h)
    (fun _ _ _ hinv hs h => stateSingleUse_step_iff hinv hs h) hstart ls).trans ?_
  exact and_iff_right stateSingleUse_start

/-! Someone logs in for the first time, in two windows at once. -/

def workforce : LoginProvider where
  id := 7
  tokenEndpoint := some "https://idp.test/token"
  userinfoEndpoint := none
  roleMapping := none
  samlAttributeMapping := none
  isActive := true
  isDefault := true
  clientId := some "legalforge"
  authorizationEndpoint := some "https://idp.test/authorize"
  jwksUri := some "https://idp.test/keys"

/-- A value of a query string. -/
def quoted (text : String) : String :=
  String.join (text.toList.map fun c =>
    if c = ':' then "%3A" else if c = '/' then "%2F" else if c = ' ' then "+" else c.toString)

/-- Two tokens of the provider, for the nonces that they are named after. -/
def workforceConfig : SsoConfig :=
  { rotationConfig with
    ssoRedirectUri := "http://localhost/sso/callback"
    url := fun base params =>
      some (base++"?"++String.intercalate "&" (params.map fun p => p.1++"="++quoted p.2))
    samlLogin := fun _ => .error .unexpected
    decodeJwt := fun idToken _ audience _ =>
      if audience = "legalforge" ∧ (idToken = "n-1" ∨ idToken = "n-2") then
        .ok [("sub", .str "a1"), ("email", .str "ann@firm.test"), ("name", .str "Ann Lee"),
          ("nonce", .str idToken)]
      else .error "Signature verification failed." }

def loginStarted (t : ℕ) (sessionId : Uuid) (state nonce : String) : List (SsoLabel ℕ) :=
  [.stmt t (.initiate none ⟨sessionId, state, nonce⟩ 0), .commit t]

/-- Session `t` presents a state, and the provider answers with the token of this name. -/
def statePresented (t : ℕ) (state idToken : String) : List (SsoLabel ℕ) :=
  [.stmt t (.consume state 1), .stmt t (.exchange (some ⟨some idToken, true, none⟩) 2),
    .stmt t .selectUser]

def firstDraw : Draw := ⟨3, "$2b$12$", 31, "s-3", ⟨10, "tk-a"⟩⟩

def secondDraw : Draw := ⟨4, "$2b$12$", 32, "s-4", ⟨11, "tk-b"⟩⟩

def loginCompleted (t : ℕ) (draw : Draw) : List (SsoLabel ℕ) :=
  [.stmt t (.flushUser draw), .stmt t (.flushSession draw 3), .stmt t (.flushToken draw 3),
    .commit t]

/-- Both callbacks find no user with the email. The second INSERT is refused, and with its
rollback the state is there again. -/
def twoWindows : List (SsoLabel ℕ) :=
  loginStarted 0 21 "s-1" "n-1"++loginStarted 1 22 "s-2" "n-2"++
    statePresented 2 "s-1" "n-1"++statePresented 3 "s-2" "n-2"++loginCompleted 2 firstDraw++
    [.stmt 3 (.flushUser secondDraw), .rollback 3, .stmt 4 (.consume "s-2" 5)]

/-- Two callbacks get past `_consume_sso_state` with the state of the second window. -/
theorem not_stateSingleUse_twoWindows :
    ¬Throughout (step (ssoProgram workforceConfig)) StateSingleUse
      (start (ssoTables [] [] [workforce] []) .idle) twoWindows := by
  intro h
  obtain ⟨s, hrun⟩ : ∃ s, exec (step (ssoProgram workforceConfig))
      (start (ssoTables [] [] [workforce] []) .idle) twoWindows = some s := ⟨_, rfl⟩
  have hview : (exec (step (ssoProgram workforceConfig))
      (start (ssoTables [] [] [workforce] []) .idle) twoWindows).map (fun s =>
        ((passed (s.session 3)).map fun c => c.session.serial,
          (passed (s.session 4)).map fun c => c.session.serial)) = some (some 1, some 1) := by
    decide +kernel
  rw [hrun, Option.map_some, Option.some.injEq, Prod.mk.injEq] at hview
  obtain ⟨c, hc, hfirst⟩ := Option.map_eq_some_iff.mp hview.1
  obtain ⟨d, hd, hsecond⟩ := Option.map_eq_some_iff.mp hview.2
  have hsame := (h.final hrun).once 3 4 c d hc hd (hfirst.trans hsecond.symm)
  cases hsame

end LegalForge.Sso
