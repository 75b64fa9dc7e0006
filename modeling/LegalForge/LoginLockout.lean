import LegalForge.LoginAttempts

/-! How many wrong passwords are checked before the lockout refuses the next one. -/
namespace LegalForge.Auth
open Transition ReadCommitted

/-! Statements and commits of a login. -/

section
variable {cfg : Config} {now : Instant} {db : Db} {m m' : LoginSession} {a : LoginStatement}

/-- A failed attempt was pending before the statement, or is the outcome of a wrong
password. -/
theorem loginStmt_failed {change : UserChange} (h : loginStmt cfg now db m a = some m')
    (hpending : pendingFailure m' = some change) :
    pendingFailure m = some change ∨ ∃ user password, m = .found user password ∧ a = .verify ∧
      cfg.verifyPassword password user.passwordHash = false ∧
      change = ⟨user, failedLogin cfg user now⟩ := by
  unfold loginStmt at h
  split at h
  · split at h
    · obtain rfl := Option.some.inj h
      cases hpending
    · split_ifs at h <;> obtain rfl := Option.some.inj h <;> cases hpending
  · rename_i user password
    split_ifs at h with hwrong
    · obtain rfl := Option.some.inj h
      obtain rfl := Option.some.inj hpending
      exact Or.inr ⟨user, password, rfl, rfl, by simpa using hwrong, rfl⟩
    · obtain rfl := Option.some.inj h
      cases hpending
  · obtain rfl := Option.some.inj h
    exact Or.inl hpending
  · obtain rfl := Option.some.inj h
    cases hpending
  · split_ifs at h <;> obtain rfl := Option.some.inj h <;> cases hpending
  · cases h

/-- A failed attempt stays pending until the session ends. -/
theorem loginStmt_keeps_failed {change : UserChange} (h : loginStmt cfg now db m a = some m')
    (hpending : pendingFailure m = some change) : pendingFailure m' = some change := by
  cases m with
  | failed change' sent =>
    cases sent with
    | true => cases a <;> cases h
    | false =>
      cases a with
      | flush =>
        obtain rfl := Option.some.inj h
        exact hpending
      | _ => cases h
  | _ => cases hpending

/-- A user that has just been read is not locked. -/
theorem loginStmt_found {user : User} {password : String}
    (h : loginStmt cfg now db m a = some (.found user password)) : isLocked user now = false := by
  unfold loginStmt at h
  split at h
  · split at h
    · cases h
    · split_ifs at h with hlocked
      · cases h
      · obtain ⟨rfl, -⟩ := LoginSession.found.inj (Option.some.inj h)
        exact Bool.of_not_eq_true hlocked
  · split_ifs at h <;> cases h
  · cases h
  · cases h
  · split_ifs at h <;> cases h
  · cases h

theorem isLocked_mono {user : User} {later : Instant} (hle : now ≤ later)
    (h : isLocked user now = false) : isLocked user later = false := by
  cases hlocked : user.lockedUntil with
  | none => simp only [isLocked, hlocked]
  | some locked =>
    simp only [isLocked, hlocked, decide_eq_false_iff_not, not_lt] at h ⊢
    exact h.trans hle

/-- What a login commits. -/
theorem login_publish {db' : Db} (h : (loginProgram cfg now).publish db m = some (db', m')) :
    pendingFailure m' = none ∧
    ((m = .refused ∧ db' = db) ∨
    (∃ change, m = .failed change true ∧ db' = applyChange db change) ∨
    ∃ change new response, m = .ready change new response ∧
      db'.users = (applyChange db change).users) := by
  cases m with
  | refused =>
    obtain ⟨rfl, rfl⟩ := Prod.mk.inj (Option.some.inj h)
    exact ⟨rfl, Or.inl ⟨rfl, rfl⟩⟩
  | failed change sent =>
    cases sent with
    | false => cases h
    | true =>
      obtain ⟨rfl, rfl⟩ := Prod.mk.inj (Option.some.inj h)
      exact ⟨rfl, Or.inr (Or.inl ⟨change, rfl, rfl⟩)⟩
  | ready change new response =>
    obtain ⟨rfl, rfl⟩ := Prod.mk.inj (Option.some.inj h)
    exact ⟨rfl, Or.inr (Or.inr ⟨change, new, response, rfl, rfl⟩)⟩
  | _ => cases h

theorem getUser_applyChange {change : UserChange} {userId : Uuid} :
    getUser (applyChange db change) userId =
      if change.loaded.id = userId then (getUser db userId).map (updatedRow change)
      else getUser db userId := by
  unfold getUser applyChange
  split_ifs with h
  · subst h
    exact Table.find_alter_self (by intro x hx; exact hx) db.users
  · exact Table.find_alter_of_ne (by intro x hx; exact hx) (Ne.symm h) db.users

theorem pendingFailure_abort (m : LoginSession) :
    pendingFailure ((loginProgram cfg now).abort m) = none := by
  cases m <;> rfl

end

/-! Failed attempts that are not committed. -/

variable {cfg : Config} {userId : Uuid} {Tx : Type*} [DecidableEq Tx] {s s' : TimedLogins Tx}
  {timed : Instant × LoginLabel Tx}

theorem timedStep_eq_some : timedStep cfg s timed = some s' ↔
    s.clock ≤ timed.1 ∧ ∃ state, step (loginProgram cfg timed.1) s.state timed.2 = some state ∧
      s' = ⟨timed.1, state⟩ := by
  unfold timedStep
  split_ifs with h
  · rw [Option.map_eq_some_iff]
    constructor
    · rintro ⟨state, hstep, rfl⟩
      exact ⟨h, state, hstep, rfl⟩
    · rintro ⟨-, state, hstep, rfl⟩
      exact ⟨state, hstep, rfl⟩
  · simp [h]

/-- A failed attempt on the account that session `t` has not committed. -/
def Pending (userId : Uuid) (s : TimedLogins Tx) (t : Tx) (change : UserChange) : Prop :=
  pendingFailure (s.state.session t) = some change ∧ change.loaded.id = userId

structure AttemptsInv (cfg : Config) (userId : Uuid) (s : TimedLogins Tx) : Prop where
  user : ∃ current, getUser s.state.committed userId = some current
  found : ∀ t user password, s.state.session t = .found user password →
    isLocked user s.clock = false
  failed : ∀ t change, Pending userId s t change → ∃ now,
    isLocked change.loaded now = false ∧ change.changed = failedLogin cfg change.loaded now
  once : ∀ t u change change', Pending userId s t change → Pending userId s u change' → t = u

/-- A pending attempt is old, or this step has checked its password. -/
theorem pending_step (hstep : timedStep cfg s timed = some s') {u : Tx} {change : UserChange}
    (h : Pending userId s' u change) :
    Pending userId s u change ∨ ∃ user password, timed.2 = .stmt u .verify ∧
      s.state.session u = .found user password ∧
      cfg.verifyPassword password user.passwordHash = false ∧ user.id = userId ∧
      change = ⟨user, failedLogin cfg user timed.1⟩ := by
  obtain ⟨-, state, hstate, rfl⟩ := timedStep_eq_some.mp hstep
  obtain ⟨hpending, hid⟩ := h
  rcases step_session_cases hstate u with hsame | ⟨a, hl, hm⟩ | ⟨-, hpub⟩ | ⟨-, habort⟩
  · exact Or.inl ⟨hsame ▸ hpending, hid⟩
  · rcases loginStmt_failed hm hpending with hold | ⟨user, password, hfound, rfl, hwrong, rfl⟩
    · exact Or.inl ⟨hold, hid⟩
    · exact Or.inr ⟨user, password, hl, hfound, hwrong, hid, rfl⟩
  · rw [(login_publish hpub).1] at hpending
    cases hpending
  · rw [habort, pendingFailure_abort] at hpending
    cases hpending

/-- An attempt stays pending until its session commits or is rolled back. -/
theorem Pending.step (hstep : timedStep cfg s timed = some s') {u : Tx} {change : UserChange}
    (h : Pending userId s u change) (hcommit : timed.2 ≠ .commit u)
    (hrollback : timed.2 ≠ .rollback u) : Pending userId s' u change := by
  obtain ⟨-, state, hstate, rfl⟩ := timedStep_eq_some.mp hstep
  obtain ⟨hpending, hid⟩ := h
  rcases step_session_cases hstate u with hsame | ⟨a, -, hm⟩ | ⟨hl, -⟩ | ⟨hl, -⟩
  · exact ⟨hsame ▸ hpending, hid⟩
  · exact ⟨loginStmt_keeps_failed hm hpending, hid⟩
  · exact absurd hl hcommit
  · exact absurd hl hrollback

omit [DecidableEq Tx] in
theorem wrongVerification_eq_true : wrongVerification cfg userId s timed = true ↔
    ∃ t user password, timed.2 = .stmt t .verify ∧ s.state.session t = .found user password ∧
      user.id = userId ∧ cfg.verifyPassword password user.passwordHash = false := by
  unfold wrongVerification
  constructor
  · intro h
    split at h
    · rename_i t hl
      split at h
      · rename_i user password hsess
        have hboth := of_decide_eq_true h
        exact ⟨t, user, password, hl, hsess, hboth.1, by simpa using hboth.2⟩
      · cases h
    · cases h
  · rintro ⟨t, user, password, hl, hsess, hid, hwrong⟩
    simp [hl, hsess, hid, hwrong]

/-- A step leaves the account as it is, unless it commits a change of the account. -/
theorem getUser_step (hstep : timedStep cfg s timed = some s')
    (hquiet : ∀ t change, timed.2 = .commit t → change.loaded.id = userId →
      s.state.session t ≠ .failed change true ∧
      ∀ new response, s.state.session t ≠ .ready change new response) :
    getUser s'.state.committed userId = getUser s.state.committed userId := by
  obtain ⟨-, state, hstate, rfl⟩ := timedStep_eq_some.mp hstep
  by_cases hl : ∃ t, timed.2 = .commit t
  · obtain ⟨t, hl⟩ := hl
    rw [hl] at hstate
    obtain ⟨db, m, hpub, rfl⟩ := step_commit_eq_some.mp hstate
    rcases (login_publish hpub).2 with ⟨-, rfl⟩ | ⟨change, hsess, rfl⟩ |
      ⟨change, new, response, hsess, husers⟩
    · rfl
    · have hne : change.loaded.id ≠ userId := fun hid => (hquiet t change hl hid).1 hsess
      exact getUser_applyChange.trans (if_neg hne)
    · have hne : change.loaded.id ≠ userId :=
        fun hid => (hquiet t change hl hid).2 new response hsess
      show getUser db userId = _
      rw [getUser, husers, ← getUser, getUser_applyChange, if_neg hne]
  · rw [step_committed_eq hstate fun t ht => hl ⟨t, ht⟩]

theorem user_step (hstep : timedStep cfg s timed = some s')
    (h : ∃ current, getUser s.state.committed userId = some current) :
    ∃ current, getUser s'.state.committed userId = some current := by
  obtain ⟨-, state, hstate, rfl⟩ := timedStep_eq_some.mp hstep
  obtain ⟨current, hcurrent⟩ := h
  have hchange : ∀ change, ∃ current',
      getUser (applyChange s.state.committed change) userId = some current' := by
    intro change
    rw [getUser_applyChange, hcurrent]
    split_ifs
    · exact ⟨_, rfl⟩
    · exact ⟨_, rfl⟩
  by_cases hl : ∃ t, timed.2 = .commit t
  · obtain ⟨t, hl⟩ := hl
    rw [hl] at hstate
    obtain ⟨db, m, hpub, rfl⟩ := step_commit_eq_some.mp hstate
    rcases (login_publish hpub).2 with ⟨-, rfl⟩ | ⟨change, -, rfl⟩ | ⟨change, _, _, -, husers⟩
    · exact ⟨current, hcurrent⟩
    · exact hchange change
    · obtain ⟨current', hcurrent'⟩ := hchange change
      refine ⟨current', ?_⟩
      show getUser db userId = _
      rw [getUser, husers]
      exact hcurrent'
  · rw [step_committed_eq hstate fun t ht => hl ⟨t, ht⟩]
    exact ⟨current, hcurrent⟩

theorem found_step (hstep : timedStep cfg s timed = some s')
    (h : ∀ t user password, s.state.session t = .found user password →
      isLocked user s.clock = false) {u : Tx} {user : User} {password : String}
    (hu : s'.state.session u = .found user password) : isLocked user s'.clock = false := by
  obtain ⟨hclock, state, hstate, rfl⟩ := timedStep_eq_some.mp hstep
  rcases step_session_cases hstate u with hsame | ⟨a, -, hm⟩ | ⟨-, hpub⟩ | ⟨-, habort⟩
  · exact isLocked_mono hclock (h u user password (hsame.symm.trans hu))
  · exact loginStmt_found (hu ▸ hm)
  · rcases (login_publish hpub).2 with ⟨hsess, -⟩ | ⟨change, hsess, -⟩ | ⟨change, new, response, hsess, -⟩
      <;> rw [hsess] at hpub <;>
      exact absurd ((Prod.mk.inj (Option.some.inj hpub)).2.trans hu) nofun
  · have hfound := habort.symm.trans hu
    cases hsess : s.state.session u <;> rw [hsess] at hfound <;> cases hfound

theorem attemptsInv_step (h : AttemptsInv cfg userId s) (hstep : timedStep cfg s timed = some s')
    (hfresh : FreshAttempt cfg userId s timed) : AttemptsInv cfg userId s' where
  user := user_step hstep h.user
  found := fun _ _ _ hu => found_step hstep h.found hu
  failed := by
    intro u change hpending
    rcases pending_step hstep hpending with hold | ⟨user, password, -, hsess, -, -, rfl⟩
    · exact h.failed u change hold
    · have hclock := (timedStep_eq_some.mp hstep).1
      exact ⟨timed.1, isLocked_mono hclock (h.found u user password hsess), rfl⟩
  once := by
    intro t u change change' ht hu
    -- a new attempt is the only one
    have halone : ∀ v user password, timed.2 = .stmt v .verify →
        s.state.session v = .found user password →
        cfg.verifyPassword password user.passwordHash = false → user.id = userId →
        ∀ w old, ¬Pending userId s w old := by
      intro v user password hl hsess hwrong hid w old hold
      unfold FreshAttempt at hfresh
      rw [hl] at hfresh
      exact (hfresh user password hsess hid hwrong).1 w old hold.1 hold.2
    rcases pending_step hstep ht with hold | ⟨user, password, hl, hsess, hwrong, hid, -⟩
    · rcases pending_step hstep hu with hold' | ⟨user, password, hl, hsess, hwrong, hid, -⟩
      · exact h.once t u change change' hold hold'
      · exact absurd hold (halone u user password hl hsess hwrong hid t change)
    · rcases pending_step hstep hu with hold' | ⟨user', password', hl', -⟩
      · exact absurd hold' (halone t user password hl hsess hwrong hid u change')
      · have hsame := hl.symm.trans hl'
        injection hsame

/-! The count of a period. -/

/-- The row of the account once its pending attempt, if there is one, is committed. -/
def Standing (userId : Uuid) (s : TimedLogins Tx) (row : User) : Prop :=
  (∃ t change, Pending userId s t change ∧ row = change.changed) ∨
  (∀ t change, ¬Pending userId s t change) ∧ getUser s.state.committed userId = some row

/-- The row shows `n` wrong passwords since the period began. When they are enough, it
is locked until after the period. -/
def Counted (cfg : Config) (since : Instant) (n : ℕ) (row : User) : Prop :=
  n ≤ row.failedLoginAttempts ∧
    (1 ≤ n → cfg.maxLoginAttempts ≤ row.failedLoginAttempts →
      ∃ locked, row.lockedUntil = some locked ∧
        since+minutes cfg.lockoutDurationMinutes ≤ locked)

structure PeriodInv (cfg : Config) (userId : Uuid) (since : Instant) (s : TimedLogins Tx)
    (n : ℕ) : Prop where
  inv : AttemptsInv cfg userId s
  le : n ≤ cfg.maxLoginAttempts
  counted : ∃ row, Standing userId s row ∧ Counted cfg since n row

omit [DecidableEq Tx] in
theorem periodInv_start (h : AttemptsInv cfg userId s) (since : Instant) :
    PeriodInv cfg userId since s 0 := by
  refine ⟨h, Nat.zero_le _, ?_⟩
  have hcounted : ∀ row, Counted cfg since 0 row := fun row =>
    ⟨Nat.zero_le _, fun hone => absurd hone (by decide)⟩
  by_cases hpending : ∃ t change, Pending userId s t change
  · obtain ⟨t, change, hpending⟩ := hpending
    exact ⟨change.changed, Or.inl ⟨t, change, hpending, rfl⟩, hcounted _⟩
  · obtain ⟨current, hcurrent⟩ := h.user
    refine ⟨current, Or.inr ⟨fun t change ht => hpending ⟨t, change, ht⟩, hcurrent⟩, hcounted _⟩

/-- One more wrong password is checked. The account was not locked, so the earlier
ones of the period were not enough. -/
theorem periodInv_verify {since : Instant} {n : ℕ} (hmax : 1 ≤ cfg.maxLoginAttempts)
    (h : PeriodInv cfg userId since s n)
    (hperiod : since ≤ timed.1 ∧ timed.1 < since+minutes cfg.lockoutDurationMinutes)
    (hstep : timedStep cfg s timed = some s') (hfresh : FreshAttempt cfg userId s timed)
    (hwrong : wrongVerification cfg userId s timed = true) :
    PeriodInv cfg userId since s' (n+1) := by
  obtain ⟨t, user, password, hl, hsess, hid, hverify⟩ := wrongVerification_eq_true.mp hwrong
  have hinv' := attemptsInv_step h.inv hstep hfresh
  unfold FreshAttempt at hfresh
  rw [hl] at hfresh
  obtain ⟨hnone, current, hcurrent, hunlocked, hgrown⟩ := hfresh user password hsess hid hverify
  obtain ⟨row, hstanding, hcounted, hlocked⟩ := h.counted
  have hrow : row = current := by
    rcases hstanding with ⟨u, change, hpending, -⟩ | ⟨-, hrow⟩
    · exact absurd hpending.2 (hnone u change hpending.1)
    · exact Option.some.inj (hrow.symm.trans hcurrent)
  subst hrow
  have hroom : n = 0 ∨ row.failedLoginAttempts < cfg.maxLoginAttempts := by
    by_contra hneg
    obtain ⟨hn, hfull⟩ := not_or.mp hneg
    obtain ⟨locked, hcolumn, hlate⟩ := hlocked (by omega) (by omega)
    simp only [isLocked, hcolumn, decide_eq_false_iff_not, not_lt] at hunlocked
    exact absurd (hperiod.2.trans_le (hlate.trans hunlocked)) (lt_irrefl timed.1)
  -- the session holds the next value of the counter
  have hsession : s'.state.session t = .failed ⟨user, failedLogin cfg user timed.1⟩ false := by
    obtain ⟨-, state, hstate, rfl⟩ := timedStep_eq_some.mp hstep
    rw [hl] at hstate
    obtain ⟨-, m, hm, rfl⟩ := step_stmt_eq_some.mp hstate
    rw [hsess] at hm
    simp only [loginProgram, loginStmt, hverify, Bool.not_false, if_true,
      Option.some.injEq] at hm
    simp only [Function.update_self]
    exact hm.symm
  refine ⟨hinv', by omega, failedLogin cfg user timed.1, ?_, ?_, ?_⟩
  · exact Or.inl ⟨t, ⟨user, failedLogin cfg user timed.1⟩, ⟨by rw [hsession]; rfl, hid⟩, rfl⟩
  · show n+1 ≤ user.failedLoginAttempts+1
    omega
  · intro _ hfull
    have hfull' : cfg.maxLoginAttempts ≤ user.failedLoginAttempts+1 := hfull
    exact ⟨timed.1+minutes cfg.lockoutDurationMinutes, if_pos hfull',
      Nat.add_le_add_right hperiod.1 _⟩

/-- After its commit no attempt is pending. -/
theorem not_pending_of_commit {t : Tx} {change : UserChange} (h : AttemptsInv cfg userId s)
    (hstep : timedStep cfg s timed = some s') (hl : timed.2 = .commit t)
    (hmine : Pending userId s t change) (u : Tx) (other : UserChange) : ¬Pending userId s' u other := by
  intro hpending
  rcases pending_step hstep hpending with hold | ⟨_, _, hverify, -⟩
  · have hut := h.once u t other change hold hmine
    subst hut
    obtain ⟨-, state, hstate, rfl⟩ := timedStep_eq_some.mp hstep
    rw [hl] at hstate
    obtain ⟨db, m, hpub, rfl⟩ := step_commit_eq_some.mp hstate
    have hended := hpending.1
    simp only [Function.update_self] at hended
    rw [(login_publish hpub).1] at hended
    cases hended
  · rw [hl] at hverify
    cases hverify

theorem getUser_of_commit {t : Tx} {change : UserChange} {current : User}
    (hstep : timedStep cfg s timed = some s') (hl : timed.2 = .commit t)
    (hsess : s.state.session t = .failed change true) (hid : change.loaded.id = userId)
    (hcurrent : getUser s.state.committed userId = some current) :
    getUser s'.state.committed userId = some (updatedRow change current) := by
  obtain ⟨-, state, hstate, rfl⟩ := timedStep_eq_some.mp hstep
  rw [hl] at hstate
  obtain ⟨db, m, hpub, rfl⟩ := step_commit_eq_some.mp hstate
  rw [hsess] at hpub
  obtain ⟨rfl, rfl⟩ := Prod.mk.inj (Option.some.inj hpub)
  show getUser (applyChange s.state.committed change) userId = _
  rw [getUser_applyChange, if_pos hid, hcurrent]
  rfl

/-- A failed attempt writes the counter, which it has increased. -/
theorem attempts_updatedRow {change : UserChange} {now : Instant}
    (hchanged : change.changed = failedLogin cfg change.loaded now) (current : User) :
    (updatedRow change current).failedLoginAttempts = change.changed.failedLoginAttempts := by
  have hgrown : change.changed.failedLoginAttempts ≠ change.loaded.failedLoginAttempts := by
    rw [hchanged]
    exact Nat.succ_ne_self _
  exact if_neg hgrown

/-- With the counter full it writes the lock too, as the row it loaded was not locked any more. -/
theorem locked_updatedRow {change : UserChange} {now : Instant}
    (hpos : 0 < minutes cfg.lockoutDurationMinutes) (hunlocked : isLocked change.loaded now = false)
    (hchanged : change.changed = failedLogin cfg change.loaded now)
    (hfull : cfg.maxLoginAttempts ≤ change.changed.failedLoginAttempts) (current : User) :
    (updatedRow change current).lockedUntil = change.changed.lockedUntil := by
  have hlock : change.changed.lockedUntil = some (now+minutes cfg.lockoutDurationMinutes) := by
    rw [hchanged] at hfull ⊢
    exact if_pos hfull
  have hnew : change.changed.lockedUntil ≠ change.loaded.lockedUntil := by
    intro heq
    rw [hlock] at heq
    simp only [isLocked, ← heq, decide_eq_false_iff_not, not_lt] at hunlocked
    exact absurd hunlocked (Nat.not_le.mpr (Nat.lt_add_of_pos_right hpos))
  exact if_neg hnew

/-- The commit of a failed attempt makes the row what the session holds. -/
theorem periodInv_commit {since : Instant} {n : ℕ} {t : Tx} {change : UserChange}
    (h : PeriodInv cfg userId since s n)
    (hperiod : since ≤ timed.1 ∧ timed.1 < since+minutes cfg.lockoutDurationMinutes)
    (hstep : timedStep cfg s timed = some s') (hfresh : FreshAttempt cfg userId s timed)
    (hl : timed.2 = .commit t) (hsess : s.state.session t = .failed change true)
    (hid : change.loaded.id = userId) : PeriodInv cfg userId since s' n := by
  have hmine : Pending userId s t change := ⟨by rw [hsess]; rfl, hid⟩
  obtain ⟨row, hstanding, hcounted, hlocked⟩ := h.counted
  have hrow : row = change.changed := by
    rcases hstanding with ⟨u, change', hpending, rfl⟩ | ⟨hnone, -⟩
    · have hut := h.inv.once u t change' change hpending hmine
      subst hut
      have hsame := hpending.1.symm.trans hmine.1
      rw [Option.some.inj hsame]
    · exact absurd hmine (hnone t change)
  rw [hrow] at hcounted hlocked
  obtain ⟨now, hunlocked, hchanged⟩ := h.inv.failed t change hmine
  obtain ⟨current, hcurrent⟩ := h.inv.user
  have hattempts := attempts_updatedRow hchanged current
  refine ⟨attemptsInv_step h.inv hstep hfresh, h.le, updatedRow change current, ?_, ?_, ?_⟩
  · exact Or.inr ⟨not_pending_of_commit h.inv hstep hl hmine,
      getUser_of_commit hstep hl hsess hid hcurrent⟩
  · rw [hattempts]
    exact hcounted
  · intro hone hfull
    rw [hattempts] at hfull
    obtain ⟨locked, hcolumn, hlate⟩ := hlocked hone hfull
    have hpos : 0 < minutes cfg.lockoutDurationMinutes :=
      Nat.pos_of_lt_add_right (hperiod.1.trans_lt hperiod.2)
    refine ⟨locked, ?_, hlate⟩
    rw [locked_updatedRow hpos hunlocked hchanged hfull current]
    exact hcolumn

/-- Any other step leaves the account and its pending attempt as they are. -/
theorem periodInv_quiet {since : Instant} {n : ℕ} (h : PeriodInv cfg userId since s n)
    (hstep : timedStep cfg s timed = some s') (hfresh : FreshAttempt cfg userId s timed)
    (hsuccess : ¬SuccessfulLogin userId s timed)
    (hwrong : ¬wrongVerification cfg userId s timed = true)
    (hcommit : ∀ t change, timed.2 = .commit t → s.state.session t = .failed change true →
      change.loaded.id ≠ userId) : PeriodInv cfg userId since s' n := by
  have huser : getUser s'.state.committed userId = getUser s.state.committed userId := by
    apply getUser_step hstep
    intro t change hl hid
    refine ⟨fun hsess => hcommit t change hl hsess hid, fun new response hsess => ?_⟩
    exact hsuccess ⟨t, change, new, response, hl, hsess, hid⟩
  have hback : ∀ u change, Pending userId s' u change → Pending userId s u change := by
    intro u change hpending
    rcases pending_step hstep hpending with hold | ⟨user, password, hl, hsess, hverify, hid, -⟩
    · exact hold
    · exact absurd (wrongVerification_eq_true.mpr ⟨u, user, password, hl, hsess, hid, hverify⟩) hwrong
  have hforth : ∀ u change, Pending userId s u change → Pending userId s' u change := by
    intro u change hpending
    refine hpending.step hstep (fun hl => ?_) (fun hl => ?_)
    · -- only a flushed attempt can be committed
      obtain ⟨-, state, hstate, -⟩ := timedStep_eq_some.mp hstep
      rw [hl] at hstate
      obtain ⟨db, m, hpub, -⟩ := step_commit_eq_some.mp hstate
      rcases (login_publish hpub).2 with ⟨hsess, -⟩ | ⟨change', hsess, -⟩ | ⟨_, _, _, hsess, -⟩
      · have hold := hpending.1
        rw [hsess] at hold
        cases hold
      · have hold := hpending.1
        rw [hsess] at hold
        obtain rfl := Option.some.inj hold
        exact hcommit u change' hl hsess hpending.2
      · have hold := hpending.1
        rw [hsess] at hold
        cases hold
    · unfold FreshAttempt at hfresh
      rw [hl] at hfresh
      exact hfresh change hpending.1 hpending.2
  obtain ⟨row, hstanding, hcounted⟩ := h.counted
  refine ⟨attemptsInv_step h.inv hstep hfresh, h.le, row, ?_, hcounted⟩
  rcases hstanding with ⟨t, change, hpending, hrow⟩ | ⟨hnone, hrow⟩
  · exact Or.inl ⟨t, change, hforth t change hpending, hrow⟩
  · exact Or.inr ⟨fun t change ht => hnone t change (hback t change ht), huser.trans hrow⟩

theorem periodInv_step {since : Instant} {n : ℕ} (hmax : 1 ≤ cfg.maxLoginAttempts)
    (h : PeriodInv cfg userId since s n)
    (hperiod : since ≤ timed.1 ∧ timed.1 < since+minutes cfg.lockoutDurationMinutes)
    (hstep : timedStep cfg s timed = some s') (hfresh : FreshAttempt cfg userId s timed)
    (hsuccess : ¬SuccessfulLogin userId s timed) :
    PeriodInv cfg userId since s' (n+(wrongVerification cfg userId s timed).toNat) := by
  by_cases hwrong : wrongVerification cfg userId s timed = true
  · rw [hwrong]
    exact periodInv_verify hmax h hperiod hstep hfresh hwrong
  · have hzero : (wrongVerification cfg userId s timed).toNat = 0 := by
      rw [Bool.eq_false_of_not_eq_true hwrong]
      rfl
    rw [hzero, Nat.add_zero]
    by_cases hcommit : ∃ t change, timed.2 = .commit t ∧
        s.state.session t = .failed change true ∧ change.loaded.id = userId
    · obtain ⟨t, change, hl, hsess, hid⟩ := hcommit
      exact periodInv_commit h hperiod hstep hfresh hl hsess hid
    · exact periodInv_quiet h hstep hfresh hsuccess hwrong
        fun t change hl hsess hid => hcommit ⟨t, change, hl, hsess, hid⟩

def loginStart (db : Db) : TimedLogins Tx := ⟨0, start db .idle⟩

omit [DecidableEq Tx] in
theorem attemptsInv_start {db : Db} (h : (getUser db userId).isSome = true) :
    AttemptsInv cfg userId (loginStart db : TimedLogins Tx) where
  user := Option.isSome_iff_exists.mp h
  found := fun _ _ _ hsess => by cases hsess
  failed := fun _ _ hpending => by cases hpending.1
  once := fun _ _ _ _ hpending => by cases hpending.1

def lockoutConfig : Config where
  verifyPassword plain _ := plain = "RealPassword1!"
  sha256 := rotationConfig.sha256

def guess : LoginRequest := ⟨"ann@firm.test", "BadGuess12345"⟩

/-- One guess, from the query to its commit. -/
def oneGuess : List (Instant × LoginLabel ℕ) :=
  [(1, .stmt 0 (.select guess)), (2, .stmt 0 .verify), (3, .stmt 0 .flush), (4, .commit 0)]

/-- The only session of the run has no failed attempt yet when it checks its password. -/
theorem freshAttempt_oneGuess :
    Along (timedStep lockoutConfig) (fun s timed _ => FreshAttempt lockoutConfig 3 s timed)
      (loginStart loggedIn) oneGuess := by
  refine Along.cons rfl trivial (Along.cons rfl ?_ (Along.cons rfl trivial
    (Along.cons rfl trivial trivial)))
  intro user password hsess _ _
  obtain ⟨rfl, -⟩ := LoginSession.found.inj hsess
  refine ⟨fun u change hpending => ?_, _, rfl, rfl, le_refl _⟩
  by_cases hu : u = 0
  · subst hu
    cases hpending
  · simp only [Function.update_of_ne hu] at hpending
    cases hpending

/-- Six requests that all read the counter before any of them writes it. -/
def sixGuesses : List (Instant × LoginLabel ℕ) :=
  (List.range 6).map (fun t => (1, .stmt t (.select guess)))++
    (List.range 6).map (fun t => (2, .stmt t .verify))

end LegalForge.Auth
