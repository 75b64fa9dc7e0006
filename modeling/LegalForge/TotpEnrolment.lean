import LegalForge.Deadlines
import LegalForge.TwoFactorLogin

/-! Setting up, verifying and disabling the second factor of one user, as the statements that
concurrent requests interleave. Each request works on the row it has loaded, and its UPDATE
writes the columns that it has changed. -/
namespace LegalForge.Auth
open Transition ReadCommitted
open Deadlines (BoundedText)

structure FactorUser extends TwoFactorUser where
  totpVerified : Bool := false

/-- What a request does to the user. -/
inductive FactorChange where
  | setup (secret : String)
  | verify (recoveryCodes : String)
  | disable

/-- The attributes as the request assigns them. -/
def FactorChange.apply (u : FactorUser) : FactorChange → FactorUser
  | .setup secret => { u with totpSecret := some secret, totpVerified := false }
  | .verify recoveryCodes => { u with
      totpEnabled := true
      totpVerified := true
      recoveryCodes := some recoveryCodes }
  | .disable => { u with
      totpSecret := none
      totpEnabled := false
      totpVerified := false
      recoveryCodes := none }

/-- The row a request has loaded, and what it does to it. -/
structure FactorWork where
  loaded : FactorUser
  change : FactorChange

/-- The row after the UPDATE of the attributes that have changed. -/
def FactorWork.update (w : FactorWork) (row : FactorUser) : FactorUser :=
  let changed := w.change.apply w.loaded
  { row with
    totpSecret := Table.assigned w.loaded.totpSecret changed.totpSecret row.totpSecret
    totpEnabled := Table.assigned w.loaded.totpEnabled changed.totpEnabled row.totpEnabled
    totpVerified := Table.assigned w.loaded.totpVerified changed.totpVerified row.totpVerified
    recoveryCodes := Table.assigned w.loaded.recoveryCodes changed.recoveryCodes row.recoveryCodes }

inductive FactorStage where
  | idle
  /-- The attributes are assigned, nothing is flushed. -/
  | changed (w : FactorWork)
  | flushed (w : FactorWork)
  | raised (error : HttpError)

/-- A client with its request. -/
structure FactorSession where
  /-- Not kept anywhere: the secrets for which its `verify_2fa_setup` calls accepted a code. -/
  accepted : List String := []
  stage : FactorStage := .idle

inductive FactorStatement where
  /-- `setup_2fa_endpoint`, with the secret it generates. -/
  | setup (secret : String)
  /-- `verify_2fa_setup_endpoint`, with the recovery codes it generates. -/
  | verify (code : BoundedText 6 8) (recoveryCodes : List String) (now : Instant)
  | disable (code : BoundedText 6 8) (now : Instant)
  | flush

def alreadyEnabled : HttpError := ⟨400, "2FA is already enabled. Disable it first."⟩

def invalidVerificationCode : HttpError := ⟨400, "Invalid verification code"⟩

/-- `get_current_user` has loaded the row, and the user is active. -/
def setup2fa (m : FactorSession) (user : FactorUser) (secret : String) : FactorSession :=
  if user.totpEnabled then { m with stage := .raised alreadyEnabled }
  else { m with stage := .changed ⟨user, .setup secret⟩ }

def verify2faSetup (cfg : TwoFactorConfig) (m : FactorSession) (user : FactorUser)
    (code : BoundedText 6 8) (recoveryCodes : List String) (now : Instant) : FactorSession :=
  match user.totpSecret.filter (· ≠ "") with
  | none => { m with stage := .raised ⟨400, "2FA not initialized"⟩ }
  | some secret =>
    if cfg.verifyTotpCode secret code.text now then
      { accepted := m.accepted++[secret]
        stage := .changed ⟨user, .verify (hashRecoveryCodes cfg.toConfig recoveryCodes)⟩ }
    else { m with stage := .raised invalidVerificationCode }

def disable2fa (cfg : TwoFactorConfig) (m : FactorSession) (user : FactorUser)
    (code : BoundedText 6 8) (now : Instant) : FactorSession :=
  match user.totpSecret.filter (· ≠ "") with
  | none => { m with stage := .raised ⟨400, "2FA is not enabled"⟩ }
  | some secret =>
    if !user.totpEnabled then { m with stage := .raised ⟨400, "2FA is not enabled"⟩ }
    else if cfg.verifyTotpCode secret code.text now then
      { m with stage := .changed ⟨user, .disable⟩ }
    else { m with stage := .raised invalidVerificationCode }

def inactive : HttpError := ⟨401, "User not found or inactive"⟩

/-- The first statement of a request: `get_current_user`, and all up to the flush. -/
def openFactorRequest (cfg : TwoFactorConfig) (user : FactorUser) (m : FactorSession) :
    FactorStatement → Option FactorSession
  | .setup secret =>
    some (if user.isActive then setup2fa m user secret else { m with stage := .raised inactive })
  | .verify code recoveryCodes now =>
    some (if user.isActive then verify2faSetup cfg m user code recoveryCodes now
      else { m with stage := .raised inactive })
  | .disable code now =>
    some (if user.isActive then disable2fa cfg m user code now
      else { m with stage := .raised inactive })
  | .flush => none

/-- The row of the user is the only one that is locked. -/
def factorProgram (cfg : TwoFactorConfig) : Program FactorUser FactorSession FactorStatement Unit where
  locks _ m a :=
    match m.stage, a with
    | .changed _, .flush => [()]
    | _, _ => []
  stmt user m a :=
    match m.stage, a with
    | .idle, a => openFactorRequest cfg user m a
    | .changed w, .flush =>
      match w.change with
      | .setup secret =>
        -- a secret is generated without the spaces that the column would cut off
        if varchar 255 secret = some secret then some { m with stage := .flushed w }
        else some { m with stage := .raised .internal }
      | _ => some { m with stage := .flushed w }
    | _, _ => none
  publish user m :=
    match m.stage with
    | .flushed w => some (w.update user, { m with stage := .idle })
    | _ => none
  abort m := { m with stage := .idle }

abbrev FactorState (Tx : Type*) := State FactorUser FactorSession Unit Tx
abbrev FactorLabel (Tx : Type*) := Label FactorStatement Tx

/-- Some call of `verify_2fa_setup` accepted a code for the secret. -/
def Accepted {Tx : Type*} (s : FactorState Tx) (secret : String) : Prop :=
  ∃ t, secret ∈ (s.session t).accepted

def ProvenSecret {Tx : Type*} (s : FactorState Tx) : Prop :=
  ∃ secret, s.committed.totpSecret = some secret ∧ Accepted s secret

/-- An enabled second factor is a proven one. -/
def Proven {Tx : Type*} (s : FactorState Tx) : Prop :=
  s.committed.totpEnabled = true → ProvenSecret s

/-- A new secret is not committed for a second factor that has been enabled meanwhile, and none
is enabled whose secret has been replaced by one that nobody proved. -/
def NotOvertaken {Tx : Type*} (s : FactorState Tx) : FactorLabel Tx → Prop
  | .commit t =>
    match (s.session t).stage with
    | .flushed ⟨loaded, .setup secret⟩ => s.committed.totpEnabled = true →
      loaded.totpSecret = some secret ∨ Accepted s secret
    | .flushed ⟨loaded, .verify _⟩ => loaded.totpEnabled = false → ProvenSecret s
    | _ => True
  | .stmt _ _ => True
  | .rollback _ => True

/-- What each request has found in the row it loaded. -/
def FactorWork.Ok (w : FactorWork) : Prop :=
  match w.change with
  | .setup _ => w.loaded.totpEnabled = false
  | .verify _ => True
  | .disable => w.loaded.totpEnabled = true

def FactorStage.work : FactorStage → Option FactorWork
  | .idle => none
  | .changed w => some w
  | .flushed w => some w
  | .raised _ => none

def FactorInv {Tx : Type*} (s : FactorState Tx) : Prop :=
  ∀ t w, (s.session t).stage.work = some w → w.Ok

/-! One statement, one commit. -/

section
variable {cfg : TwoFactorConfig} {user user' : FactorUser} {m m' : FactorSession}
  {a : FactorStatement}

/-- A request that is opened keeps what its client has proved, and works on what it found. -/
theorem openFactorRequest_spec (h : openFactorRequest cfg user m a = some m') :
    m.accepted <+: m'.accepted ∧ ∀ w, m'.stage.work = some w → w.Ok := by
  -- who raises accepts nothing and leaves nothing to write
  have hraised : ∀ error, m' = { m with stage := .raised error } →
      m.accepted <+: m'.accepted ∧ ∀ w, m'.stage.work = some w → w.Ok := by
    rintro error rfl
    refine ⟨List.prefix_rfl, fun w hw => ?_⟩
    change none = some w at hw
    cases hw
  cases a with
  | setup secret =>
    have hm := Option.some.inj h
    unfold setup2fa at hm
    split_ifs at hm with hactive henabled
    · exact hraised _ hm.symm
    · subst hm
      refine ⟨List.prefix_rfl, fun w hw => ?_⟩
      cases hw
      exact eq_false_of_ne_true henabled
    · exact hraised _ hm.symm
  | verify code recoveryCodes now =>
    have hm := Option.some.inj h
    split_ifs at hm with hactive
    · unfold verify2faSetup at hm
      split at hm
      · exact hraised _ hm.symm
      · split_ifs at hm
        · subst hm
          -- a right code is what the client has proved
          refine ⟨List.prefix_append _ _, fun w hw => ?_⟩
          cases hw
          trivial
        · exact hraised _ hm.symm
    · exact hraised _ hm.symm
  | disable code now =>
    have hm := Option.some.inj h
    split_ifs at hm with hactive
    · unfold disable2fa at hm
      split at hm
      · exact hraised _ hm.symm
      · split_ifs at hm with hdisabled hcode
        · exact hraised _ hm.symm
        · subst hm
          refine ⟨List.prefix_rfl, fun w hw => ?_⟩
          cases hw
          simpa [FactorWork.Ok] using hdisabled
        · exact hraised _ hm.symm
    · exact hraised _ hm.symm
  | flush => cases h

theorem factor_stmt_spec (hm : ∀ w, m.stage.work = some w → w.Ok)
    (h : (factorProgram cfg).stmt user m a = some m') :
    m.accepted <+: m'.accepted ∧ ∀ w, m'.stage.work = some w → w.Ok := by
  rcases m with ⟨accepted, stage⟩
  cases stage with
  | idle => exact openFactorRequest_spec h
  | changed w =>
    cases a with
    | flush =>
      have hkept : m' = ⟨accepted, .flushed w⟩ ∨ m' = ⟨accepted, .raised .internal⟩ := by
        simp only [factorProgram] at h
        split at h
        · split_ifs at h
          · exact Or.inl (Option.some.inj h).symm
          · exact Or.inr (Option.some.inj h).symm
        · exact Or.inl (Option.some.inj h).symm
      rcases hkept with rfl | rfl
      · exact ⟨List.prefix_rfl, hm⟩
      · refine ⟨List.prefix_rfl, fun w hw => ?_⟩
        change none = some w at hw
        cases hw
    | _ => cases h
  | _ => cases a <;> cases h

theorem factor_publish (h : (factorProgram cfg).publish user m = some (user', m')) :
    ∃ w, m.stage = .flushed w ∧ user' = w.update user ∧ m' = { m with stage := .idle } := by
  rcases m with ⟨accepted, stage⟩
  cases stage with
  | flushed w =>
    cases h
    exact ⟨w, rfl, rfl, rfl⟩
  | _ => cases h

end

/-! What the columns of the row are after a commit. -/

section
variable {accepted : String → Prop} {loaded row : FactorUser}

/-- The secret of an enabled second factor is an accepted one. -/
def Backed (accepted : String → Prop) (user : FactorUser) : Prop :=
  user.totpEnabled = true → ∃ secret, user.totpSecret = some secret ∧ accepted secret

theorem backed_setup_iff {secret : String} (hbacked : Backed accepted row) :
    Backed accepted (FactorWork.update ⟨loaded, .setup secret⟩ row) ↔
      (row.totpEnabled = true → loaded.totpSecret = some secret ∨ accepted secret) := by
  have henabled : (FactorWork.update ⟨loaded, .setup secret⟩ row).totpEnabled = row.totpEnabled :=
    Table.assigned_self _ _
  rw [Backed, henabled]
  apply imp_congr_right
  intro hon
  by_cases hsame : some secret = loaded.totpSecret
  · -- nothing has changed in the loaded row, and the secret of the stored one stays
    have hkept : (FactorWork.update ⟨loaded, .setup secret⟩ row).totpSecret = row.totpSecret :=
      if_pos hsame
    rw [hkept]
    exact iff_of_true (hbacked hon) (Or.inl hsame.symm)
  · have hnew : (FactorWork.update ⟨loaded, .setup secret⟩ row).totpSecret = some secret :=
      if_neg hsame
    rw [hnew]
    constructor
    · rintro ⟨found, hfound, haccepted⟩
      cases hfound
      exact Or.inr haccepted
    · rintro (hloaded | haccepted)
      · exact absurd hloaded.symm hsame
      · exact ⟨secret, rfl, haccepted⟩

theorem backed_verify_iff {recoveryCodes : String} (hbacked : Backed accepted row) :
    Backed accepted (FactorWork.update ⟨loaded, .verify recoveryCodes⟩ row) ↔
      (loaded.totpEnabled = false → ∃ secret, row.totpSecret = some secret ∧ accepted secret) := by
  have hkept : (FactorWork.update ⟨loaded, .verify recoveryCodes⟩ row).totpSecret = row.totpSecret :=
    Table.assigned_self _ _
  rw [Backed, hkept]
  cases hloaded : loaded.totpEnabled with
  | true =>
    have henabled : (FactorWork.update ⟨loaded, .verify recoveryCodes⟩ row).totpEnabled =
        row.totpEnabled := if_pos hloaded.symm
    rw [henabled]
    exact iff_of_true hbacked fun hoff => Bool.noConfusion hoff
  | false =>
    have henabled : (FactorWork.update ⟨loaded, .verify recoveryCodes⟩ row).totpEnabled = true := by
      apply if_neg
      rw [hloaded]
      exact Bool.true_eq_false_eq_False
    rw [henabled]
    exact ⟨fun h _ => h rfl, fun h _ => h rfl⟩

theorem backed_disable (hloaded : loaded.totpEnabled = true) :
    Backed accepted (FactorWork.update ⟨loaded, .disable⟩ row) := by
  have henabled : (FactorWork.update ⟨loaded, .disable⟩ row).totpEnabled = false := by
    apply if_neg
    rw [hloaded]
    exact Bool.false_ne_true
  intro hon
  rw [henabled] at hon
  exact absurd hon Bool.false_ne_true

end

section
variable {Tx : Type*} [DecidableEq Tx] {cfg : TwoFactorConfig} {s s' : FactorState Tx}

/-- What a client has proved it keeps. -/
theorem accepted_step {l : FactorLabel Tx} (hinv : FactorInv s)
    (h : step (factorProgram cfg) s l = some s') (u : Tx) :
    (s.session u).accepted <+: (s'.session u).accepted := by
  rcases step_session_cases h u with hkept | ⟨a, rfl, hstmt⟩ | ⟨rfl, hpub⟩ | ⟨rfl, habort⟩
  · rw [hkept]
  · exact (factor_stmt_spec (fun w hw => hinv u w hw) hstmt).1
  · obtain ⟨w, -, -, hm⟩ := factor_publish hpub
    rw [hm]
  · rw [habort]
    exact List.prefix_rfl

theorem FactorInv.step {l : FactorLabel Tx} (hinv : FactorInv s)
    (h : step (factorProgram cfg) s l = some s') : FactorInv s' := by
  intro u w hw
  rcases step_session_cases h u with hkept | ⟨a, rfl, hstmt⟩ | ⟨rfl, hpub⟩ | ⟨rfl, habort⟩
  · rw [hkept] at hw
    exact hinv u w hw
  · exact (factor_stmt_spec (fun w hw => hinv u w hw) hstmt).2 w hw
  · obtain ⟨w', -, -, hm⟩ := factor_publish hpub
    rw [hm] at hw
    cases hw
  · rw [habort] at hw
    cases hw

theorem Accepted.step {l : FactorLabel Tx} {secret : String} (h : Accepted s secret)
    (hinv : FactorInv s) (hstep : step (factorProgram cfg) s l = some s') : Accepted s' secret := by
  obtain ⟨t, ht⟩ := h
  exact ⟨t, (accepted_step hinv hstep t).subset ht⟩

/-- A commit proves nothing. -/
theorem accepted_commit {t : Tx} (hstep : step (factorProgram cfg) s (.commit t) = some s')
    (secret : String) : Accepted s' secret ↔ Accepted s secret := by
  have hsame : ∀ u, (s'.session u).accepted = (s.session u).accepted := by
    intro u
    rcases step_session_cases hstep u with hkept | ⟨a, hl, -⟩ | ⟨-, hpub⟩ | ⟨hl, -⟩
    · rw [hkept]
    · cases hl
    · obtain ⟨w, -, -, hm⟩ := factor_publish hpub
      rw [hm]
    · cases hl
  exact exists_congr fun u => by rw [hsame u]

/-- Whether a commit keeps the second factor proven. -/
theorem proven_commit_iff {t : Tx} (hinv : FactorInv s) (hproven : Proven s)
    (hstep : step (factorProgram cfg) s (.commit t) = some s') :
    Proven s' ↔ NotOvertaken s (.commit t) := by
  have haccepted := accepted_commit hstep
  obtain ⟨user, m, hpub, hs'⟩ := step_commit_eq_some.mp hstep
  obtain ⟨w, hstage, huser, -⟩ := factor_publish hpub
  have hcommitted : s'.committed = w.update s.committed := by rw [hs', huser]
  have hok := hinv t w (by rw [hstage]; rfl)
  have hafter : Proven s' ↔ Backed (Accepted s) (w.update s.committed) := by
    rw [Proven, ProvenSecret, hcommitted, Backed]
    simp only [haccepted]
  rw [hafter, NotOvertaken, hstage]
  rcases w with ⟨loaded, change⟩
  cases change with
  | setup secret => exact backed_setup_iff hproven
  | verify recoveryCodes => exact backed_verify_iff hproven
  | disable => exact iff_of_true (backed_disable hok) trivial

/-- The user has no second factor yet. -/
def withoutFactor (user : FactorUser) : FactorUser :=
  { user with totpSecret := none, totpEnabled := false, totpVerified := false, recoveryCodes := none }

end

/-- An authenticator that shows `123456` for one secret, at any time. -/
def oneCode : TwoFactorConfig where
  verifyPassword _ _ := false
  sha256 text := text
  verifyTotpCode secret code _ := secret = "JBSWY3DPEHPK3PXP" ∧ code = "123456"

def newcomer : FactorUser where
  id := 1
  email := "ann@x.org"
  passwordHash := ""
  firstName := "Ann"
  lastName := "Ames"

/-- The second setup has passed its check before the first one is verified. -/
def setupTwice : List (FactorLabel Bool) :=
  [.stmt true (.setup "JBSWY3DPEHPK3PXP"), .stmt true .flush, .commit true,
    .stmt false (.setup "KRSXG5CTMVRXEZLU"),
    .stmt true (.verify ⟨"123456", by decide⟩ [] 0), .stmt true .flush, .commit true,
    .stmt false .flush, .commit false]

end LegalForge.Auth
