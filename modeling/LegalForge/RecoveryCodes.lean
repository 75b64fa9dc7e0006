import LegalForge.TwoFactorLogin

/-! How often a recovery code is accepted, and what is left of the stored codes,
over every interleaving of logins with a second factor. -/
namespace LegalForge.Auth
open Transition ReadCommitted JsonText

/-! The stored text. -/

/-- A column of recovery codes that holds these hashes. -/
def codesText (hashes : List String) : String :=
  dumps (.arr (hashes.map hashValue))

theorem hashRecoveryCodes_eq (cfg : Config) (codes : List String) :
    hashRecoveryCodes cfg codes = codesText (codes.map cfg.sha256) := by
  rw [hashRecoveryCodes, codesText, List.map_map]
  rfl

theorem hashValue_injective : Function.Injective hashValue := by
  intro a b h
  have hcodes : codePoints a.toList = codePoints b.toList := Value.str.inj h
  have hchars : a.toList = b.toList := List.map_injective_iff.mpr (fun _ _ => Char.toNat_inj.mp) hcodes
  exact String.toList_inj.mp hchars

theorem wellFormed_hashes (hashes : List String) : WellFormed (.arr (hashes.map hashValue)) := by
  induction hashes with
  | nil => trivial
  | cons hash hashes ih => exact ⟨fun _ hn => scalar_of_mem_codePoints hn, ih⟩

theorem loads_codesText (hashes : List String) :
    loads (codesText hashes) = some (.arr (hashes.map hashValue)) :=
  loads_dumps (wellFormed_hashes hashes)

theorem codesText_injective : Function.Injective codesText := by
  intro a b h
  have hloads := loads_codesText a
  rw [h, loads_codesText b] at hloads
  have hvalues := Value.arr.inj (Option.some.inj hloads)
  exact (List.map_injective_iff.mpr hashValue_injective hvalues).symm

theorem compareDigest_hashValue {hash other : String} {equal : Bool}
    (h : compareDigest hash (hashValue other) = some equal) : equal = true ↔ other = hash := by
  simp only [compareDigest, hashValue] at h
  split_ifs at h
  obtain rfl := Option.some.inj h
  rw [decide_eq_true_iff]
  constructor
  · exact fun heq => hashValue_injective (congrArg Value.str heq)
  · rintro rfl
    rfl

/-- What is popped is the first hash that equals the one of the code. -/
theorem popHash_eq_some {hash : String} {hashes : List String} {rest : List Value}
    (h : popHash hash (hashes.map hashValue) = some (some rest)) :
    ∃ pre post, hashes = pre++hash :: post ∧ rest = (pre++post).map hashValue := by
  induction hashes generalizing rest with
  | nil => cases h
  | cons other hashes ih =>
    simp only [List.map_cons, popHash] at h
    obtain ⟨equal, hequal, hcase⟩ := Option.bind_eq_some_iff.mp h
    split_ifs at hcase with htrue
    · have hsame : other = hash := (compareDigest_hashValue hequal).mp htrue
      have hrest := Option.some.inj (Option.some.inj hcase)
      exact ⟨[], hashes, by rw [hsame]; rfl, hrest.symm⟩
    · obtain ⟨popped, hpop, hpopped⟩ := Option.map_eq_some_iff.mp hcase
      obtain ⟨items, rfl, rfl⟩ := Option.map_eq_some_iff.mp hpopped
      obtain ⟨pre, post, rfl, rfl⟩ := ih hpop
      exact ⟨other :: pre, post, rfl, rfl⟩

/-- An accepted code, as its request sees it. -/
theorem verifyRecoveryCode_accepts {cfg : Config} {hashes : List String} {code updated : String}
    (h : verifyRecoveryCode cfg (codesText hashes) code = some (true, updated)) :
    ∃ pre post, hashes = pre++cfg.sha256 (Text.upper code) :: post ∧
      updated = codesText (pre++post) := by
  simp only [verifyRecoveryCode, loads_codesText] at h
  obtain ⟨popped, hpop, hout⟩ := Option.map_eq_some_iff.mp h
  cases popped with
  | none => cases hout
  | some rest =>
    obtain ⟨pre, post, hhashes, rfl⟩ := popHash_eq_some hpop
    exact ⟨pre, post, hhashes, (Prod.mk.inj hout).2.symm⟩

/-! The tables. -/

def storedCodes (db : TwoFactorDb) (userId : Uuid) : Option String :=
  (getTwoFactorUser db userId).bind fun u => u.recoveryCodes

def acceptedHashes (db : TwoFactorDb) (userId : Uuid) : List String :=
  (db.accepted.filter (fun entry => entry.1 = userId)).map Prod.snd

theorem storedCodes_spendCode_of_ne {db : TwoFactorDb} {use : CodeUse} {userId : Uuid}
    (h : use.user.id ≠ userId) : storedCodes (spendCode db use) userId = storedCodes db userId := by
  simp only [storedCodes, getTwoFactorUser, spendCode]
  rw [Table.find_alter_of_ne (by intro x hx; exact hx) (Ne.symm h)]

/-- The UPDATE writes the column, because the session has changed it. -/
theorem storedCodes_spendCode {db : TwoFactorDb} {use : CodeUse} {text : String}
    (hstored : storedCodes db use.user.id = some text)
    (hchanged : some use.updated ≠ use.user.recoveryCodes) :
    storedCodes (spendCode db use) use.user.id = some use.updated := by
  obtain ⟨user, huser, -⟩ := Option.bind_eq_some_iff.mp hstored
  simp only [getTwoFactorUser] at huser
  simp only [storedCodes, getTwoFactorUser, spendCode]
  rw [Table.find_alter_self (by intro x hx; exact hx), huser]
  simp [Table.assigned, hchanged]

theorem acceptedHashes_spendCode (db : TwoFactorDb) (use : CodeUse) (userId : Uuid) :
    acceptedHashes (spendCode db use) userId =
      acceptedHashes db userId++if use.user.id = userId then [use.codeHash] else [] := by
  simp only [acceptedHashes, spendCode, List.filter_append, List.map_append]
  by_cases h : use.user.id = userId <;> simp [h]

/-! The sessions. -/

/-- The code that a session is going to spend. -/
def pendingUse : TwoFactorSession → Option CodeUse
  | .updating use => some use
  | .issuing _ use => use
  | .ready use _ _ => use
  | _ => none

section
variable {cfg : TwoFactorConfig} {db : TwoFactorDb} {use : CodeUse}

theorem checkCode_pending {user : TwoFactorUser} {secret code : String} {now : Instant}
    (h : pendingUse (checkCode cfg user secret code now) = some use) :
    use.user = user ∧ use.codeHash = cfg.sha256 (Text.upper code) ∧
      ∃ stored, user.recoveryCodes = some stored ∧
        verifyRecoveryCode cfg.toConfig stored code = some (true, use.updated) := by
  unfold checkCode at h
  split_ifs at h
  · cases h
  · split at h
    · cases h
    · rename_i stored hstored
      split_ifs at h
      · cases h
      · split at h
        · cases h
        · cases h
        · rename_i updated hverify
          obtain rfl := Option.some.inj h
          exact ⟨rfl, rfl, stored, hstored, hverify⟩

/-- A request that is going to spend a code has found it in the column it read. -/
theorem selectUser_pending {data : TwoFactorLoginRequest} {now : Instant}
    (h : pendingUse (selectUser cfg db data now) = some use) :
    getTwoFactorUser db use.user.id = some use.user ∧
      ∃ code stored, use.user.recoveryCodes = some stored ∧
        use.codeHash = cfg.sha256 (Text.upper code) ∧
        verifyRecoveryCode cfg.toConfig stored code = some (true, use.updated) := by
  unfold selectUser at h
  split at h
  · cases h
  · split at h
    · cases h
    · rename_i user huser
      split_ifs at h
      · cases h
      · split at h
        · cases h
        · split_ifs at h
          · cases h
          · obtain ⟨rfl, hhash, stored, hstored, hverify⟩ := checkCode_pending h
            have hid := Table.key_of_find huser
            exact ⟨by rw [hid]; exact huser, _, stored, hstored, hhash, hverify⟩

theorem twoFactorStmt_pending {m m' : TwoFactorSession} {a : TwoFactorStatement}
    (h : twoFactorStmt cfg db m a = some m') (hpending : pendingUse m' = some use) :
    pendingUse m = some use ∨ ∃ data now, pendingUse (selectUser cfg db data now) = some use := by
  cases m with
  | idle =>
    cases a with
    | select data now =>
      obtain rfl := Option.some.inj h
      exact Or.inr ⟨data, now, hpending⟩
    | _ => cases h
  | updating loaded =>
    cases a with
    | flush =>
      obtain rfl := Option.some.inj h
      exact Or.inl hpending
    | _ => cases h
  | issuing user loaded =>
    cases a with
    | insert draw now =>
      simp only [twoFactorStmt] at h
      split_ifs at h
      · obtain rfl := Option.some.inj h
        exact Or.inl hpending
      · obtain rfl := Option.some.inj h
        cases hpending
    | _ => cases h
  | ready loaded new response => cases h
  | returned response => cases h
  | raised error => cases h

theorem finishLogin_publish {m m' : TwoFactorSession} {db' : TwoFactorDb}
    (h : (twoFactorProgram cfg).publish db m = some (db', m')) :
    ∃ use new response, m = .ready use new response ∧ db' = finishLogin db use new ∧
      m' = .returned response := by
  cases m with
  | ready use new response =>
    obtain ⟨rfl, rfl⟩ := Prod.mk.inj (Option.some.inj h)
    exact ⟨use, new, response, rfl, rfl, rfl⟩
  | _ => cases h

end

abbrev TwoFactorState (Tx : Type*) := State TwoFactorDb TwoFactorSession LoginRow Tx
abbrev TwoFactorLabel (Tx : Type*) := Label TwoFactorStatement Tx

variable {cfg : TwoFactorConfig} {userId : Uuid} {codes : List String}

/-- The accepted codes and the stored ones are together the codes the user was given. -/
def SpentOnce {Tx : Type*} (cfg : TwoFactorConfig) (userId : Uuid) (codes : List String)
    (s : TwoFactorState Tx) : Prop :=
  ∃ left, storedCodes s.committed userId = some (codesText left) ∧
    (acceptedHashes s.committed userId++left).Perm (codes.map cfg.sha256)

/-- The column that a session is about to write back is as the session read it. -/
def StillStored (userId : Uuid) (db : TwoFactorDb) : TwoFactorSession → Prop
  | .ready (some use) _ _ =>
    use.user.id = userId → storedCodes db userId = use.user.recoveryCodes
  | _ => True

/-- What a session knows of the codes: it read a list that contains its own code and
every code that is still stored. -/
def ReadEarlier (userId : Uuid) (db : TwoFactorDb) (m : TwoFactorSession) : Prop :=
  ∀ use, pendingUse m = some use → use.user.id = userId →
    ∃ pre post left, use.user.recoveryCodes = some (codesText (pre++use.codeHash :: post)) ∧
      use.updated = codesText (pre++post) ∧ storedCodes db userId = some (codesText left) ∧
      left.Sublist (pre++use.codeHash :: post)

theorem readEarlier_select {db : TwoFactorDb} {left : List String} {use : CodeUse}
    {data : TwoFactorLoginRequest} {now : Instant}
    (hstored : storedCodes db userId = some (codesText left))
    (h : pendingUse (selectUser cfg db data now) = some use) (hid : use.user.id = userId) :
    ∃ pre post, use.user.recoveryCodes = some (codesText (pre++use.codeHash :: post)) ∧
      use.updated = codesText (pre++post) ∧ left = pre++use.codeHash :: post := by
  obtain ⟨huser, code, stored, hcolumn, hhash, hverify⟩ := selectUser_pending h
  have hread : storedCodes db userId = some stored := by
    rw [storedCodes, ← hid, huser]
    exact hcolumn
  have htext : stored = codesText left := Option.some.inj (hread.symm.trans hstored)
  rw [htext] at hverify hcolumn
  obtain ⟨pre, post, hleft, hupdated⟩ := verifyRecoveryCode_accepts hverify
  rw [← hhash] at hleft
  exact ⟨pre, post, by rw [hcolumn, hleft], hupdated, hleft⟩

/-- Spending a code keeps the account balanced exactly when the session had read
all that was stored. -/
theorem spend_perm_iff {accepted left pre post whole : List String} {hash : String}
    (h : (accepted++left).Perm whole) (hsub : left.Sublist (pre++hash :: post)) :
    (accepted++[hash]++(pre++post)).Perm whole ↔ left = pre++hash :: post := by
  have hmiddle : (accepted++[hash]++(pre++post)).Perm (accepted++(pre++hash :: post)) := by
    have hinsert : (hash :: (pre++post)).Perm (pre++hash :: post) := List.perm_middle.symm
    rw [List.append_assoc]
    exact List.Perm.append_left accepted hinsert
  constructor
  · intro hafter
    have hboth : (accepted++left).Perm (accepted++(pre++hash :: post)) :=
      h.trans (hafter.symm.trans hmiddle)
    exact hsub.eq_of_length ((List.perm_append_left_iff accepted).mp hboth).length_eq
  · rintro rfl
    exact hmiddle.trans h

variable {Tx : Type*} [DecidableEq Tx] {s s' : TwoFactorState Tx}

theorem pendingUse_step {l : TwoFactorLabel Tx} (hstep : step (twoFactorProgram cfg) s l = some s')
    {u : Tx} {use : CodeUse} (hu : pendingUse (s'.session u) = some use) :
    pendingUse (s.session u) = some use ∨
      (∀ t, l ≠ .commit t) ∧
        ∃ data now, pendingUse (selectUser cfg s.committed data now) = some use := by
  rcases step_session_cases hstep u with hsame | ⟨a, rfl, hm⟩ | ⟨-, hpub⟩ | ⟨-, habort⟩
  · exact Or.inl (hsame ▸ hu)
  · rcases twoFactorStmt_pending hm hu with hold | hread
    · exact Or.inl hold
    · exact Or.inr ⟨nofun, hread⟩
  · obtain ⟨_, _, _, -, -, hreturned⟩ := finishLogin_publish hpub
    rw [hreturned] at hu
    cases hu
  · rw [habort] at hu
    cases hsess : s.session u <;> rw [hsess] at hu <;> cases hu

theorem finishLogin_commit {t : Tx} (hstep : step (twoFactorProgram cfg) s (.commit t) = some s') :
    ∃ use new response, s.session t = .ready use new response ∧
      s'.committed = finishLogin s.committed use new ∧ s'.session t = .returned response := by
  obtain ⟨db, m, hpub, rfl⟩ := step_commit_eq_some.mp hstep
  obtain ⟨use, new, response, hsess, rfl, rfl⟩ := finishLogin_publish hpub
  exact ⟨use, new, response, hsess, rfl, Function.update_self t _ s.session⟩

def SpendInv (userId : Uuid) (s : TwoFactorState Tx) : Prop :=
  ∀ t, ReadEarlier userId s.committed (s.session t)

omit [DecidableEq Tx] in
/-- Before and after a commit that spends a code of the user. -/
theorem spend_commit {t : Tx} {use : CodeUse} {new : RefreshToken} {response : LoginResponse}
    (hinv : SpendInv userId s) (hspent : SpentOnce cfg userId codes s)
    (hsess : s.session t = .ready (some use) new response) (hid : use.user.id = userId) :
    ∃ pre post left, use.user.recoveryCodes = some (codesText (pre++use.codeHash :: post)) ∧
      storedCodes s.committed userId = some (codesText left) ∧
      (acceptedHashes s.committed userId++left).Perm (codes.map cfg.sha256) ∧
      left.Sublist (pre++use.codeHash :: post) ∧
      storedCodes (finishLogin s.committed (some use) new) userId =
        some (codesText (pre++post)) ∧
      acceptedHashes (finishLogin s.committed (some use) new) userId =
        acceptedHashes s.committed userId++[use.codeHash] := by
  obtain ⟨left, hstored, hperm⟩ := hspent
  obtain ⟨pre, post, left', hread, hupdated, hstored', hsub⟩ :=
    hinv t use (by rw [hsess]; rfl) hid
  have hleft : left' = left :=
    codesText_injective (Option.some.inj (hstored'.symm.trans hstored))
  -- the new text has one hash less than the text that was read
  have hchanged : some use.updated ≠ use.user.recoveryCodes := by
    rw [hupdated, hread]
    intro heq
    have hlength := congrArg List.length (codesText_injective (Option.some.inj heq))
    simp at hlength
  refine ⟨pre, post, left, hread, hstored, hperm, hleft ▸ hsub, ?_, ?_⟩
  · have hwritten := storedCodes_spendCode (hid ▸ hstored) hchanged
    rw [hid, hupdated] at hwritten
    exact hwritten
  · have haccepted := acceptedHashes_spendCode s.committed use userId
    rw [if_pos hid] at haccepted
    exact haccepted

/-- A commit that spends no code of the user leaves his codes alone. -/
theorem finishLogin_of_other (db : TwoFactorDb) {use : Option CodeUse} (new : RefreshToken)
    (h : ∀ used, use = some used → used.user.id ≠ userId) :
    storedCodes (finishLogin db use new) userId = storedCodes db userId ∧
      acceptedHashes (finishLogin db use new) userId = acceptedHashes db userId := by
  cases use with
  | none => exact ⟨rfl, rfl⟩
  | some used =>
    have hne := h used rfl
    have haccepted := acceptedHashes_spendCode db used userId
    rw [if_neg hne, List.append_nil] at haccepted
    exact ⟨storedCodes_spendCode_of_ne hne, haccepted⟩

theorem spentOnce_commit_iff {t : Tx} (hinv : SpendInv userId s)
    (hspent : SpentOnce cfg userId codes s)
    (hstep : step (twoFactorProgram cfg) s (.commit t) = some s') :
    SpentOnce cfg userId codes s' ↔ StillStored userId s.committed (s.session t) := by
  obtain ⟨use, new, response, hsess, hdb, -⟩ := finishLogin_commit hstep
  rw [hsess]
  by_cases hmine : ∃ used, use = some used ∧ used.user.id = userId
  · obtain ⟨used, rfl, hid⟩ := hmine
    obtain ⟨pre, post, left, hread, hstored, hperm, hsub, hstored', haccepted'⟩ :=
      spend_commit hinv hspent hsess hid
    have hafter : SpentOnce cfg userId codes s' ↔
        (acceptedHashes s.committed userId++[used.codeHash]++(pre++post)).Perm
          (codes.map cfg.sha256) := by
      rw [SpentOnce, hdb, hstored', haccepted']
      constructor
      · rintro ⟨left', hleft', hperm'⟩
        rwa [← codesText_injective (Option.some.inj hleft')] at hperm'
      · exact fun hperm' => ⟨pre++post, rfl, hperm'⟩
    rw [hafter, spend_perm_iff hperm hsub]
    simp only [StillStored, hid, hstored, hread, Option.some.injEq, codesText_injective.eq_iff,
      forall_const]
  · have hother : ∀ used, use = some used → used.user.id ≠ userId :=
      fun used hused hid => hmine ⟨used, hused, hid⟩
    obtain ⟨hstored, haccepted⟩ := finishLogin_of_other s.committed new hother
    refine iff_of_true ?_ ?_
    · obtain ⟨left, hleft, hperm⟩ := hspent
      exact ⟨left, by rw [hdb, hstored, hleft], by rw [hdb, haccepted]; exact hperm⟩
    · cases use with
      | none => trivial
      | some used => exact fun hid => absurd hid (hother used rfl)

theorem spendInv_step {l : TwoFactorLabel Tx} (hinv : SpendInv userId s)
    (hspent : SpentOnce cfg userId codes s)
    (hstep : step (twoFactorProgram cfg) s l = some s')
    (hspent' : SpentOnce cfg userId codes s') : SpendInv userId s' := by
  intro u use hpending hid
  rcases pendingUse_step hstep hpending with hold | ⟨hl, data, now, hread⟩
  · obtain ⟨pre, post, left, hcolumn, hupdated, hstored, hsub⟩ := hinv u use hold hid
    -- what is stored only gets shorter
    have hshorter : ∃ left', storedCodes s'.committed userId = some (codesText left') ∧
        left'.Sublist left := by
      cases l with
      | commit t =>
        have hstill := (spentOnce_commit_iff hinv hspent hstep).mp hspent'
        obtain ⟨spent, new, response, hsess, hdb, -⟩ := finishLogin_commit hstep
        rw [hdb]
        by_cases hmine : ∃ used, spent = some used ∧ used.user.id = userId
        · obtain ⟨used, rfl, hused⟩ := hmine
          obtain ⟨pre', post', left', hread', hstored', -, -, hafter, -⟩ :=
            spend_commit hinv hspent hsess hused
          rw [hsess] at hstill
          have hall := hstill hused
          rw [hread', hstored] at hall
          have hleft := codesText_injective (Option.some.inj hall)
          refine ⟨pre'++post', hafter, hleft ▸ ?_⟩
          exact List.Sublist.append_left (List.sublist_cons_self used.codeHash post') pre'
        · have hother := (finishLogin_of_other s.committed new
            fun used hused hid => hmine ⟨used, hused, hid⟩).1
          exact ⟨left, hother.trans hstored, List.Sublist.refl left⟩
      | stmt t a =>
        rw [step_committed_eq hstep nofun]
        exact ⟨left, hstored, List.Sublist.refl left⟩
      | rollback t =>
        rw [step_committed_eq hstep nofun]
        exact ⟨left, hstored, List.Sublist.refl left⟩
    obtain ⟨left', hstored', hsub'⟩ := hshorter
    exact ⟨pre, post, left', hcolumn, hupdated, hstored', hsub'.trans hsub⟩
  · obtain ⟨left, hstored, -⟩ := hspent
    obtain ⟨pre, post, hcolumn, hupdated, hleft⟩ := readEarlier_select hstored hread hid
    refine ⟨pre, post, left, hcolumn, hupdated, ?_, hleft ▸ List.Sublist.refl left⟩
    rw [step_committed_eq hstep hl]
    exact hstored

/-- In every interleaving of logins the accepted codes and the stored ones make up
the codes of the user, exactly when every session that commits a login with a
recovery code finds the column as it read it. -/
theorem spentOnce_throughout_iff (cfg : TwoFactorConfig) {db : TwoFactorDb} {userId : Uuid}
    {codes : List String}
    (hstored : storedCodes db userId = some (hashRecoveryCodes cfg.toConfig codes))
    (hnone : acceptedHashes db userId = []) (ls : List (TwoFactorLabel Tx)) :
    Throughout (step (twoFactorProgram cfg)) (SpentOnce cfg userId codes) (start db .idle) ls ↔
      Along (step (twoFactorProgram cfg)) (fun s l _ => AtCommit (StillStored userId) s l)
        (start db .idle) ls := by
  have hstart : SpentOnce cfg userId codes (start db .idle : TwoFactorState Tx) := by
    refine ⟨codes.map cfg.sha256, ?_, ?_⟩
    · rw [← hashRecoveryCodes_eq]
      exact hstored
    · show (acceptedHashes db userId++_).Perm _
      rw [hnone]
      exact List.Perm.refl _
  rw [throughout_atCommit_iff (I := SpendInv userId) (C := StillStored userId)
    (fun _ _ _ hinv hspent hstep hspent' => spendInv_step hinv hspent hstep hspent')
    (fun s l s' _ hspent hstep hl => by
      rw [SpentOnce, step_committed_eq hstep hl]
      exact hspent)
    (fun _ _ _ hinv hspent hstep => spentOnce_commit_iff hinv hspent hstep)
    (fun _ _ hpending => by cases hpending) ls]
  exact and_iff_right hstart

/-- SHA-256 of the recovery codes and of the tokens of the example. The one time
password of the moment is none of the codes presented. -/
def twoFactorConfig : TwoFactorConfig where
  verifyPassword _ _ := false
  verifyTotpCode _ _ _ := false
  sha256 text :=
    if text = "FFFFFFFFFFFFFFFF" then
      "5aab68d58ed338351691ec00ff8b78a4879dee8e8cbe26b37cd92dc892b93df4"
    else if text = "0123456789ABCDEF" then
      "2125b2c332b1113aae9bfc5e9f7e3b4c91d828cb942c2df1eeb02502eccae9e9"
    else rotationConfig.sha256 text

def generatedCodes : List String := ["FFFFFFFFFFFFFFFF", "0123456789ABCDEF"]

def enrolledUser : TwoFactorUser where
  id := 3
  email := "ann@firm.test"
  passwordHash := "$2b$12$"
  firstName := "Ann"
  lastName := "Lee"
  totpEnabled := true
  totpSecret := some "JBSWY3DPEHPK3PXP"
  recoveryCodes := some (hashRecoveryCodes twoFactorConfig.toConfig generatedCodes)

def enrolledDb : TwoFactorDb := ⟨[enrolledUser], [], []⟩

/-- Eight ligatures, whose upper case is the first code. -/
def ligatures : TwoFactorLoginRequest where
  tempToken := some (create2faPendingToken enrolledUser.toUser 0)
  code := "ﬀﬀﬀﬀﬀﬀﬀﬀ"
  code_length := by decide

/-- Two requests with one code. Both read the column before either commits. -/
def codeReplayed : List (TwoFactorLabel ℕ) :=
  [.stmt 0 (.select ligatures 5), .stmt 1 (.select ligatures 6),
   .stmt 0 .flush, .stmt 0 (.insert ⟨11, "tk-b"⟩ 7), .commit 0,
   .stmt 1 .flush, .stmt 1 (.insert ⟨12, "tk-c"⟩ 8), .commit 1]

theorem spentOnce_throughout_codeReplayed :
    Throughout (step (twoFactorProgram twoFactorConfig)) (SpentOnce twoFactorConfig 3 generatedCodes)
        (start enrolledDb .idle) codeReplayed ↔
      Along (step (twoFactorProgram twoFactorConfig)) (fun s l _ => AtCommit (StillStored 3) s l)
        (start enrolledDb .idle) codeReplayed :=
  spentOnce_throughout_iff twoFactorConfig rfl rfl codeReplayed

theorem acceptedHashes_codeReplayed :
    (exec (step (twoFactorProgram twoFactorConfig)) (start enrolledDb .idle) codeReplayed).map
        (fun s => acceptedHashes s.committed 3) =
      some [twoFactorConfig.sha256 "FFFFFFFFFFFFFFFF", twoFactorConfig.sha256 "FFFFFFFFFFFFFFFF"] := by
  decide +kernel

/-- The code is accepted twice. -/
theorem not_spentOnce_codeReplayed :
    ¬Throughout (step (twoFactorProgram twoFactorConfig))
      (SpentOnce twoFactorConfig 3 generatedCodes) (start enrolledDb .idle) codeReplayed := by
  intro h
  obtain ⟨s, hrun, haccepted⟩ := Option.map_eq_some_iff.mp acceptedHashes_codeReplayed
  obtain ⟨left, -, hperm⟩ := h.final hrun
  rw [haccepted] at hperm
  have htwice := hperm.count_eq (twoFactorConfig.sha256 "FFFFFFFFFFFFFFFF")
  have honce : (generatedCodes.map twoFactorConfig.sha256).count
      (twoFactorConfig.sha256 "FFFFFFFFFFFFFFFF") = 1 := by
    decide +kernel
  rw [honce, List.count_append, List.count_cons_self, List.count_cons_self] at htwice
  omega

end LegalForge.Auth
