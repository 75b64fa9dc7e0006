import LegalForge.TrustLedger
import LegalForge.RunningFold

/-! Every interleaving of `create_ledger_entry` requests keeps the balance of an
account, its entries and their stored running balances in step. -/
namespace LegalForge.Trust
open Transition ReadCommitted RunningFold

abbrev LedgerState (Tx : Type*) := State Db Session Uuid Tx
abbrev LedgerLabel (Tx : Type*) := Label Statement Tx

theorem ledgerBalance_eq_sum (es : List TrustLedgerEntry) :
    ledgerBalance es = (es.map signedAmount).sum := by
  induction es with
  | nil => rfl
  | cons e es ih =>
    rw [← List.singleton_append, ledgerBalance_append, ledgerBalance_singleton, ih,
      List.map_append, List.sum_append, List.map_singleton, List.sum_singleton]

/-- The stored balance of `a` is what its entries leave, it is not negative, and
each entry repeats the balance it left. -/
def LedgerInv (a : Uuid) (db : Db) : Prop :=
  ∃ acct, db.accounts a = some acct ∧ acct.balanceCents = ledgerBalance (db.entriesOf a) ∧
    0 ≤ acct.balanceCents ∧ Running signedAmount (fun e => e.runningBalanceCents) (db.entriesOf a)

/-- What a session on `a` may rely on while it holds the row lock: the balance
it read is still the committed one, and its pending entry extends it. -/
def SessionInv (a : Uuid) (db : Db) (rows : Set Uuid) : Session → Prop
  | .locked data _ account =>
    data.trustAccountId = a → a ∈ rows ∧ db.accounts a = some account
  | .flushed data entry =>
    entry.trustAccountId = data.trustAccountId ∧ (entry.trustAccountId = a → a ∈ rows ∧
      ∃ account, db.accounts a = some account ∧
        entry.runningBalanceCents = account.balanceCents+signedAmount entry ∧
        (0 ≤ account.balanceCents → 0 ≤ entry.runningBalanceCents))
  | _ => True

theorem ledgerInv_record {a : Uuid} {db : Db} {rows : Set Uuid} {data : TrustLedgerEntryCreate}
    {entry : TrustLedgerEntry} (hJ : LedgerInv a db) (hK : SessionInv a db rows (.flushed data entry)) :
    LedgerInv a (db.record entry) := by
  obtain ⟨acct, hacct, hbal, hnonneg, hrun⟩ := hJ
  by_cases ha : entry.trustAccountId = a
  · obtain ⟨-, account, haccount, hentry, hpos⟩ := hK.2 ha
    subst ha
    -- the balance the session read is still the committed one
    obtain rfl : acct = account := Option.some.inj (hacct.symm.trans haccount)
    refine ⟨_, accounts_record_self db entry hacct, ?_, hpos hnonneg, ?_⟩
    · rw [entriesOf_record_self, ledgerBalance_concat, ← hbal]
      exact hentry
    · rw [entriesOf_record_self]
      exact hrun.concat (by rw [hentry, hbal, ledgerBalance_eq_sum])
  · rw [LedgerInv, entriesOf_record_of_ne db entry ha, accounts_record_of_ne db entry ha]
    exact ⟨acct, hacct, hbal, hnonneg, hrun⟩

theorem sessionInv_selectForUpdate {a : Uuid} {db : Db} {rows : Set Uuid} {m : Session}
    {data : TrustLedgerEntryCreate} {createdBy : Uuid}
    (h : ledgerProgram.stmt db .idle (.selectForUpdate data createdBy) = some m) :
    SessionInv a db
      (rows ∪ {r | r ∈ ledgerProgram.locks db .idle (.selectForUpdate data createdBy)}) m := by
  cases hacct : db.accounts data.trustAccountId with
  | none =>
    simp only [ledgerProgram, hacct, Option.some.injEq] at h
    exact h ▸ trivial
  | some account =>
    simp only [ledgerProgram, hacct, Option.some.injEq] at h
    subst h
    rintro rfl
    exact ⟨by simp [ledgerProgram, hacct], hacct⟩

/-- The entry is computed from the balance that was read under the lock. -/
theorem sessionInv_flush {a : Uuid} {db : Db} {rows : Set Uuid} {m : Session}
    {data : TrustLedgerEntryCreate} {createdBy : Uuid} {account : TrustAccount} {id : Uuid}
    (hK : SessionInv a db rows (.locked data createdBy account))
    (h : ledgerProgram.stmt db (.locked data createdBy account) (.flush id) = some m) :
    SessionInv a db rows m := by
  cases hb : newBalance account data with
  | error e =>
    simp only [ledgerProgram, hb, Option.some.injEq] at h
    exact h ▸ trivial
  | ok b =>
    simp only [ledgerProgram, hb, Option.some.injEq] at h
    subst h
    refine ⟨rfl, fun ha => ?_⟩
    obtain ⟨hmem, hacct⟩ := hK ha
    exact ⟨hmem, account, hacct, newBalance_ok hb id createdBy⟩

/-- An entry for another account takes nothing away from what a session relies on. -/
theorem sessionInv_record {a : Uuid} {db : Db} {rows : Set Uuid} {n : Session}
    {entry : TrustLedgerEntry} (hne : a ∈ rows → entry.trustAccountId ≠ a)
    (hn : SessionInv a db rows n) : SessionInv a (db.record entry) rows n := by
  have hkeep : a ∈ rows → (db.record entry).accounts a = db.accounts a :=
    fun hmem => accounts_record_of_ne db entry (hne hmem)
  cases n with
  | locked data createdBy account =>
    intro h
    obtain ⟨hmem, hacct⟩ := hn h
    exact ⟨hmem, (hkeep hmem).trans hacct⟩
  | flushed data entry' =>
    refine ⟨hn.1, fun h => ?_⟩
    obtain ⟨hmem, account, hacct, hrest⟩ := hn.2 h
    exact ⟨hmem, account, (hkeep hmem).trans hacct, hrest⟩
  | _ => trivial

theorem publish_eq_some {db db' : Db} {m m' : Session}
    (h : ledgerProgram.publish db m = some (db', m')) :
    ∃ data entry, m = .flushed data entry ∧ db' = db.record entry ∧ m' = .returned entry := by
  cases m with
  | flushed data entry =>
    simp only [ledgerProgram, Option.some.injEq, Prod.mk.injEq] at h
    exact ⟨data, entry, rfl, h.1.symm, h.2.symm⟩
  | _ => cases h

/-- The proof outline of `create_ledger_entry`. FOR UPDATE is what makes the
balance a session has read stable until it commits. -/
theorem ledgerOutline (a : Uuid) : Outline ledgerProgram (LedgerInv a) (SessionInv a) where
  stmt := by
    intro db rows m act m' _ hK hstmt
    cases m with
    | idle =>
      cases act with
      | selectForUpdate data createdBy => exact sessionInv_selectForUpdate hstmt
      | flush id => cases hstmt
    | locked data createdBy account =>
      cases act with
      | selectForUpdate data createdBy => cases hstmt
      | flush id =>
        have hlocks : {r | r ∈ ledgerProgram.locks db (.locked data createdBy account) (.flush id)} =
            (∅ : Set Uuid) := by
          ext r
          simp [ledgerProgram]
        rw [hlocks, Set.union_empty]
        exact sessionInv_flush hK hstmt
    | flushed data entry => cases hstmt
    | returned entry => cases hstmt
    | raised e => cases hstmt
    | aborted => cases hstmt
  commit := by
    intro db rows m db' m' hJ hK hpub
    obtain ⟨data, entry, rfl, rfl, rfl⟩ := publish_eq_some hpub
    exact ⟨ledgerInv_record hJ hK, trivial⟩
  abort := by
    intro db rows m _ _
    cases m <;> trivial
  stable := by
    intro db rows m db' m' rows' n _ hK hpub hdisj hn
    obtain ⟨data, entry, rfl, rfl, rfl⟩ := publish_eq_some hpub
    -- the committing session holds the row of its entry, so `n` cannot hold it too
    exact sessionInv_record (fun hmem h => Set.disjoint_left.mp hdisj (hK.2 h).1 hmem) hn

/-- The transactions that ran `SELECT ... FOR UPDATE` on `a`, in that order. -/
def lockOrder {Tx : Type*} (a : Uuid) (ls : List (LedgerLabel Tx)) : List Tx :=
  ls.filterMap fun
    | .stmt t (.selectForUpdate data _) => if data.trustAccountId = a then some t else none
    | _ => none

/-- The entry a request answered with. -/
def returnedEntry : Session → Option TrustLedgerEntry
  | .returned entry => some entry
  | _ => none

def OnAccount (a : Uuid) : Session → Prop
  | .idle => False
  | .locked data _ _ => data.trustAccountId = a
  | .flushed _ entry => entry.trustAccountId = a
  | .returned _ => True
  | .raised _ => True
  | .aborted => True

variable {Tx : Type*} [DecidableEq Tx]

/-- The entries of `a` are those its requests returned, in the order in which
the requests locked the account. -/
structure LockOrdered (a : Uuid) (ls : List (LedgerLabel Tx)) (s : LedgerState Tx) : Prop where
  nodup : (lockOrder a ls).Nodup
  last : ∀ t, s.holder a = some t → ∃ ts, lockOrder a ls = ts++[t]
  account : ∀ t ∈ lockOrder a ls, OnAccount a (s.session t)
  entries : s.committed.entriesOf a =
    (lockOrder a ls).filterMap (fun t => returnedEntry (s.session t))

omit [DecidableEq Tx] in
theorem lockOrder_concat (a : Uuid) (ls : List (LedgerLabel Tx)) (l : LedgerLabel Tx) :
    lockOrder a (ls++[l]) = lockOrder a ls++lockOrder a [l] := by
  simp only [lockOrder, List.filterMap_append]

/-- Changing a session that returned nothing, before and after, hides nothing. -/
theorem filterMap_returned_update (ts : List Tx) (session : Tx → Session) (t : Tx) (m : Session)
    (h : t ∈ ts → returnedEntry m = returnedEntry (session t)) :
    ts.filterMap (fun u => returnedEntry (Function.update session t m u)) =
      ts.filterMap (fun u => returnedEntry (session u)) := by
  apply List.filterMap_congr
  intro u hu
  by_cases hut : u = t
  · subst hut
    rw [Function.update_self]
    exact h hu
  · rw [Function.update_of_ne hut]

theorem onAccount_update {a : Uuid} {ts : List Tx} {session : Tx → Session} {t : Tx} {m : Session}
    (h : ∀ u ∈ ts, OnAccount a (session u)) (hm : t ∈ ts → OnAccount a m) :
    ∀ u ∈ ts, OnAccount a (Function.update session t m u) := by
  intro u hu
  by_cases hut : u = t
  · subst hut
    rw [Function.update_self]
    exact hm hu
  · rw [Function.update_of_ne hut]
    exact h u hu

/-- A step that locks nothing on `a` and commits nothing on `a`. -/
theorem LockOrdered.quiet {a : Uuid} {ls : List (LedgerLabel Tx)} {s s' : LedgerState Tx}
    {l : LedgerLabel Tx} {t : Tx} {m : Session} (h : LockOrdered a ls s)
    (horder : lockOrder a [l] = []) (hdb : s'.committed.entriesOf a = s.committed.entriesOf a)
    (hholder : ∀ u, s'.holder a = some u → s.holder a = some u)
    (hsession : s'.session = Function.update s.session t m)
    (hreturned : t ∈ lockOrder a ls → returnedEntry m = returnedEntry (s.session t))
    (haccount : t ∈ lockOrder a ls → OnAccount a m) : LockOrdered a (ls++[l]) s' := by
  have hls : lockOrder a (ls++[l]) = lockOrder a ls := by
    rw [lockOrder_concat, horder, List.append_nil]
  refine ⟨hls ▸ h.nodup, fun u hu => hls ▸ h.last u (hholder u hu), ?_, ?_⟩
  · rw [hls, hsession]
    exact onAccount_update h.account haccount
  · rw [hls, hsession, filterMap_returned_update _ _ _ _ hreturned, hdb]
    exact h.entries

/-- Locking `a` puts the transaction last in the order. -/
theorem LockOrdered.lock {a : Uuid} {ls : List (LedgerLabel Tx)} {s s' : LedgerState Tx}
    {l : LedgerLabel Tx} {t : Tx} {m : Session} (h : LockOrdered a ls s)
    (horder : lockOrder a [l] = [t]) (hdb : s'.committed = s.committed)
    (hholder : ∀ u, s'.holder a = some u → u = t)
    (hsession : s'.session = Function.update s.session t m)
    (hidle : s.session t = .idle) (hreturned : returnedEntry m = none) (haccount : OnAccount a m) :
    LockOrdered a (ls++[l]) s' := by
  have hls : lockOrder a (ls++[l]) = lockOrder a ls++[t] := by rw [lockOrder_concat, horder]
  -- a session locks `a` once: after that it is never idle again
  have hnot : t ∉ lockOrder a ls := fun ht => by
    have := h.account t ht
    rwa [hidle] at this
  refine ⟨?_, fun u hu => ⟨lockOrder a ls, by rw [hls, hholder u hu]⟩, ?_, ?_⟩
  · rw [hls]
    exact List.nodup_append.mpr ⟨h.nodup, List.nodup_singleton t, fun u hu v hv huv =>
      hnot (List.mem_singleton.mp hv ▸ huv ▸ hu)⟩
  · rw [hls, hsession]
    intro u hu
    rcases List.mem_append.mp hu with hu | hu
    · exact onAccount_update h.account (fun ht => absurd ht hnot) u hu
    · rw [List.mem_singleton.mp hu, Function.update_self]
      exact haccount
  · rw [hls, hsession, List.filterMap_append, filterMap_returned_update _ _ _ _
      (fun ht => absurd ht hnot), hdb, h.entries]
    simp [hreturned]

/-- The holder of the row lock commits its entry: it was the last to lock `a`. -/
theorem LockOrdered.commit {ls : List (LedgerLabel Tx)} {s s' : LedgerState Tx} {t : Tx}
    {data : TrustLedgerEntryCreate} {entry : TrustLedgerEntry}
    (h : LockOrdered entry.trustAccountId ls s)
    (hheld : s.holder entry.trustAccountId = some t)
    (hflushed : s.session t = .flushed data entry)
    (hdb : s'.committed = s.committed.record entry)
    (hholder : ∀ u, s'.holder entry.trustAccountId = some u →
      s.holder entry.trustAccountId = some u)
    (hsession : s'.session = Function.update s.session t (.returned entry)) :
    LockOrdered entry.trustAccountId (ls++[.commit t]) s' := by
  have hls : lockOrder entry.trustAccountId (ls++[.commit t]) =
      lockOrder entry.trustAccountId ls := by simp [lockOrder]
  -- the new entry belongs behind those of all requests that locked before `t`
  obtain ⟨ts, hts⟩ := h.last t hheld
  have hnot : t ∉ ts := fun ht =>
    (List.nodup_append.mp (hts ▸ h.nodup)).2.2 t ht t (List.mem_singleton_self t) rfl
  refine ⟨hls ▸ h.nodup, fun u hu => hls ▸ h.last u (hholder u hu), ?_, ?_⟩
  · rw [hls, hsession]
    exact onAccount_update h.account (fun _ => trivial)
  · have hbefore := h.entries
    rw [hts, List.filterMap_append] at hbefore
    rw [hls, hts, hsession, List.filterMap_append, filterMap_returned_update _ _ _ _
      (fun ht => absurd ht hnot), hdb, entriesOf_record_self, hbefore]
    simp [hflushed, returnedEntry]

theorem release_holder {holder : Uuid → Option Tx} {t u : Tx} {a : Uuid}
    (h : release holder t a = some u) : holder a = some u := by
  by_cases hut : u = t
  · exact absurd (hut ▸ h) release_ne_some
  · exact (release_eq_some_of_ne hut).mp h

/-- The statement that reads the account row: it locks `a` when the request is on `a`. -/
theorem LockOrdered.selectForUpdate {a : Uuid} {ls : List (LedgerLabel Tx)}
    {s s' : LedgerState Tx} {t : Tx} {data : TrustLedgerEntryCreate} {createdBy : Uuid}
    (h : LockOrdered a ls s) (hJ : LedgerInv a s.committed) (hidle : s.session t = .idle)
    (hstep : step ledgerProgram s (.stmt t (.selectForUpdate data createdBy)) = some s') :
    LockOrdered a (ls++[.stmt t (.selectForUpdate data createdBy)]) s' := by
  obtain ⟨hfree, m, hm, rfl⟩ := step_stmt_eq_some.mp hstep
  rw [hidle] at hm hfree
  by_cases ha : data.trustAccountId = a
  · subst ha
    obtain ⟨acct, hacct, -⟩ := hJ
    have hlocks : ledgerProgram.locks s.committed .idle (.selectForUpdate data createdBy) =
        [data.trustAccountId] := by simp [ledgerProgram, hacct]
    obtain rfl : Session.locked data createdBy acct = m := by
      simpa [ledgerProgram, hacct] using hm
    refine h.lock (by simp [lockOrder]) rfl (fun u hu => ?_) rfl hidle rfl rfl
    have hu' : acquire s.holder t [data.trustAccountId] data.trustAccountId = some u := by
      simpa only [hidle, hlocks] using hu
    simpa [acquire, eq_comm] using hu'
  · have hnot : t ∉ lockOrder a ls := fun ht => by
      have := h.account t ht
      rwa [hidle] at this
    have hlocks : a ∉ ledgerProgram.locks s.committed (s.session t)
        (.selectForUpdate data createdBy) := by
      cases hacct : s.committed.accounts data.trustAccountId <;>
        simp [ledgerProgram, hacct, Ne.symm ha]
    refine h.quiet (by simp [lockOrder, ha]) rfl (fun u hu => ?_) rfl
      (fun ht => absurd ht hnot) (fun ht => absurd ht hnot)
    simpa [acquire, hlocks] using hu

/-- The balance check and flush take no further lock. -/
theorem LockOrdered.flush {a : Uuid} {ls : List (LedgerLabel Tx)} {s s' : LedgerState Tx}
    {t : Tx} {data : TrustLedgerEntryCreate} {createdBy id : Uuid} {account : TrustAccount}
    (h : LockOrdered a ls s) (hlocked : s.session t = .locked data createdBy account)
    (hstep : step ledgerProgram s (.stmt t (.flush id)) = some s') :
    LockOrdered a (ls++[.stmt t (.flush id)]) s' := by
  obtain ⟨-, m, hm, rfl⟩ := step_stmt_eq_some.mp hstep
  rw [hlocked] at hm
  have hquiet : returnedEntry m = none ∧ (data.trustAccountId = a → OnAccount a m) := by
    cases hb : newBalance account data with
    | error e =>
      obtain rfl : Session.raised e = m := by simpa [ledgerProgram, hb] using hm
      exact ⟨rfl, fun _ => trivial⟩
    | ok b =>
      obtain rfl : Session.flushed data (ledgerEntry id data createdBy b) = m := by
        simpa [ledgerProgram, hb] using hm
      exact ⟨rfl, fun ha => ha⟩
  refine h.quiet (by simp [lockOrder]) rfl (fun u hu => by simpa [acquire, ledgerProgram] using hu)
    rfl (fun _ => by rw [hquiet.1, hlocked]; rfl) (fun ht => hquiet.2 ?_)
  have := h.account t ht
  rwa [hlocked] at this

/-- One step keeps the lock order. -/
theorem LockOrdered.step {a : Uuid} {ls : List (LedgerLabel Tx)} {s s' : LedgerState Tx}
    {l : LedgerLabel Tx} (h : LockOrdered a ls s) (hinv : Holds (LedgerInv a) (SessionInv a) s)
    (hstep : step ledgerProgram s l = some s') : LockOrdered a (ls++[l]) s' := by
  cases l with
  | stmt t act =>
    obtain ⟨-, m, hm, -⟩ := step_stmt_eq_some.mp hstep
    cases hsess : s.session t with
    | idle =>
      cases act with
      | selectForUpdate data createdBy => exact h.selectForUpdate hinv.1 hsess hstep
      | flush id => rw [hsess] at hm; cases hm
    | locked data createdBy account =>
      cases act with
      | selectForUpdate data createdBy => rw [hsess] at hm; cases hm
      | flush id => exact h.flush hsess hstep
    | _ => rw [hsess] at hm; cases hm
  | commit t =>
    obtain ⟨db, m, hpub, rfl⟩ := step_commit_eq_some.mp hstep
    obtain ⟨data, entry, hsess, rfl, rfl⟩ := publish_eq_some hpub
    have hK := hinv.2 t
    rw [hsess] at hK
    -- a commit on another account leaves the order as it is
    by_cases ha : entry.trustAccountId = a
    · subst ha
      exact h.commit (hK.2 rfl).1 hsess rfl (fun u hu => release_holder hu) rfl
    · have hnot : t ∉ lockOrder a ls := fun ht => ha (by
        have := h.account t ht
        rwa [hsess] at this)
      exact h.quiet (by simp [lockOrder]) (entriesOf_record_of_ne _ _ ha)
        (fun u hu => release_holder hu) rfl (fun ht => absurd ht hnot) (fun _ => trivial)
  | rollback t =>
    rw [step_rollback_eq_some] at hstep
    subst hstep
    refine h.quiet (by simp [lockOrder]) rfl (fun u hu => release_holder hu) rfl
      (fun _ => by cases s.session t <;> rfl) (fun ht => ?_)
    have := h.account t ht
    cases hsess : s.session t <;> simp_all [ledgerProgram, OnAccount]

theorem ledger_run {a : Uuid} {db : Db} {acct : TrustAccount} (hacct : db.accounts a = some acct)
    (hzero : acct.balanceCents = 0) (hempty : db.entriesOf a = []) {ls : List (LedgerLabel Tx)}
    {s : LedgerState Tx} (hrun : exec (step ledgerProgram) (start db .idle) ls = some s) :
    Holds (LedgerInv a) (SessionInv a) s ∧ LockOrdered a ls s := by
  have hstart : Holds (LedgerInv a) (SessionInv a) (start db .idle : LedgerState Tx) := by
    refine holds_start ⟨acct, hacct, ?_, hzero.ge, ?_⟩ trivial
    · rw [hempty, hzero, ledgerBalance_nil]
    · rw [hempty]
      exact running_nil
  -- the order of the locks needs the outline in the state before each step
  induction ls using List.reverseRecOn generalizing s with
  | nil =>
    obtain rfl := Option.some.inj hrun
    refine ⟨hstart, List.nodup_nil, ?_, ?_, by simpa [lockOrder, start] using hempty⟩
    · intro t ht
      cases ht
    · intro t ht
      cases ht
  | append_singleton ls l ih =>
    obtain ⟨u, hu, hl⟩ := exec_concat_eq_some.mp hrun
    obtain ⟨hholds, hord⟩ := ih hu
    exact ⟨(ledgerOutline a).holds_step hholds hl, hord.step hholds hl⟩

/-- No statement leaves `returned`. -/
theorem returned_step {s s' : LedgerState Tx} {l : LedgerLabel Tx} {t : Tx}
    {entry : TrustLedgerEntry} (h : s.session t = .returned entry)
    (hstep : step ledgerProgram s l = some s') : s'.session t = .returned entry := by
  by_cases hlt : t = l.tx
  · cases l with
    | stmt u act =>
      obtain ⟨-, m, hm, -⟩ := step_stmt_eq_some.mp hstep
      obtain rfl : t = u := hlt
      rw [h] at hm
      cases hm
    | commit u =>
      obtain ⟨db, m, hpub, -⟩ := step_commit_eq_some.mp hstep
      obtain rfl : t = u := hlt
      rw [h] at hpub
      cases hpub
    | rollback u =>
      obtain rfl : t = u := hlt
      rw [step_rollback_eq_some.mp hstep]
      simp [h, ledgerProgram]
  · rw [step_session_of_ne hstep hlt, h]

/-- A request whose session did not end in `returned` never changed a committed row. -/
theorem committed_of_not_returned {s s' : LedgerState Tx} {ls : List (LedgerLabel Tx)} {t : Tx}
    (hrun : exec (step ledgerProgram) s ls = some s')
    (hend : ∀ entry, s'.session t ≠ .returned entry) :
    Along (step ledgerProgram) (fun u l v => l.tx = t → v.committed = u.committed) s ls := by
  induction ls generalizing s with
  | nil => trivial
  | cons l ls ih =>
    intro u hu
    obtain ⟨u', hu', hrest⟩ := exec_cons_eq_some.mp hrun
    obtain rfl := Option.some.inj (hu.symm.trans hu')
    refine ⟨fun hl => ?_, ih hrest⟩
    refine step_committed_eq hu fun t' hcommit => ?_
    subst hcommit
    obtain rfl : t' = t := hl
    obtain ⟨db, m, hpub, rfl⟩ := step_commit_eq_some.mp hu
    obtain ⟨data, entry, -, rfl, rfl⟩ := publish_eq_some hpub
    -- the session would still be in `returned` at the end
    exact hend entry (exec_invariant (I := fun v => v.session t' = .returned entry)
      (fun _ _ _ hv hw => returned_step hv hw) (Function.update_self ..) hrest)

/-- What the trust ledger promises about account `a` in the state `s` that the
labels `ls` reach from `db`. -/
structure LedgerCorrect (a : Uuid) (db : Db) (ls : List (LedgerLabel Tx)) (s : LedgerState Tx) :
    Prop where
  /-- The stored balance is deposits minus disbursements, and never negative. -/
  balance : ∃ acct, s.committed.accounts a = some acct ∧
    acct.balanceCents = depositTotal (s.committed.entriesOf a)-
      disbursementTotal (s.committed.entriesOf a) ∧ 0 ≤ acct.balanceCents
  /-- The entries stand in the order in which their requests locked the account. -/
  order : s.committed.entriesOf a =
    (lockOrder a ls).filterMap (fun t => returnedEntry (s.session t))
  running : ∀ pre entry post, s.committed.entriesOf a = pre++entry :: post →
    entry.runningBalanceCents = depositTotal (pre++[entry])-disbursementTotal (pre++[entry])
  /-- No step of a request that raised changed a committed row. -/
  raised : ∀ t e, s.session t = .raised e → Along (step ledgerProgram)
    (fun u l v => l.tx = t → v.committed = u.committed) (start db .idle) ls
  reconciled : ∀ (data : TrustReconciliationCreate) (performedBy id : Uuid),
    data.trustAccountId = a → ∃ recon db',
      createReconciliation s.committed data performedBy id = .ok (recon, db') ∧
      (recon.isBalanced = true ↔ data.statementBalanceCents =
        depositTotal (s.committed.entriesOf a)-disbursementTotal (s.committed.entriesOf a))

/-- Every interleaving of requests keeps the ledger of a fresh account correct. -/
theorem ledger_correct {a : Uuid} {db : Db} {acct : TrustAccount}
    (hacct : db.accounts a = some acct) (hzero : acct.balanceCents = 0)
    (hempty : db.entriesOf a = []) {ls : List (LedgerLabel Tx)} {s : LedgerState Tx}
    (hrun : exec (step ledgerProgram) (start db .idle) ls = some s) : LedgerCorrect a db ls s := by
  obtain ⟨⟨⟨acct', hacct', hbal, hnonneg, hrunning⟩, -⟩, hord⟩ :=
    ledger_run hacct hzero hempty hrun
  refine ⟨⟨acct', hacct', hbal, hnonneg⟩, hord.entries, ?_, ?_, ?_⟩
  · intro pre entry post hsplit
    exact (hrunning pre entry post hsplit).trans (ledgerBalance_eq_sum _).symm
  · intro t e ht
    refine committed_of_not_returned hrun fun entry h => ?_
    cases ht.symm.trans h
  · intro data performedBy id hdata
    subst hdata
    simp only [createReconciliation, hacct', Except.ok.injEq, Prod.mk.injEq]
    refine ⟨_, _, ⟨rfl, rfl⟩, ?_⟩
    simp only [decide_eq_true_eq, hbal]
    rfl

/-- An account without entries, for the runs below. -/
def freshDb : Db where
  accounts := fun a => if a = 1 then some ⟨1, 0⟩ else none
  entries := []
  reconciliations := []

def request (clientId : Uuid) (entryType : TrustEntryType) (amountCents : ℤ)
    (h : 1 ≤ amountCents) : TrustLedgerEntryCreate :=
  ⟨1, clientId, none, entryType, amountCents, "retainer", none, 0, h, by decide⟩

/-- A deposit, then a disbursement that locks the account while a too large one waits. -/
theorem ledger_correct_three_callers : ∃ s : LedgerState ℕ,
    exec (step ledgerProgram) (start freshDb .idle)
      [.stmt 0 (.selectForUpdate (request 7 .deposit 100 (by decide)) 9), .stmt 0 (.flush 10),
       .commit 0, .stmt 1 (.selectForUpdate (request 7 .disbursement 30 (by decide)) 9),
       .stmt 1 (.flush 11), .commit 1,
       .stmt 2 (.selectForUpdate (request 7 .disbursement 80 (by decide)) 9),
       .stmt 2 (.flush 12), .rollback 2] = some s ∧
    LedgerCorrect 1 freshDb
      [.stmt 0 (.selectForUpdate (request 7 .deposit 100 (by decide)) 9), .stmt 0 (.flush 10),
       .commit 0, .stmt 1 (.selectForUpdate (request 7 .disbursement 30 (by decide)) 9),
       .stmt 1 (.flush 11), .commit 1,
       .stmt 2 (.selectForUpdate (request 7 .disbursement 80 (by decide)) 9),
       .stmt 2 (.flush 12), .rollback 2] s :=
  ⟨_, rfl, ledger_correct rfl rfl rfl rfl⟩

end LegalForge.Trust
