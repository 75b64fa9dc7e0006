import LegalForge.TrustInvariant

/-! Client sub-ledgers inside a pooled trust account. `create_ledger_entry`
compares a disbursement with the balance of the whole account only. -/
namespace LegalForge.Trust
open Transition ReadCommitted

/-- What client `c` has left on account `a`. -/
def clientNet (db : Db) (a c : Uuid) : ℤ :=
  ledgerBalance ((db.entriesOf a).filter (fun e => e.clientId = c))

/-- No client's disbursements on `a` exceed its own deposits. -/
def Solvent (a : Uuid) (db : Db) : Prop :=
  ∀ c, 0 ≤ clientNet db a c

/-- A disbursement that commits on `a` is covered by its own client. -/
def Covered {Tx : Type*} (a : Uuid) (s : LedgerState Tx) : LedgerLabel Tx → Prop
  | .commit t =>
    match s.session t with
    | .flushed _ entry => entry.trustAccountId = a → entry.entryType = .disbursement →
        entry.amountCents ≤ clientNet s.committed a entry.clientId
    | _ => True
  | _ => True

theorem clientNet_record_self (db : Db) (entry : TrustLedgerEntry) :
    clientNet (db.record entry) entry.trustAccountId entry.clientId =
      clientNet db entry.trustAccountId entry.clientId+signedAmount entry := by
  rw [clientNet, entriesOf_record_self, List.filter_append]
  simp only [decide_true, List.filter_cons_of_pos, List.filter_nil, ledgerBalance_concat]
  rfl

theorem clientNet_record_of_client_ne (db : Db) (entry : TrustLedgerEntry) {c : Uuid}
    (h : entry.clientId ≠ c) :
    clientNet (db.record entry) entry.trustAccountId c = clientNet db entry.trustAccountId c := by
  rw [clientNet, entriesOf_record_self, List.filter_append]
  simp [clientNet, h]

theorem clientNet_record_of_account_ne (db : Db) (entry : TrustLedgerEntry) {a : Uuid}
    (h : entry.trustAccountId ≠ a) (c : Uuid) :
    clientNet (db.record entry) a c = clientNet db a c := by
  rw [clientNet, entriesOf_record_of_ne db entry h, clientNet]

/-- Recording an entry keeps a solvent account solvent exactly when the client
of the entry can bear it. -/
theorem solvent_record_iff {db : Db} {entry : TrustLedgerEntry}
    (h : Solvent entry.trustAccountId db) :
    Solvent entry.trustAccountId (db.record entry) ↔
      0 ≤ clientNet db entry.trustAccountId entry.clientId+signedAmount entry := by
  constructor
  · intro h'
    have := h' entry.clientId
    rwa [clientNet_record_self] at this
  · intro hpos c
    by_cases hc : entry.clientId = c
    · rw [← hc, clientNet_record_self]
      exact hpos
    · rw [clientNet_record_of_client_ne db entry hc]
      exact h c

variable {Tx : Type*} [DecidableEq Tx]

/-- Pending entries carry the positive amount of their request. -/
def PendingPositive (s : LedgerState Tx) : Prop :=
  ∀ t data entry, s.session t = .flushed data entry → 1 ≤ entry.amountCents

/-- An entry is pending only after the flush that built it from its request. -/
theorem stmt_flushed {db : Db} {m : Session} {act : Statement} {data : TrustLedgerEntryCreate}
    {entry : TrustLedgerEntry} (h : ledgerProgram.stmt db m act = some (.flushed data entry)) :
    ∃ id createdBy balance, entry = ledgerEntry id data createdBy balance := by
  cases m with
  | idle =>
    cases act with
    | selectForUpdate data' createdBy =>
      cases hacct : db.accounts data'.trustAccountId <;> simp [ledgerProgram, hacct] at h
    | flush id => cases h
  | locked data' createdBy account =>
    cases act with
    | selectForUpdate data' createdBy => cases h
    | flush id =>
      cases hb : newBalance account data' with
      | error e => simp [ledgerProgram, hb] at h
      | ok b =>
        obtain ⟨rfl, rfl⟩ : data' = data ∧ ledgerEntry id data' createdBy b = entry := by
          simpa [ledgerProgram, hb] using h
        exact ⟨id, createdBy, b, rfl⟩
  | _ => cases h

theorem pendingPositive_step {s s' : LedgerState Tx} {l : LedgerLabel Tx}
    (h : PendingPositive s) (hstep : step ledgerProgram s l = some s') : PendingPositive s' := by
  intro u data entry hu
  by_cases hut : u = l.tx
  · cases l with
    | stmt t act =>
      obtain ⟨-, m, hm, rfl⟩ := step_stmt_eq_some.mp hstep
      obtain rfl : u = t := hut
      obtain rfl : m = .flushed data entry := by simpa using hu
      obtain ⟨id, createdBy, balance, rfl⟩ := stmt_flushed hm
      exact data.amount_ge
    | commit t =>
      obtain ⟨db, m, hpub, rfl⟩ := step_commit_eq_some.mp hstep
      obtain ⟨data', entry', -, -, rfl⟩ := publish_eq_some hpub
      obtain rfl : u = t := hut
      simp at hu
    | rollback t =>
      rw [step_rollback_eq_some] at hstep
      subst hstep
      obtain rfl : u = t := hut
      cases hsess : s.session u <;> simp [ledgerProgram, hsess] at hu
  · rw [step_session_of_ne hstep hut] at hu
    exact h u data entry hu

/-- The committing step keeps `a` solvent exactly when it is covered. -/
theorem solvent_step_iff {a : Uuid} {s s' : LedgerState Tx} {l : LedgerLabel Tx}
    (hpos : PendingPositive s) (hsolv : Solvent a s.committed)
    (hstep : step ledgerProgram s l = some s') : Solvent a s'.committed ↔ Covered a s l := by
  cases l with
  | commit t =>
    obtain ⟨db, m, hpub, rfl⟩ := step_commit_eq_some.mp hstep
    obtain ⟨data, entry, hsess, rfl, rfl⟩ := publish_eq_some hpub
    simp only [Covered, hsess]
    by_cases ha : entry.trustAccountId = a
    · subst ha
      rw [solvent_record_iff hsolv]
      -- a deposit is borne by any client, since amounts are positive
      have hamount := hpos t data entry hsess
      have hnet := hsolv entry.clientId
      cases htype : entry.entryType <;> simp only [signedAmount, htype] <;> simp <;> omega
    · refine iff_of_true (fun c => ?_) (fun h => absurd h ha)
      rw [clientNet_record_of_account_ne _ _ ha]
      exact hsolv c
  | stmt t act =>
    rw [step_committed_eq hstep (fun u h => by cases h)]
    exact iff_of_true hsolv trivial
  | rollback t =>
    rw [step_committed_eq hstep (fun u h => by cases h)]
    exact iff_of_true hsolv trivial

/-- Along any interleaving, every client of an account that starts empty stays
solvent exactly as long as every disbursement that commits is covered by its
own client. -/
theorem solvent_throughout_iff {a : Uuid} {db : Db} (hempty : db.entriesOf a = [])
    (ls : List (LedgerLabel Tx)) :
    Throughout (step ledgerProgram) (fun s => Solvent a s.committed) (start db .idle) ls ↔
      Along (step ledgerProgram) (fun s l _ => Covered a s l) (start db .idle) ls := by
  -- an empty ledger leaves every client at zero
  have hsolv : Solvent a (start db .idle : LedgerState Tx).committed := by
    intro c
    simp [clientNet, start, hempty]
  have hpos : PendingPositive (start db .idle : LedgerState Tx) := by
    intro t data entry h
    cases h
  have hiff := throughout_iff_along (P := fun s : LedgerState Tx => Solvent a s.committed)
    (C := Covered a)
    (fun _ _ _ h hstep => pendingPositive_step h hstep)
    (fun _ _ _ h hs hstep => solvent_step_iff h hs hstep) hpos ls
  rw [hiff]
  exact and_iff_right hsolv

/-- One client deposits, another one is paid out. -/
def borrowedRun : List (LedgerLabel ℕ) :=
  [.stmt 0 (.selectForUpdate (request 1 .deposit 100 (by decide)) 9), .stmt 0 (.flush 10),
   .commit 0, .stmt 1 (.selectForUpdate (request 2 .disbursement 100 (by decide)) 9),
   .stmt 1 (.flush 11), .commit 1]

theorem solvent_throughout_borrowedRun :
    Throughout (step ledgerProgram) (fun s => Solvent 1 s.committed)
        (start freshDb .idle) borrowedRun ↔
      Along (step ledgerProgram) (fun s l _ => Covered 1 s l) (start freshDb .idle) borrowedRun :=
  solvent_throughout_iff rfl borrowedRun

/-- The pooled balance lets the second client spend the money of the first. -/
theorem not_solvent_borrowedRun : ¬ ∀ s : LedgerState ℕ,
    exec (step ledgerProgram) (start freshDb .idle) borrowedRun = some s →
      Solvent 1 s.committed := by
  intro h
  have hneg := h _ rfl 2
  revert hneg
  decide

end LegalForge.Trust
