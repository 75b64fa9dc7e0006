import LegalForge.BaseModels
import LegalForge.ReadCommitted

/-! The trust ledger: its tables, `create_ledger_entry` and
`create_reconciliation`. `create_ledger_entry` is given twice: as one function
of the committed rows, and as the statements that concurrent callers interleave. -/
namespace LegalForge.Trust
open Transition ReadCommitted

inductive TrustEntryType where
  | deposit
  | disbursement
  | transfer
  deriving DecidableEq

structure TrustAccount where
  id : Uuid
  balanceCents : ℤ
  deriving DecidableEq

structure TrustLedgerEntry where
  id : Uuid
  trustAccountId : Uuid
  clientId : Uuid
  matterId : Option Uuid
  entryType : TrustEntryType
  amountCents : ℤ
  runningBalanceCents : ℤ
  description : String
  referenceNumber : Option String
  entryDate : Date
  createdBy : Uuid
  deriving DecidableEq

structure TrustReconciliation where
  id : Uuid
  trustAccountId : Uuid
  reconciliationDate : Date
  statementBalanceCents : ℤ
  ledgerBalanceCents : ℤ
  isBalanced : Bool
  notes : Option String
  performedBy : Uuid
  deriving DecidableEq

/-- The request body, with the bounds its schema checks. -/
structure TrustLedgerEntryCreate where
  trustAccountId : Uuid
  clientId : Uuid
  matterId : Option Uuid
  entryType : TrustEntryType
  amountCents : ℤ
  description : String
  referenceNumber : Option String
  entryDate : Date
  amount_ge : 1 ≤ amountCents
  description_min : 1 ≤ description.length

structure TrustReconciliationCreate where
  trustAccountId : Uuid
  reconciliationDate : Date
  statementBalanceCents : ℤ
  notes : Option String

structure Db where
  accounts : Uuid → Option TrustAccount
  entries : List TrustLedgerEntry
  reconciliations : List TrustReconciliation

/-- The ledger of one account, in insertion order. -/
def Db.entriesOf (db : Db) (a : Uuid) : List TrustLedgerEntry :=
  db.entries.filter (fun e => e.trustAccountId = a)

inductive LedgerError where
  | accountNotFound
  | insufficientBalance
  deriving DecidableEq

def LedgerError.message : LedgerError → String
  | .accountNotFound => "Trust account not found"
  | .insufficientBalance => "Insufficient trust account balance"

def newBalance (account : TrustAccount) (data : TrustLedgerEntryCreate) : Except LedgerError ℤ :=
  match data.entryType with
  | .deposit => .ok (account.balanceCents+data.amountCents)
  | .disbursement =>
    if data.amountCents > account.balanceCents then .error .insufficientBalance
    else .ok (account.balanceCents-data.amountCents)
  | .transfer => .ok account.balanceCents

def ledgerEntry (id : Uuid) (data : TrustLedgerEntryCreate) (createdBy : Uuid) (balance : ℤ) :
    TrustLedgerEntry where
  id := id
  trustAccountId := data.trustAccountId
  clientId := data.clientId
  matterId := data.matterId
  entryType := data.entryType
  amountCents := data.amountCents
  runningBalanceCents := balance
  description := data.description
  referenceNumber := data.referenceNumber
  entryDate := data.entryDate
  createdBy := createdBy

/-- INSERT of the entry and UPDATE of its account. -/
def Db.record (db : Db) (entry : TrustLedgerEntry) : Db :=
  { db with
    accounts := Function.update db.accounts entry.trustAccountId
      ((db.accounts entry.trustAccountId).map
        (fun acct => { acct with balanceCents := entry.runningBalanceCents }))
    entries := db.entries++[entry] }

/-- `create_ledger_entry` with nothing running beside it. -/
def createLedgerEntry (db : Db) (data : TrustLedgerEntryCreate) (createdBy id : Uuid) :
    Except LedgerError (TrustLedgerEntry × Db) :=
  match db.accounts data.trustAccountId with
  | none => .error .accountNotFound
  | some account =>
    match newBalance account data with
    | .error e => .error e
    | .ok balance =>
      .ok (ledgerEntry id data createdBy balance, db.record (ledgerEntry id data createdBy balance))

def createReconciliation (db : Db) (data : TrustReconciliationCreate) (performedBy id : Uuid) :
    Except LedgerError (TrustReconciliation × Db) :=
  match db.accounts data.trustAccountId with
  | none => .error .accountNotFound
  | some account =>
    let recon : TrustReconciliation :=
      { id := id
        trustAccountId := data.trustAccountId
        reconciliationDate := data.reconciliationDate
        statementBalanceCents := data.statementBalanceCents
        ledgerBalanceCents := account.balanceCents
        isBalanced := data.statementBalanceCents = account.balanceCents
        notes := data.notes
        performedBy := performedBy }
    .ok (recon, { db with reconciliations := db.reconciliations++[recon] })

/-- Where one `create_ledger_entry` request stands. -/
inductive Session where
  | idle
  /-- The account row is read and locked. -/
  | locked (data : TrustLedgerEntryCreate) (createdBy : Uuid) (account : TrustAccount)
  /-- INSERT and UPDATE are flushed and wait for COMMIT. -/
  | flushed (data : TrustLedgerEntryCreate) (entry : TrustLedgerEntry)
  | returned (entry : TrustLedgerEntry)
  | raised (error : LedgerError)
  /-- Rolled back for a reason outside the function: a constraint, a lost connection. -/
  | aborted

inductive Statement where
  /-- `select(TrustAccount).where(id).with_for_update()` -/
  | selectForUpdate (data : TrustLedgerEntryCreate) (createdBy : Uuid)
  /-- The balance check, `db.add(entry)` and `db.flush()`. -/
  | flush (id : Uuid)

def ledgerProgram : Program Db Session Statement Uuid where
  locks db _ a :=
    match a with
    | .selectForUpdate data _ =>
      -- FOR UPDATE locks the rows it finds
      if (db.accounts data.trustAccountId).isSome then [data.trustAccountId] else []
    | .flush _ => []
  stmt db m a :=
    match m, a with
    | .idle, .selectForUpdate data createdBy =>
      match db.accounts data.trustAccountId with
      | none => some (.raised .accountNotFound)
      | some account => some (.locked data createdBy account)
    | .locked data createdBy account, .flush id =>
      match newBalance account data with
      | .error e => some (.raised e)
      | .ok balance => some (.flushed data (ledgerEntry id data createdBy balance))
    | _, _ => none
  publish db m :=
    match m with
    -- the balance written is the one computed from the locked row
    | .flushed _ entry => some (db.record entry, .returned entry)
    | _ => none
  abort m :=
    match m with
    | .idle => .idle
    | .returned entry => .returned entry
    | .raised e => .raised e
    | .locked _ _ _ => .aborted
    | .flushed _ _ => .aborted
    | .aborted => .aborted

/-- The statements of a request run one after the other leave the tables as
`create_ledger_entry` leaves them. -/
theorem exec_createLedgerEntry {Tx : Type*} [DecidableEq Tx] {s : State Db Session Uuid Tx} {t : Tx}
    {data : TrustLedgerEntryCreate} {createdBy id : Uuid} {entry : TrustLedgerEntry} {db : Db}
    (hidle : s.session t = .idle) (halone : Alone s t)
    (h : createLedgerEntry s.committed data createdBy id = .ok (entry, db)) :
    ∃ s', exec (step ledgerProgram) s
        [.stmt t (.selectForUpdate data createdBy), .stmt t (.flush id), .commit t] = some s' ∧
      s'.committed = db ∧ s'.session t = .returned entry := by
  unfold createLedgerEntry at h
  cases haccount : s.committed.accounts data.trustAccountId with
  | none =>
    rw [haccount] at h
    cases h
  | some account =>
    rw [haccount] at h
    dsimp only at h
    cases hbalance : newBalance account data with
    | error e =>
      rw [hbalance] at h
      cases h
    | ok balance =>
      rw [hbalance] at h
      obtain ⟨rfl, rfl⟩ := Prod.mk.inj (Except.ok.inj h)
      -- alone, each statement sees what the one before it left
      have hselect : ledgerProgram.stmt s.committed (s.session t)
          (.selectForUpdate data createdBy) = some (.locked data createdBy account) := by
        simp [ledgerProgram, hidle, haccount]
      obtain ⟨s₁, hs₁, hdb₁, hm₁, halone₁⟩ := halone.stmt hselect
      have hflush : ledgerProgram.stmt s₁.committed (s₁.session t) (.flush id) =
          some (.flushed data (ledgerEntry id data createdBy balance)) := by
        simp [ledgerProgram, hm₁, hbalance]
      obtain ⟨s₂, hs₂, hdb₂, hm₂, -⟩ := halone₁.stmt hflush
      have hpublish : ledgerProgram.publish s₂.committed (s₂.session t) =
          some (s₂.committed.record (ledgerEntry id data createdBy balance),
            .returned (ledgerEntry id data createdBy balance)) := by
        simp [ledgerProgram, hm₂]
      obtain ⟨s₃, hs₃, hdb₃, hm₃⟩ := step_commit_of_publish hpublish
      refine ⟨s₃, ?_, ?_, hm₃⟩
      · exact exec_cons_eq_some.mpr ⟨s₁, hs₁, exec_cons_eq_some.mpr ⟨s₂, hs₂,
          exec_cons_eq_some.mpr ⟨s₃, hs₃, rfl⟩⟩⟩
      · rw [hdb₃, hdb₂, hdb₁]

/-- The deposits of a list of entries. -/
def depositTotal (es : List TrustLedgerEntry) : ℤ :=
  ((es.filter (fun e => e.entryType = .deposit)).map (fun e => e.amountCents)).sum

def disbursementTotal (es : List TrustLedgerEntry) : ℤ :=
  ((es.filter (fun e => e.entryType = .disbursement)).map (fun e => e.amountCents)).sum

/-- What the entries leave on the account. -/
def ledgerBalance (es : List TrustLedgerEntry) : ℤ :=
  depositTotal es-disbursementTotal es

/-- The change one entry makes to its account. -/
def signedAmount (e : TrustLedgerEntry) : ℤ :=
  match e.entryType with
  | .deposit => e.amountCents
  | .disbursement => -e.amountCents
  | .transfer => 0

@[simp] theorem ledgerBalance_nil : ledgerBalance [] = 0 := rfl

theorem ledgerBalance_append (es fs : List TrustLedgerEntry) :
    ledgerBalance (es++fs) = ledgerBalance es+ledgerBalance fs := by
  simp only [ledgerBalance, depositTotal, disbursementTotal, List.filter_append,
    List.map_append, List.sum_append]
  omega

theorem ledgerBalance_singleton (e : TrustLedgerEntry) : ledgerBalance [e] = signedAmount e := by
  cases h : e.entryType <;>
    simp [ledgerBalance, depositTotal, disbursementTotal, signedAmount, h]

theorem ledgerBalance_concat (es : List TrustLedgerEntry) (e : TrustLedgerEntry) :
    ledgerBalance (es++[e]) = ledgerBalance es+signedAmount e := by
  rw [ledgerBalance_append, ledgerBalance_singleton]

/-- An accepted request moves the balance by its signed amount and keeps it
from going below zero. -/
theorem newBalance_ok {account : TrustAccount} {data : TrustLedgerEntryCreate} {b : ℤ}
    (h : newBalance account data = .ok b) (id createdBy : Uuid) :
    b = account.balanceCents+signedAmount (ledgerEntry id data createdBy b) ∧
      (0 ≤ account.balanceCents → 0 ≤ b) := by
  have ha := data.amount_ge
  cases ht : data.entryType with
  | deposit =>
    obtain rfl : account.balanceCents+data.amountCents = b := by simpa [newBalance, ht] using h
    simp only [signedAmount, ledgerEntry, ht, true_and]
    omega
  | disbursement =>
    by_cases hgt : data.amountCents > account.balanceCents
    · simp [newBalance, ht, hgt] at h
    · obtain rfl : account.balanceCents-data.amountCents = b := by
        simpa [newBalance, ht, hgt] using h
      simp only [signedAmount, ledgerEntry, ht]
      omega
  | transfer =>
    obtain rfl : account.balanceCents = b := by simpa [newBalance, ht] using h
    simp [signedAmount, ledgerEntry, ht]

theorem entriesOf_record_of_ne (db : Db) (entry : TrustLedgerEntry) {a : Uuid}
    (h : entry.trustAccountId ≠ a) : (db.record entry).entriesOf a = db.entriesOf a := by
  simp [Db.entriesOf, Db.record, List.filter_append, h]

theorem entriesOf_record_self (db : Db) (entry : TrustLedgerEntry) :
    (db.record entry).entriesOf entry.trustAccountId =
      db.entriesOf entry.trustAccountId++[entry] := by
  simp [Db.entriesOf, Db.record, List.filter_append]

theorem accounts_record_of_ne (db : Db) (entry : TrustLedgerEntry) {a : Uuid}
    (h : entry.trustAccountId ≠ a) : (db.record entry).accounts a = db.accounts a :=
  Function.update_of_ne (Ne.symm h) _ _

theorem accounts_record_self (db : Db) (entry : TrustLedgerEntry) {acct : TrustAccount}
    (h : db.accounts entry.trustAccountId = some acct) :
    (db.record entry).accounts entry.trustAccountId =
      some { acct with balanceCents := entry.runningBalanceCents } := by
  simp [Db.record, h]

end LegalForge.Trust
