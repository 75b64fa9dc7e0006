import LegalForge.TrustInvariant
import LegalForge.DoubleArithmetic
import LegalForge.PythonText

/-! The export of trust entries for QuickBooks Desktop, against the balance of the ledger. Each
entry becomes a transaction line and a split line, which post opposite amounts. -/
namespace LegalForge.Trust
open Transition ReadCommitted

/-- The columns of a client that make up its name. -/
structure ClientName where
  firstName : Option String
  lastName : Option String
  organizationName : Option String

/-- How the export names the client of an entry. -/
def exportedName : Option ClientName → String
  | none => ""
  | some client =>
    let org := client.organizationName.getD ""
    if org ≠ "" then org
    else Text.strip (client.firstName.getD ""++" "++client.lastName.getD "")

inductive IifTag where
  | trns
  | spl
  deriving DecidableEq

/-- One `TRNS` or `SPL` line. The amount is in hundredths, as printed. -/
structure IifLine where
  tag : IifTag
  id : ℕ
  trnsType : String
  date : Date
  account : String
  name : String
  amount : ℤ
  memo : String
  deriving DecidableEq

/-- The hundredths that `f"{cents / 100:.2f}"` prints. -/
def formatMoney (cents : ℤ) : ℤ :=
  Double.roundEven (100*Double.div cents 100)

/-- `desc[:80]`, and a default for an empty text. -/
def exportedMemo (description : String) : String :=
  if description = "" then "Trust transaction" else String.ofList (description.toList.take 80)

def trustAccountName : String := "Trust/IOLTA Account"

def liabilityAccountName : String := "Client Trust Liability"

/-- The transaction line on one account and the split line on the other. -/
def iifPair (idx : ℕ) (trnsType trnsAccount splAccount name : String) (entry : TrustLedgerEntry) :
    List IifLine :=
  [⟨.trns, idx, trnsType, entry.entryDate, trnsAccount, name, formatMoney entry.amountCents,
    exportedMemo entry.description⟩,
   ⟨.spl, idx, trnsType, entry.entryDate, splAccount, name, formatMoney (-entry.amountCents),
    exportedMemo entry.description⟩]

/-- The lines of one entry. -/
def trustLines (idx : ℕ) (name : String) (entry : TrustLedgerEntry) : List IifLine :=
  match entry.entryType with
  | .deposit => iifPair idx "DEPOSIT" trustAccountName liabilityAccountName name entry
  | .disbursement => iifPair idx "DISBURSEMENT" liabilityAccountName trustAccountName name entry
  | .transfer => iifPair idx "TRANSFER" trustAccountName liabilityAccountName name entry

/-- `_fetch_trust_entries` -/
def fetchTrustEntries (db : Db) (startDate endDate : Date) : List TrustLedgerEntry :=
  (db.entries.filter (fun e => startDate ≤ e.entryDate ∧ e.entryDate ≤ endDate)).mergeSort
    (fun e e' => e.entryDate ≤ e'.entryDate)

/-- The trust branch of `generate_iif_export`. -/
def generateIifExport (clients : Uuid → Option ClientName) (db : Db) (startDate endDate : Date) :
    List IifLine :=
  ((fetchTrustEntries db startDate endDate).zipIdx 1).flatMap
    (fun x => trustLines x.2 (exportedName (clients x.1.clientId)) x.1)

/-- What the lines post to an account. -/
def postedTo (account : String) (lines : List IifLine) : ℤ :=
  ((lines.filter (fun line => line.account = account)).map IifLine.amount).sum

/-- The export of a period in which all entries lie posts the balance of the account. -/
def ExportAgrees (clients : Uuid → Option ClientName) (a : Uuid) (db : Db)
    (startDate endDate : Date) : Prop :=
  ∃ acct, db.accounts a = some acct ∧
    postedTo trustAccountName (generateIifExport clients db startDate endDate) = acct.balanceCents

/-- The transfers of a list of entries. -/
def transferTotal (es : List TrustLedgerEntry) : ℤ :=
  ((es.filter (fun e => e.entryType = .transfer)).map (fun e => e.amountCents)).sum

/-- What printing the amount as a decimal number adds to it. -/
def printingError (e : TrustLedgerEntry) : ℤ :=
  match e.entryType with
  | .deposit => formatMoney e.amountCents-e.amountCents
  | .disbursement => formatMoney (-e.amountCents)-(-e.amountCents)
  | .transfer => formatMoney e.amountCents-e.amountCents

/-- Transfers are posted and the ledger does not count them. -/
def TransfersCancel (es : List TrustLedgerEntry) : Prop :=
  transferTotal es+(es.map printingError).sum = 0

theorem postedTo_append (account : String) (ls ms : List IifLine) :
    postedTo account (ls++ms) = postedTo account ls+postedTo account ms := by
  rw [postedTo, List.filter_append, List.map_append, List.sum_append]
  rfl

theorem transferTotal_cons (e : TrustLedgerEntry) (es : List TrustLedgerEntry) :
    transferTotal (e :: es) =
      (if e.entryType = .transfer then e.amountCents else 0)+transferTotal es := by
  by_cases h : e.entryType = .transfer
  · simp [transferTotal, h]
  · simp [transferTotal, h]

/-- Of the two lines of an entry one is on the trust account. -/
theorem postedTo_trustLines (idx : ℕ) (name : String) (e : TrustLedgerEntry) :
    postedTo trustAccountName (trustLines idx name e) =
      signedAmount e+(if e.entryType = .transfer then e.amountCents else 0)+printingError e := by
  have hne : liabilityAccountName ≠ trustAccountName := by decide
  cases htype : e.entryType with
  | deposit =>
    simp only [postedTo, trustLines, signedAmount, printingError, iifPair, htype]
    simp [hne]
  | disbursement =>
    simp only [postedTo, trustLines, signedAmount, printingError, iifPair, htype]
    simp [hne]
  | transfer =>
    simp only [postedTo, trustLines, signedAmount, printingError, iifPair, htype]
    simp [hne]

/-- Over all entries, the export posts what they leave, the transfers and the errors of
printing. -/
theorem postedTo_entries (name : TrustLedgerEntry → String) (es : List TrustLedgerEntry) (k : ℕ) :
    postedTo trustAccountName ((es.zipIdx k).flatMap (fun x => trustLines x.2 (name x.1) x.1)) =
      ledgerBalance es+(transferTotal es+(es.map printingError).sum) := by
  induction es generalizing k with
  | nil => rfl
  | cons e es ih =>
    have hbalance : ledgerBalance (e :: es) = signedAmount e+ledgerBalance es := by
      rw [← List.singleton_append, ledgerBalance_append, ledgerBalance_singleton]
    rw [List.zipIdx_cons, List.flatMap_cons, postedTo_append, postedTo_trustLines, ih, hbalance,
      transferTotal_cons, List.map_cons, List.sum_cons]
    ring

/-- The three sums do not depend on the order of the entries. -/
theorem sums_perm {es fs : List TrustLedgerEntry} (h : es.Perm fs) :
    ledgerBalance es+(transferTotal es+(es.map printingError).sum) =
      ledgerBalance fs+(transferTotal fs+(fs.map printingError).sum) := by
  have htransfer : transferTotal es = transferTotal fs := ((h.filter _).map _).sum_eq
  rw [ledgerBalance_eq_sum, ledgerBalance_eq_sum, (h.map signedAmount).sum_eq, htransfer,
    (h.map printingError).sum_eq]

/-- What the export of all entries posts to the trust account. -/
theorem postedTo_export {clients : Uuid → Option ClientName} {db : Db} {startDate endDate : Date}
    (hperiod : ∀ e ∈ db.entries, startDate ≤ e.entryDate ∧ e.entryDate ≤ endDate) :
    postedTo trustAccountName (generateIifExport clients db startDate endDate) =
      ledgerBalance db.entries+(transferTotal db.entries+(db.entries.map printingError).sum) := by
  have hfetch : (fetchTrustEntries db startDate endDate).Perm db.entries := by
    have hfilter : db.entries.filter
        (fun e => startDate ≤ e.entryDate ∧ e.entryDate ≤ endDate) = db.entries :=
      List.filter_eq_self.mpr fun e he => decide_eq_true (hperiod e he)
    rw [fetchTrustEntries, hfilter]
    exact List.mergeSort_perm _ _
  rw [generateIifExport, postedTo_entries (fun e => exportedName (clients e.clientId)),
    sums_perm hfetch]

/-- Amounts of up to 52 bits are printed to the cent. -/
theorem formatMoney_eq {cents : ℤ} (h : |cents| < 2^52) : formatMoney cents = cents :=
  Double.roundEven_mul_div (by norm_num) h

theorem printingError_eq_zero {e : TrustLedgerEntry} (h : |e.amountCents| < 2^52) :
    printingError e = 0 := by
  unfold printingError
  cases e.entryType with
  | deposit => exact sub_eq_zero.mpr (formatMoney_eq h)
  | disbursement => exact sub_eq_zero.mpr (formatMoney_eq ((abs_neg _).trans_lt h))
  | transfer => exact sub_eq_zero.mpr (formatMoney_eq h)

/-- With amounts of up to 52 bits, nothing but the absence of transfers helps. -/
theorem transfersCancel_iff {es : List TrustLedgerEntry}
    (hamount : ∀ e ∈ es, 1 ≤ e.amountCents ∧ e.amountCents < 2^52) :
    TransfersCancel es ↔ ∀ e ∈ es, e.entryType ≠ .transfer := by
  have herrors : (es.map printingError).sum = 0 := by
    apply List.sum_eq_zero
    intro x hx
    obtain ⟨e, he, rfl⟩ := List.mem_map.mp hx
    obtain ⟨hpos, hlt⟩ := hamount e he
    exact printingError_eq_zero (abs_lt.mpr ⟨by omega, hlt⟩)
  have htotal : transferTotal es = 0 ↔ es.filter (fun e => e.entryType = .transfer) = [] := by
    constructor
    · intro hzero
      by_contra hsome
      have hpositive : 0 < transferTotal es := by
        apply List.sum_pos
        · intro x hx
          obtain ⟨e, he, rfl⟩ := List.mem_map.mp hx
          exact (hamount e (List.mem_of_mem_filter he)).1
        · exact fun hmap => hsome (List.map_eq_nil_iff.mp hmap)
      omega
    · intro hnone
      rw [transferTotal, hnone]
      rfl
  rw [TransfersCancel, herrors, add_zero, htotal, List.filter_eq_nil_iff]
  exact forall₂_congr fun e _ => by rw [decide_eq_true_eq]

variable {Tx : Type*} [DecidableEq Tx]

/-- A deposit and a transfer. -/
def transferRun : List (LedgerLabel ℕ) :=
  [.stmt 0 (.selectForUpdate (request 7 .deposit 330 (by decide)) 9), .stmt 0 (.flush 10),
   .commit 0, .stmt 1 (.selectForUpdate (request 7 .transfer 210 (by decide)) 9),
   .stmt 1 (.flush 11), .commit 1]

/-- The entries that run leaves. -/
def transferredEntries : List TrustLedgerEntry :=
  [ledgerEntry 10 (request 7 .deposit 330 (by decide)) 9 330,
   ledgerEntry 11 (request 7 .transfer 210 (by decide)) 9 330]

def namelessClients : Uuid → Option ClientName := fun _ => none

end LegalForge.Trust
