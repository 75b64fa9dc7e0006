import LegalForge.TrustInvariant
import LegalForge.ProgramRefinement
import LegalForge.Paging

/-! The listing of a ledger. Entries are listed by `created_at`, which is the time at which
their transaction started. The balances go by the order in which the transactions locked the
account. -/
namespace LegalForge.Trust
open Transition ReadCommitted RunningFold

/-- An entry with its `created_at`. -/
structure ListedEntry where
  entry : TrustLedgerEntry
  createdAt : ℕ
  deriving DecidableEq

structure ListedDb where
  accounts : Uuid → Option TrustAccount
  rows : List ListedEntry
  reconciliations : List TrustReconciliation

def ListedDb.toDb (db : ListedDb) : Db :=
  ⟨db.accounts, db.rows.map ListedEntry.entry, db.reconciliations⟩

def ListedDb.rowsOf (db : ListedDb) (a : Uuid) : List ListedEntry :=
  db.rows.filter (fun row => row.entry.trustAccountId = a)

/-- `created_at` is set by the server, to `now()`: the start of the transaction. -/
def ListedDb.record (db : ListedDb) (startedAt : ℕ) (entry : TrustLedgerEntry) : ListedDb :=
  { db with
    accounts := (db.toDb.record entry).accounts
    rows := db.rows++[⟨entry, startedAt⟩] }

/-- A request, and the time at which its transaction started. -/
inductive ListedSession where
  | idle
  | begun (startedAt : ℕ) (session : Session)

def ListedSession.inner : ListedSession → Session
  | .idle => .idle
  | .begun _ session => session

inductive ListedStatement where
  /-- The first query of the request, which reads the user. -/
  | begin (now : ℕ)
  | run (statement : Statement)

def ListedStatement.inner : ListedStatement → Option Statement
  | .begin _ => none
  | .run statement => some statement

/-- `create_ledger_entry` as part of a transaction that started before it. -/
def listedProgram : Program ListedDb ListedSession ListedStatement Uuid where
  locks db m a :=
    match m, a with
    | .begun _ session, .run statement => ledgerProgram.locks db.toDb session statement
    | _, _ => []
  stmt db m a :=
    match m, a with
    | .idle, .begin now => some (.begun now .idle)
    | .begun startedAt session, .run statement =>
      (ledgerProgram.stmt db.toDb session statement).map (.begun startedAt)
    | _, _ => none
  publish db m :=
    match m with
    | .begun startedAt (.flushed _ entry) =>
      some (db.record startedAt entry, .begun startedAt (.returned entry))
    | _ => none
  abort m :=
    match m with
    | .idle => .idle
    | .begun _ .idle => .idle
    | .begun startedAt session => .begun startedAt (ledgerProgram.abort session)

theorem toDb_record (db : ListedDb) (startedAt : ℕ) (entry : TrustLedgerEntry) :
    (db.record startedAt entry).toDb = db.toDb.record entry := by
  simp only [ListedDb.toDb, ListedDb.record, Db.record, List.map_append, List.map_singleton]

theorem entriesOf_toDb (db : ListedDb) (a : Uuid) :
    db.toDb.entriesOf a = (db.rowsOf a).map ListedEntry.entry := by
  rw [Db.entriesOf, ListedDb.rowsOf, ListedDb.toDb, List.filter_map]
  rfl

/-- Without the times it is the ledger that it was. -/
def listedRefinement : Refinement listedProgram ledgerProgram where
  db := ListedDb.toDb
  loc := ListedSession.inner
  act := ListedStatement.inner
  known := by
    intro db m a a' m' hact hstmt
    cases a with
    | begin now => cases hact
    | run statement =>
      obtain rfl := Option.some.inj hact
      cases m with
      | idle => cases hstmt
      | begun startedAt session =>
        obtain ⟨session', hsession, rfl⟩ := Option.map_eq_some_iff.mp hstmt
        exact ⟨hsession, rfl⟩
  unknown := by
    intro db m a m' hact hstmt
    cases a with
    | run statement => cases hact
    | begin now =>
      cases m with
      | begun startedAt session => cases hstmt
      | idle =>
        obtain rfl := Option.some.inj hstmt
        exact ⟨rfl, rfl⟩
  publish := by
    intro db m db' m' hpub
    cases m with
    | idle => cases hpub
    | begun startedAt session =>
      cases session with
      | flushed data entry =>
        obtain ⟨rfl, rfl⟩ := Prod.mk.inj (Option.some.inj hpub)
        rw [toDb_record]
        rfl
      | _ => cases hpub
  abort := by
    intro m
    cases m with
    | idle => rfl
    | begun startedAt session => cases session <;> rfl

/-- What the database may answer to `ORDER BY created_at DESC`. Ties may come in any order. -/
def NewestFirst (rows sorted : List ListedEntry) : Prop :=
  sorted.Perm rows ∧ sorted.Pairwise (fun newer older => older.createdAt ≤ newer.createdAt)

/-- `get_ledger_entries`, where `orderBy` is how the database sorts. -/
def getLedgerEntries (orderBy : List ListedEntry → List ListedEntry) (db : ListedDb)
    (trustAccountId : Uuid) (page pageSize : ℤ) (clientId : Option Uuid) :
    Except HttpError (List ListedEntry × ℕ) :=
  let found := (db.rowsOf trustAccountId).filter
    (fun row => clientId.all (fun c => row.entry.clientId = c))
  let offset := (page-1)*pageSize
  if offset < 0 ∨ pageSize < 0 then .error .internal
  else .ok (((orderBy found).drop offset.toNat).take pageSize.toNat, found.length)

/-- The first `count` pages of the listing of the whole account. -/
def ledgerPages (orderBy : List ListedEntry → List ListedEntry) (db : ListedDb) (a : Uuid)
    (size count : ℕ) : Except HttpError (List ListedEntry) := do
  let pages ← (List.range count).mapM (fun i : ℕ => getLedgerEntries orderBy db a (i+1) size none)
  return pages.flatMap Prod.fst

/-- The balance of an entry, read off the one below it. -/
def ReadsOn (newer older : ListedEntry) : Prop :=
  newer.entry.runningBalanceCents = older.entry.runningBalanceCents+signedAmount newer.entry

/-- However the database sorts and whatever the page size, neighbours of the listing read on. -/
def Readable (a : Uuid) (db : ListedDb) : Prop :=
  ∀ orderBy, (∀ rows, NewestFirst rows (orderBy rows)) →
    ∀ size count : ℕ, (db.rowsOf a).length ≤ count*size →
      ∃ listing, ledgerPages orderBy db a size count = .ok listing ∧ listing.IsChain ReadsOn

/-- The sum of the signed amounts of the first `n` entries on `a`, in the order in which their
transactions locked it. -/
def recordedUpTo (db : ListedDb) (a : Uuid) (n : ℕ) : ℤ :=
  (((db.rowsOf a).take n).map (fun row => signedAmount row.entry)).sum

/-- Between two entries that the listing shows next to each other, nothing was added to the
account. Each entry comes with its place in the order of the locks. -/
def NothingBetween (a : Uuid) (db : ListedDb) : Prop :=
  ∀ placed : List (ListedEntry × ℕ), placed.Perm (db.rowsOf a).zipIdx →
    placed.Pairwise (fun newer older => older.1.createdAt ≤ newer.1.createdAt) →
      placed.IsChain fun newer older => recordedUpTo db a newer.2 = recordedUpTo db a (older.2+1)

/-- All pages together are the sorted rows. -/
theorem ledgerPages_eq {orderBy : List ListedEntry → List ListedEntry} {db : ListedDb} {a : Uuid}
    {size count : ℕ} (horder : ∀ rows, NewestFirst rows (orderBy rows))
    (hpages : (db.rowsOf a).length ≤ count*size) :
    ledgerPages orderBy db a size count = .ok (orderBy (db.rowsOf a)) := by
  have hpage : ∀ i : ℕ, getLedgerEntries orderBy db a (i+1) size none =
      .ok (Paging.page size (orderBy (db.rowsOf a)) i, (db.rowsOf a).length) := by
    intro i
    have hoffset : ((i:ℤ)+1-1)*size = ((i*size:ℕ):ℤ) := by push_cast; ring
    have hnonneg : ¬(((i*size:ℕ):ℤ) < 0 ∨ (size:ℤ) < 0) := by omega
    rw [getLedgerEntries]
    simp only [hoffset, hnonneg, if_false, Int.toNat_natCast, Option.all_none, List.filter_true,
      Paging.page]
  have hlength : (orderBy (db.rowsOf a)).length ≤ count*size := by
    rw [(horder (db.rowsOf a)).1.length_eq]
    exact hpages
  obtain ⟨pages, hok⟩ : ∃ pages, (List.range count).mapM
      (fun i : ℕ => getLedgerEntries orderBy db a (i+1) size none) = .ok pages :=
    Paging.exists_mapM_iff.mpr fun i _ => ⟨_, hpage i⟩
  have hrows : pages.map Prod.fst =
      (List.range count).map (Paging.page size (orderBy (db.rowsOf a))) := by
    apply Paging.map_eq_of_mapM _ hok
    intro i out h
    have hout := Except.ok.inj ((hpage i).symm.trans h)
    exact (congrArg Prod.fst hout).symm
  rw [ledgerPages, hok]
  refine congrArg Except.ok ?_
  rw [List.flatMap_def, hrows, ← List.flatMap_def]
  exact Paging.flatMap_page_eq hlength

/-- The listing is readable when every order the database may give is. -/
theorem readable_iff {a : Uuid} {db : ListedDb} :
    Readable a db ↔ ∀ sorted, NewestFirst (db.rowsOf a) sorted → sorted.IsChain ReadsOn := by
  constructor
  · intro h sorted hsorted
    -- a database that sorts these rows in this way
    let orderBy : List ListedEntry → List ListedEntry := fun rows =>
      if rows = db.rowsOf a then sorted
      else rows.mergeSort (fun newer older => older.createdAt ≤ newer.createdAt)
    have horder : ∀ rows, NewestFirst rows (orderBy rows) := by
      intro rows
      by_cases hrows : rows = db.rowsOf a
      · simp only [orderBy, if_pos hrows]
        exact hrows ▸ hsorted
      · simp only [orderBy, if_neg hrows]
        refine ⟨List.mergeSort_perm _ _, ?_⟩
        have hpairwise : (rows.mergeSort (fun newer older => older.createdAt ≤ newer.createdAt)).Pairwise
            (fun newer older => decide (older.createdAt ≤ newer.createdAt) = true) := by
          apply List.pairwise_mergeSort
          · intro x y z hxy hyz
            simp only [decide_eq_true_eq] at *
            omega
          · intro x y
            simp only [Bool.or_eq_true, decide_eq_true_eq]
            omega
        exact hpairwise.imp of_decide_eq_true
    obtain ⟨listing, hlisting, hchain⟩ :=
      h orderBy horder 1 (db.rowsOf a).length (Nat.mul_one _).ge
    rw [ledgerPages_eq horder (Nat.mul_one _).ge] at hlisting
    obtain rfl := Except.ok.inj hlisting
    simpa only [orderBy, if_true] using hchain
  · intro h orderBy horder size count hpages
    exact ⟨_, ledgerPages_eq horder hpages, h _ (horder _)⟩

/-- A listing of the rows is one of the rows with their places. -/
theorem exists_placed {rows sorted : List ListedEntry} (h : sorted.Perm rows) :
    ∃ placed : List (ListedEntry × ℕ), placed.Perm rows.zipIdx ∧ placed.map Prod.fst = sorted := by
  have hplaces : List.Forall₂ (fun (row : ListedEntry) x => row = Prod.fst x) rows rows.zipIdx := by
    rw [List.forall₂_iff_get]
    refine ⟨List.length_zipIdx.symm, fun i _ _ => ?_⟩
    simp
  obtain ⟨placed, hsorted, hperm⟩ := List.perm_comp_forall₂ h hplaces
  refine ⟨placed, hperm, ?_⟩
  rw [← List.forall₂_eq_eq_eq, List.forall₂_map_left_iff]
  exact hsorted.flip.imp fun _ _ hrow => hrow.symm

/-- Stored balances that are sums of the amounts read on exactly where nothing was added
between two neighbours. -/
theorem readable_iff_nothingBetween {a : Uuid} {db : ListedDb}
    (h : Running (fun row => signedAmount row.entry)
      (fun row : ListedEntry => row.entry.runningBalanceCents) (db.rowsOf a)) :
    Readable a db ↔ NothingBetween a db := by
  rw [readable_iff]
  have hchain : ∀ placed : List (ListedEntry × ℕ), placed.Perm (db.rowsOf a).zipIdx →
      ((placed.map Prod.fst).IsChain ReadsOn ↔ placed.IsChain fun newer older =>
        recordedUpTo db a newer.2 = recordedUpTo db a (older.2+1)) :=
    fun placed hperm => h.isChain_iff fun x hx => hperm.mem_iff.mp hx
  constructor
  · intro hread placed hperm hsorted
    apply (hchain placed hperm).mp
    apply hread
    constructor
    · have hrows := hperm.map Prod.fst
      rwa [List.zipIdx_map_fst] at hrows
    · exact List.pairwise_map.mpr hsorted
  · intro hnothing sorted hsorted
    obtain ⟨placed, hperm, rfl⟩ := exists_placed hsorted.1
    apply (hchain placed hperm).mpr
    exact hnothing placed hperm (List.pairwise_map.mp hsorted.2)

variable {Tx : Type*} [DecidableEq Tx]

/-- In any run on a fresh account, the balances stored in the entries are the sums of the
amounts in the order of the locks. -/
theorem running_rowsOf {a : Uuid} {db : ListedDb} {acct : TrustAccount}
    (hacct : db.accounts a = some acct) (hzero : acct.balanceCents = 0) (hempty : db.rowsOf a = [])
    {ls : List (Label ListedStatement Tx)} {s : State ListedDb ListedSession Uuid Tx}
    (hrun : exec (step listedProgram) (start db .idle) ls = some s) :
    Running (fun row => signedAmount row.entry)
      (fun row : ListedEntry => row.entry.runningBalanceCents) (s.committed.rowsOf a) := by
  have hledger := listedRefinement.exec_labels hrun
  have haccount : db.toDb.accounts a = some acct := hacct
  have hentries : db.toDb.entriesOf a = [] := by
    rw [entriesOf_toDb, hempty, List.map_nil]
  obtain ⟨⟨acct', -, -, -, hrunning⟩, -⟩ := (ledger_run haccount hzero hentries hledger).1
  have hmapped : Running signedAmount (fun e => e.runningBalanceCents)
      ((s.committed.rowsOf a).map ListedEntry.entry) := by
    rw [← entriesOf_toDb]
    exact hrunning
  exact hmapped.of_map

/-- The listing of a fresh account, after any interleaving of requests, is readable exactly
when nothing was added between two entries it shows next to each other. -/
theorem listing_readable_iff {a : Uuid} {db : ListedDb} {acct : TrustAccount}
    (hacct : db.accounts a = some acct) (hzero : acct.balanceCents = 0) (hempty : db.rowsOf a = [])
    {ls : List (Label ListedStatement Tx)} {s : State ListedDb ListedSession Uuid Tx}
    (hrun : exec (step listedProgram) (start db .idle) ls = some s) :
    Readable a s.committed ↔ NothingBetween a s.committed :=
  readable_iff_nothingBetween (running_rowsOf hacct hzero hempty hrun)

/-- Transactions that lock the account in the order of their starts are listed in that order. -/
theorem nothingBetween_of_started_in_order {a : Uuid} {db : ListedDb}
    (horder : (db.rowsOf a).Pairwise (fun x y => x.createdAt < y.createdAt)) :
    NothingBetween a db := by
  intro placed hperm hsorted
  have hplaces : (db.rowsOf a).zipIdx.Pairwise (fun x y => x.1.createdAt < y.1.createdAt) := by
    rw [← List.zipIdx_map_fst 0 (db.rowsOf a), List.pairwise_map] at horder
    exact horder
  -- two rows that may stand in either order are the same row
  have hsame : ∀ x ∈ (db.rowsOf a).zipIdx, ∀ y ∈ (db.rowsOf a).zipIdx,
      y.1.createdAt = x.1.createdAt → x = y := by
    intro x hx y hy hxy
    have hne : (db.rowsOf a).zipIdx.Pairwise (fun x y => y.1.createdAt = x.1.createdAt → x = y) :=
      hplaces.imp fun hlt heq => absurd heq hlt.ne'
    apply hne.forall_of_forall_of_flip _ _ hx hy hxy
    · exact fun _ _ _ => rfl
    · exact hplaces.imp fun hlt heq => absurd heq hlt.ne
  have hreverse : placed = (db.rowsOf a).zipIdx.reverse := by
    refine List.Perm.eq_of_pairwise ?_ hsorted
      (List.pairwise_reverse.mpr (hplaces.imp fun h => h.le))
      (hperm.trans (List.reverse_perm _).symm)
    intro x y hx hy hxy hyx
    exact hsame x (hperm.mem_iff.mp hx) y (List.mem_reverse.mp hy) (le_antisymm hxy hyx)
  have hchain : (db.rowsOf a).zipIdx.IsChain (fun older newer => newer.2 = older.2+1) := by
    have hrange := List.isChain_range' 0 (db.rowsOf a).length 1
    rw [← List.zipIdx_map_snd 0 (db.rowsOf a)] at hrange
    exact (List.isChain_map Prod.snd).mp hrange
  rw [hreverse]
  apply List.isChain_reverse.mpr
  exact hchain.imp fun older newer h => by rw [h]

/-- The first request starts first, and waits for the second one's lock. -/
def overtakenRun : List (Label ListedStatement ℕ) :=
  [.stmt 0 (.begin 1), .stmt 1 (.begin 2),
   .stmt 1 (.run (.selectForUpdate (request 7 .deposit 120 (by decide)) 9)),
   .stmt 1 (.run (.flush 11)), .commit 1,
   .stmt 0 (.run (.selectForUpdate (request 7 .deposit 45 (by decide)) 9)),
   .stmt 0 (.run (.flush 10)), .commit 0]

def freshListedDb : ListedDb :=
  ⟨freshDb.accounts, [], []⟩

theorem listing_readable_iff_overtakenRun : ∃ s : State ListedDb ListedSession Uuid ℕ,
    exec (step listedProgram) (start freshListedDb .idle) overtakenRun = some s ∧
      (Readable 1 s.committed ↔ NothingBetween 1 s.committed) := by
  have hempty : freshListedDb.rowsOf 1 = [] := rfl
  obtain ⟨s, hrun⟩ : ∃ s : State ListedDb ListedSession Uuid ℕ,
      exec (step listedProgram) (start freshListedDb .idle) overtakenRun = some s := ⟨_, rfl⟩
  exact ⟨s, hrun, listing_readable_iff rfl rfl hempty hrun⟩

/-- The deposit of 45 is listed below the one of 120, with the higher balance. -/
theorem not_readable_overtakenRun : ¬ ∀ s : State ListedDb ListedSession Uuid ℕ,
    exec (step listedProgram) (start freshListedDb .idle) overtakenRun = some s →
      Readable 1 s.committed := by
  intro h
  -- the rows stand in the order of their balances, which the listing does not change
  have hchain := readable_iff.mp (h _ rfl) _ ⟨List.Perm.refl _, by decide⟩
  revert hchain
  unfold ReadsOn
  decide

end LegalForge.Trust
