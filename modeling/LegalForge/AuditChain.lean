import LegalForge.AuditLog

/-! What `verify_audit_chain` finds out about a table that `create_audit_log`
built and somebody changed afterwards. -/
namespace LegalForge.Audit
open HashChain Encoding

/-- The rows name each other in the fetched order and store their own hashes. -/
def ValidChain (sha256 : String → String) (logs : List AuditLog) : Prop :=
  Linked AuditLog.integrityHash AuditLog.previousHash none logs ∧
    ∀ log ∈ logs, recompute sha256 log = log.integrityHash

def Increasing (rows : List AuditLog) : Prop :=
  rows.Pairwise (fun e f => e.timestamp < f.timestamp)

variable {sha256 : String → String}

theorem chainErrors_eq_nil_iff {i : ℕ} {p : Option String} {logs : List AuditLog} :
    chainErrors sha256 i p logs = [] ↔
      Linked AuditLog.integrityHash AuditLog.previousHash p logs ∧
        ∀ log ∈ logs, recompute sha256 log = log.integrityHash := by
  induction logs generalizing i p with
  | nil => simp [chainErrors, Linked]
  | cons log logs ih =>
    simp only [chainErrors, List.append_eq_nil_iff, ite_eq_right_iff, List.cons_ne_nil,
      imp_false, not_not, ih, Linked, List.forall_mem_cons]
    tauto

theorem errors_eq_nil_iff {logs : List AuditLog} :
    (verifyAuditChain sha256 logs).errors = [] ↔ ValidChain sha256 logs := by
  cases logs with
  | nil => simp [verifyAuditChain, ValidChain, Linked]
  | cons log logs => exact chainErrors_eq_nil_iff

theorem status_eq_invalid_iff {logs : List AuditLog} :
    (verifyAuditChain sha256 logs).status = .invalid ↔ ¬ValidChain sha256 logs := by
  rw [← errors_eq_nil_iff]
  cases logs with
  | nil => simp [verifyAuditChain]
  | cons log logs =>
    simp only [verifyAuditChain, List.isEmpty_cons, Bool.false_eq_true, if_false,
      List.isEmpty_iff]
    split_ifs with h <;> simp [h]

theorem status_eq_valid_iff {logs : List AuditLog} :
    (verifyAuditChain sha256 logs).status = .valid ↔ logs ≠ [] ∧ ValidChain sha256 logs := by
  rw [← errors_eq_nil_iff]
  cases logs with
  | nil => simp [verifyAuditChain]
  | cons log logs =>
    simp only [verifyAuditChain, List.isEmpty_cons, Bool.false_eq_true, if_false,
      List.isEmpty_iff]
    split_ifs with h <;> simp [h]

/-! The hashed text determines the hashed columns. -/

theorem strId_injective : Function.Injective strId := by
  intro a b h
  exact uuidText_injective (String.ofList_injective h)

theorem isoformat_injective : Function.Injective isoformat := by
  intro a b h
  exact Datetime.isoText_injective (String.ofList_injective h)

theorem strId_ne_empty (id : Uuid) : strId id ≠ "" := by
  intro h
  have hlen : (strId id).toList.length = 36 := by simp [strId, length_uuidText]
  rw [h] at hlen
  cases hlen

theorem orEmpty_strId_injective {a b : Option Uuid}
    (h : orEmpty (a.map strId) = orEmpty (b.map strId)) : a = b := by
  cases a with
  | none =>
    cases b with
    | none => rfl
    | some b => exact absurd h.symm (strId_ne_empty b)
  | some a =>
    cases b with
    | none => exact absurd h (strId_ne_empty a)
    | some b => rw [strId_injective h]

/-- The identifier comes first and has a fixed length. -/
theorem id_eq_of_recompute_eq (hsha : Function.Injective sha256) {e f : AuditLog}
    (h : recompute sha256 e = recompute sha256 f) : e.id = f.id := by
  have hpayload := congrArg String.toList (hsha h)
  simp only [payload, String.toList_append, strId, String.toList_ofList] at hpayload
  exact (uuidText_prefixCode hpayload).1

/-- Distinct identifiers, and every row stores its own hash. -/
def RowsHashed (sha256 : String → String) (rows : List AuditLog) : Prop :=
  (rows.map AuditLog.id).Nodup ∧ ∀ e ∈ rows, recompute sha256 e = e.integrityHash

theorem rowsHashed_append {rows rows' : List AuditLog} :
    RowsHashed sha256 (rows++rows') ↔ RowsHashed sha256 rows ∧ RowsHashed sha256 rows' ∧
      ∀ e ∈ rows, ∀ f ∈ rows', e.id ≠ f.id := by
  simp only [RowsHashed, List.map_append, List.nodup_append, List.mem_map, List.mem_append,
    forall_exists_index, and_imp, forall_apply_eq_imp_iff₂, or_imp, forall_and]
  tauto

/-- Rows with distinct identifiers have distinct hashes. -/
theorem RowsHashed.nodup_hash (hsha : Function.Injective sha256) {rows : List AuditLog}
    (h : RowsHashed sha256 rows) : (rows.map AuditLog.integrityHash).Nodup := by
  -- equal hashes mean equal payloads, and those begin with the identifier
  refine List.Nodup.map_on ?_ (List.Nodup.of_map _ h.1)
  intro e he f hf heq
  rw [← h.2 e he, ← h.2 f hf] at heq
  exact List.inj_on_of_nodup_map h.1 he hf (id_eq_of_recompute_eq hsha heq)

/-- The row of a call stores its own hash. -/
theorem rowsHashed_auditEntry (call : AuditCall) (p : Option String) (entryId : Uuid)
    (now : Datetime) : RowsHashed sha256 [auditEntry sha256 call p entryId now] := by
  refine ⟨List.nodup_singleton _, fun e he => ?_⟩
  rw [List.mem_singleton.mp he]
  rfl

/-! Tables that `create_audit_log` built. -/

theorem AuditRun.rowsHashed {table : List AuditLog} (h : AuditRun sha256 table) :
    RowsHashed sha256 table := by
  induction h with
  | nil => exact ⟨List.nodup_nil, fun e he => absurd he List.not_mem_nil⟩
  | create call now _ _ hfresh ih =>
    refine rowsHashed_append.mpr ⟨ih, rowsHashed_auditEntry call _ _ now, fun e he f hf => ?_⟩
    rw [List.mem_singleton.mp hf]
    exact hfresh e he

/-- The latest row of a table in timestamp order is its last one. -/
theorem latestHashes_of_increasing {rows : List AuditLog} (hinc : Increasing rows)
    {p : Option String} (hp : p ∈ latestHashes rows) :
    p = tip AuditLog.integrityHash none rows := by
  rcases List.eq_nil_or_concat rows with rfl | ⟨init, last, rfl⟩
  · exact List.mem_singleton.mp hp
  · rw [List.concat_eq_append] at hp hinc ⊢
    rw [tip_concat]
    have hne : (init++[last]).isEmpty = false := by simp
    rw [latestHashes, hne, if_neg Bool.false_ne_true, List.mem_map] at hp
    obtain ⟨e, he, rfl⟩ := hp
    obtain ⟨he, hmax⟩ := List.mem_filter.mp he
    simp only [List.all_eq_true, decide_eq_true_eq] at hmax
    rcases List.mem_append.mp he with hinit | hlast
    · have hlt := (List.pairwise_append.mp hinc).2.2 e hinit last (List.mem_singleton_self last)
      have hle := hmax last (List.mem_append_right init (List.mem_singleton_self last))
      exact absurd hlt (not_lt.mpr hle)
    · rw [List.mem_singleton.mp hlast]

theorem AuditRun.linked {table : List AuditLog} (h : AuditRun sha256 table)
    (hinc : Increasing table) :
    Linked AuditLog.integrityHash AuditLog.previousHash none table := by
  induction h with
  | nil => trivial
  | create call now _ hread _ ih =>
    -- the induction is on the calls; the last row names the tip of the rows before it
    have hinit := (List.pairwise_append.mp hinc).1
    exact linked_concat.mpr ⟨ih hinit, latestHashes_of_increasing hinit hread⟩

theorem AuditRun.validChain {table : List AuditLog} (h : AuditRun sha256 table)
    (hinc : Increasing table) : ValidChain sha256 table :=
  ⟨h.linked hinc, h.rowsHashed.2⟩

/-- A part of the table that is no prefix of it does not pass. -/
theorem AuditRun.not_validChain (hsha : Function.Injective sha256) {table rest : List AuditLog}
    (h : AuditRun sha256 table) (hinc : Increasing table) (hsub : rest.Sublist table)
    (hcut : ¬rest <+: table) : ¬ValidChain sha256 rest := fun hvalid =>
  hcut ((h.linked hinc).prefix_of_sublist hvalid.1 hsub (h.rowsHashed.nodup_hash hsha)
    fun _ _ => (Option.some_ne_none _).symm)

/-! What the query answers. -/

theorem eq_of_sorted_perm {rows sorted : List AuditLog} (hinc : Increasing rows)
    (hsorted : sorted.Pairwise (fun e f => e.timestamp ≤ f.timestamp))
    (hperm : sorted.Perm rows) : sorted = rows := by
  -- two sorted arrangements agree when no timestamp occurs twice
  have hnodup : (rows.map AuditLog.timestamp).Nodup :=
    List.pairwise_map.mpr (hinc.imp fun h => ne_of_lt h)
  refine List.Perm.eq_of_pairwise ?_ hsorted (hinc.imp fun h => le_of_lt h) hperm
  intro e f he hf hef hfe
  exact List.inj_on_of_nodup_map hnodup (hperm.mem_iff.mp he) hf (le_antisymm hef hfe)

/-- Without ties the query has one answer. -/
theorem Fetched.eq_take {limit : ℕ} {rows logs : List AuditLog} (h : Fetched limit rows logs)
    (hinc : Increasing rows) : logs = rows.take limit := by
  obtain ⟨sorted, hperm, hsorted, rfl⟩ := h
  rw [eq_of_sorted_perm hinc hsorted hperm]

/-- In the order of the timestamps the query answers with the first rows. -/
theorem fetched_take {rows : List AuditLog} (hinc : Increasing rows) (limit : ℕ) :
    Fetched limit rows (rows.take limit) :=
  ⟨rows, List.Perm.refl rows, hinc.imp fun h => le_of_lt h, rfl⟩

def loginPayload : String :=
  "00000000-0000-0000-0000-000000000001|2026-03-03T12:00:00+00:00||login|user|7||"

def loginDigest : String :=
  "a15aa04253fb33b1d59d63f9ca843cb6ba7cc99cfdb3e45fa183f3baa58f87a2"

def logoutPayload : String :=
  "00000000-0000-0000-0000-000000000002|2026-03-03T12:00:01+00:00||logout|user|7||a15aa04253fb33b1d59d63f9ca843cb6ba7cc99cfdb3e45fa183f3baa58f87a2"

def logoutDigest : String :=
  "1a6543d92ccfcf0040c9f7294d9258691534a803f5e1718dccd301e1b01b9900"

def sampleDigest (text : String) : String :=
  if text = loginPayload then loginDigest
  else if text = logoutPayload then logoutDigest
  else "-"++text

theorem sampleDigest_injective : Function.Injective sampleDigest := by
  have hdash : ∀ {text digest : String}, "-"++text = digest → digest.toList.head? = some '-' := by
    intro text digest h
    rw [← h, String.toList_append]
    rfl
  have hlogin : ∀ text, "-"++text ≠ loginDigest := fun text h => absurd (hdash h) (by decide)
  have hlogout : ∀ text, "-"++text ≠ logoutDigest := fun text h => absurd (hdash h) (by decide)
  have hne : loginDigest ≠ logoutDigest := by decide
  intro x y h
  unfold sampleDigest at h
  split_ifs at h with hx hy hy hx' hy hy' hy hy'
  · rw [hx, hy]
  · exact absurd h hne
  · exact absurd h.symm (hlogin y)
  · exact absurd h.symm hne
  · rw [hx', hy']
  · exact absurd h.symm (hlogout y)
  · exact absurd h (hlogin x)
  · exact absurd h (hlogout x)
  · exact (String.append_right_inj "-").mp h

def noon (second : ℕ) (h : second < 60) : Datetime :=
  ⟨2026, 3, 3, 12, 0, second, 0, by decide, by decide, by decide, by decide, by decide, h,
    by decide⟩

def atNoon : Datetime := noon 0 (by decide)

def afterNoon : Datetime := noon 1 (by decide)

/-- The row of a login, hashed with `sha256`. -/
def loginRow (sha256 : String → String) : AuditLog :=
  auditEntry sha256 ⟨none, "user", "7", "login", none, none, none, none, "success"⟩ none 1 atNoon

/-- The row of the logout after it. -/
def logoutRow (sha256 : String → String) : AuditLog :=
  auditEntry sha256 ⟨none, "user", "7", "logout", none, none, none, none, "success"⟩
    (some (loginRow sha256).integrityHash) 2 afterNoon

example : strId 1++"|" = "00000000-0000-0000-0000-000000000001|" := by decide

example : (loginRow sampleDigest).integrityHash = loginDigest := by decide +kernel

theorem auditRun_login_logout (sha256 : String → String) :
    AuditRun sha256 [loginRow sha256, logoutRow sha256] := by
  have hlogin : AuditRun sha256 [loginRow sha256] :=
    AuditRun.create _ _ AuditRun.nil List.mem_cons_self fun _ h => absurd h List.not_mem_nil
  refine AuditRun.create _ _ hlogin (by simp [latestHashes]) ?_
  intro e he
  rw [List.mem_singleton.mp he]
  show (1 : Uuid) ≠ 2
  decide

theorem increasing_login_logout (sha256 : String → String) :
    Increasing [loginRow sha256, logoutRow sha256] := by
  refine List.pairwise_pair.mpr ?_
  show (noon 0 _).moment < (noon 1 _).moment
  decide

end LegalForge.Audit
