import LegalForge.AuditChain

/-! Changes to one column of one stored row, and which of them
`verify_audit_chain` reports. -/
namespace LegalForge.Audit
open HashChain Encoding

/-- A new value for one column. -/
inductive FieldChange where
  | userId (v : Option Uuid)
  | userEmail (v : Option String)
  | action (v : String)
  | entityType (v : String)
  | entityId (v : String)
  | changesJson (v : Option String)
  | ipAddress (v : Option String)
  | userAgent (v : Option String)
  | outcome (v : String)
  | severity (v : String)
  | timestamp (v : Datetime)

def FieldChange.apply (e : AuditLog) : FieldChange → AuditLog
  | .userId v => { e with userId := v }
  | .userEmail v => { e with userEmail := v }
  | .action v => { e with action := v }
  | .entityType v => { e with entityType := v }
  | .entityId v => { e with entityId := v }
  | .changesJson v => { e with changesJson := v }
  | .ipAddress v => { e with ipAddress := v }
  | .userAgent v => { e with userAgent := v }
  | .outcome v => { e with outcome := v }
  | .severity v => { e with severity := v }
  | .timestamp v => { e with timestamp := v }

/-- The change reaches the hashed text. There `None` and `""` of `changes_json` are one. -/
def FieldChange.Hashed (e : AuditLog) : FieldChange → Prop
  | .userId v => v ≠ e.userId
  | .action v => v ≠ e.action
  | .entityType v => v ≠ e.entityType
  | .entityId v => v ≠ e.entityId
  | .changesJson v => orEmpty v ≠ orEmpty e.changesJson
  | .timestamp v => v ≠ e.timestamp
  | .userEmail _ => False
  | .ipAddress _ => False
  | .userAgent _ => False
  | .outcome _ => False
  | .severity _ => False

variable {sha256 : String → String}

@[simp] theorem apply_id (e : AuditLog) (c : FieldChange) : (c.apply e).id = e.id := by
  cases c <;> rfl

@[simp] theorem apply_integrityHash (e : AuditLog) (c : FieldChange) :
    (c.apply e).integrityHash = e.integrityHash := by
  cases c <;> rfl

@[simp] theorem apply_previousHash (e : AuditLog) (c : FieldChange) :
    (c.apply e).previousHash = e.previousHash := by
  cases c <;> rfl

/-- A changed hashed column changes the hash. -/
theorem recompute_apply_ne (hsha : Function.Injective sha256) {e : AuditLog} {c : FieldChange}
    (hc : c.Hashed e) : recompute sha256 (c.apply e) ≠ recompute sha256 e := by
  intro h
  have hpayload := hsha h
  simp only [payload] at hpayload
  cases c with
  | userId v =>
    simp only [FieldChange.apply, String.append_right_inj, String.append_left_inj] at hpayload
    exact hc (orEmpty_strId_injective hpayload)
  | action v =>
    simp only [FieldChange.apply, String.append_right_inj, String.append_left_inj] at hpayload
    exact hc hpayload
  | entityType v =>
    simp only [FieldChange.apply, String.append_right_inj, String.append_left_inj] at hpayload
    exact hc hpayload
  | entityId v =>
    simp only [FieldChange.apply, String.append_right_inj, String.append_left_inj] at hpayload
    exact hc hpayload
  | changesJson v =>
    simp only [FieldChange.apply, String.append_right_inj, String.append_left_inj] at hpayload
    exact hc hpayload
  | timestamp v =>
    simp only [FieldChange.apply, String.append_right_inj, String.append_left_inj] at hpayload
    exact hc (isoformat_injective hpayload)
  | _ => exact hc

/-- The other columns do not enter the hash at all. -/
theorem recompute_apply_eq {e : AuditLog} {c : FieldChange} (hc : ¬c.Hashed e) :
    recompute sha256 (c.apply e) = recompute sha256 e := by
  cases c with
  | userId v => rw [FieldChange.apply, not_not.mp hc]
  | action v => rw [FieldChange.apply, not_not.mp hc]
  | entityType v => rw [FieldChange.apply, not_not.mp hc]
  | entityId v => rw [FieldChange.apply, not_not.mp hc]
  | timestamp v => rw [FieldChange.apply, not_not.mp hc]
  | changesJson v =>
    have hv : orEmpty v = orEmpty e.changesJson := not_not.mp hc
    simp only [recompute, computeIntegrityHash, payload, FieldChange.apply, hv]
  | _ => rfl

/-- A change outside the hash leaves the report as it was. -/
theorem verify_unhashed (pre post : List AuditLog) {e : AuditLog} {c : FieldChange}
    (hc : ¬c.Hashed e) :
    verifyAuditChain sha256 (pre++c.apply e :: post) = verifyAuditChain sha256 (pre++e :: post) := by
  have hhead : ∀ i p, chainErrors sha256 i p (c.apply e :: post) =
      chainErrors sha256 i p (e :: post) := fun i p => by
    simp only [chainErrors, apply_id, apply_integrityHash, apply_previousHash,
      recompute_apply_eq hc]
  have herrors : ∀ i p, chainErrors sha256 i p (pre++c.apply e :: post) =
      chainErrors sha256 i p (pre++e :: post) := by
    induction pre with
    | nil => exact hhead
    | cons log pre ih => exact fun i p => by simp only [List.cons_append, chainErrors, ih]
  have hne : ∀ x : AuditLog, (pre++x :: post).isEmpty = false := fun x => by simp
  simp only [verifyAuditChain, hne, herrors, List.length_append, List.length_cons]

/-- The changed row no longer stores its own hash. -/
theorem AuditRun.not_validChain_of_hashed (hsha : Function.Injective sha256)
    {table logs : List AuditLog} (h : AuditRun sha256 table) {e : AuditLog} (he : e ∈ table)
    {c : FieldChange} (hc : c.Hashed e) (hmem : c.apply e ∈ logs) : ¬ValidChain sha256 logs := by
  intro hvalid
  apply recompute_apply_ne hsha hc
  rw [hvalid.2 _ hmem, apply_integrityHash, h.rowsHashed.2 e he]

/-- When the query leaves one row out, it answers with the first of the others. -/
theorem Fetched.eq_take_of_notMem {limit : ℕ} {pre post logs : List AuditLog} {x : AuditLog}
    (h : Fetched limit (pre++x :: post) logs) (hinc : Increasing (pre++post)) (hx : x ∉ logs) :
    logs = (pre++post).take limit ∧ limit ≤ (pre++post).length := by
  obtain ⟨sorted, hperm, hsorted, rfl⟩ := h
  -- `x` stands behind the limit, so taking it out does not move the window
  have hmem : x ∈ sorted.drop limit := by
    have hall : x ∈ sorted.take limit++sorted.drop limit := by
      rw [List.take_append_drop]
      exact hperm.mem_iff.mpr (by simp)
    exact (List.mem_append.mp hall).resolve_left hx
  obtain ⟨d, d', hd⟩ := List.append_of_mem hmem
  have hsplit : sorted = sorted.take limit++(d++x :: d') := by
    rw [← hd, List.take_append_drop]
  have hlen : (sorted.take limit).length = limit := by
    have hpos : 0 < (sorted.drop limit).length := List.length_pos_of_mem hmem
    rw [List.length_drop] at hpos
    rw [List.length_take]
    omega
  have hothers : sorted.take limit++(d++d') = pre++post := by
    refine eq_of_sorted_perm hinc ?_ ?_
    · refine List.Pairwise.sublist ?_ hsorted
      conv_rhs => rw [hsplit]
      exact (List.Sublist.refl _).append ((List.Sublist.refl d).append (List.sublist_cons_self x d'))
    · rw [hsplit] at hperm
      have hmid : (sorted.take limit++(d++x :: d')).Perm (x :: (sorted.take limit++(d++d'))) := by
        rw [← List.append_assoc, ← List.append_assoc]
        exact List.perm_middle
      have hmid' : (pre++x :: post).Perm (x :: (pre++post)) := List.perm_middle
      exact List.Perm.cons_inv (hmid.symm.trans (hperm.trans hmid'))
  constructor
  · rw [← hothers, List.take_append_of_le_length hlen.ge, List.take_of_length_le hlen.le]
  · rw [← hothers, List.length_append, hlen]
    omega

/-- A limit that stops before a row does not see it. -/
theorem take_middle_of_le {α : Type*} {pre : List α} {limit : ℕ} (h : limit ≤ pre.length) (x : α)
    (post : List α) : (pre++x :: post).take limit = (pre++post).take limit := by
  rw [List.take_append_of_le_length h, List.take_append_of_le_length h]

theorem mem_take_middle {α : Type*} {pre : List α} {limit : ℕ} (h : pre.length < limit) (x : α)
    (post : List α) : x ∈ (pre++x :: post).take limit := by
  obtain ⟨k, hk⟩ := Nat.exists_eq_succ_of_ne_zero (Nat.sub_ne_zero_of_lt h)
  rw [List.take_append, hk, List.take_succ_cons, List.mem_append]
  exact Or.inr List.mem_cons_self

/-- The first rows of a table in timestamp order pass. -/
theorem AuditRun.validChain_take {table : List AuditLog} (h : AuditRun sha256 table)
    (hinc : Increasing table) (limit : ℕ) : ValidChain sha256 (table.take limit) :=
  ⟨(h.linked hinc).take limit, fun log hlog => h.rowsHashed.2 log (List.mem_of_mem_take hlog)⟩

/-- The changed login row, fetched alone. -/
def exportedRow : AuditLog :=
  (FieldChange.action "export").apply (loginRow sampleDigest)

/-- The verifier reports every change in `Scope`, whatever its limit. -/
def TamperEvident (sha256 : String → String)
    (Scope : List AuditLog → AuditLog → FieldChange → Prop) : Prop :=
  ∀ pre e post, AuditRun sha256 (pre++e :: post) → ∀ c : FieldChange, c.apply e ≠ e →
    ∀ limit, 1 ≤ limit → limit ≤ 10000 → ∀ logs, Fetched limit (pre++c.apply e :: post) logs →
      Scope logs e c → (verifyAuditChain sha256 logs).status = .invalid

end LegalForge.Audit
