import LegalForge.AuditChain
import LegalForge.ReadCommitted

/-! `create_audit_log` as the statements that concurrent requests interleave.
The hash is read by one statement and the row inserted by a later one; nothing
is locked in between. -/
namespace LegalForge.Audit
open Transition ReadCommitted HashChain

/-- Where one request stands. It may call `create_audit_log` several times. -/
inductive Writer where
  /-- Between two calls, with the rows inserted so far. -/
  | active (pending : List AuditLog)
  /-- The previous hash is read, the row not inserted yet. -/
  | reading (pending : List AuditLog) (call : AuditCall) (previousHash : Option String)
  | closed

inductive WriterStatement where
  /-- `select(AuditLog.integrity_hash).order_by(timestamp.desc()).limit(1)` and its answer. -/
  | readLast (call : AuditCall) (previousHash : Option String)
  /-- `db.add(entry)` and `db.flush()`. -/
  | insert (entryId : Uuid) (now : Datetime)

def Writer.pending : Writer → List AuditLog
  | .active pending => pending
  | .reading pending _ _ => pending
  | .closed => []

/-- Nothing inserted and nothing read. -/
def Writer.Quiet : Writer → Prop
  | .active pending => pending = []
  | .reading _ _ _ => False
  | .closed => True

/-- A request sees the committed rows and its own. Inserting a row locks its primary key. -/
def auditProgram (sha256 : String → String) :
    Program (List AuditLog) Writer WriterStatement Uuid where
  locks _ _ a :=
    match a with
    | .readLast _ _ => []
    | .insert entryId _ => [entryId]
  stmt db m a :=
    match m, a with
    | .active pending, .readLast call previousHash =>
      if previousHash ∈ latestHashes (db++pending) then some (.reading pending call previousHash)
      else none
    | .reading pending call previousHash, .insert entryId now =>
      if ∀ e ∈ db++pending, e.id ≠ entryId then
        some (.active (pending++[auditEntry sha256 call previousHash entryId now]))
      else none
    | _, _ => none
  publish db m :=
    match m with
    | .active pending => some (db++pending, .closed)
    | _ => none
  abort _ := .closed

abbrev WriterState (Tx : Type*) := State (List AuditLog) Writer Uuid Tx
abbrev WriterLabel (Tx : Type*) := Label WriterStatement Tx

variable {sha256 : String → String}

theorem stmt_readLast {db : List AuditLog} {m m' : Writer} {call : AuditCall} {p : Option String}
    (h : (auditProgram sha256).stmt db m (.readLast call p) = some m') :
    ∃ pending, m = .active pending ∧ p ∈ latestHashes (db++pending) ∧
      m' = .reading pending call p := by
  cases m with
  | active pending =>
    simp only [auditProgram, Option.ite_none_right_eq_some, Option.some.injEq] at h
    exact ⟨pending, rfl, h.1, h.2.symm⟩
  | _ => cases h

theorem stmt_insert {db : List AuditLog} {m m' : Writer} {entryId : Uuid} {now : Datetime}
    (h : (auditProgram sha256).stmt db m (.insert entryId now) = some m') :
    ∃ pending call p, m = .reading pending call p ∧ (∀ e ∈ db++pending, e.id ≠ entryId) ∧
      m' = .active (pending++[auditEntry sha256 call p entryId now]) := by
  cases m with
  | reading pending call p =>
    simp only [auditProgram, Option.ite_none_right_eq_some, Option.some.injEq] at h
    exact ⟨pending, call, p, rfl, h.1, h.2.symm⟩
  | _ => cases h

theorem publish_eq_some {db db' : List AuditLog} {m m' : Writer}
    (h : (auditProgram sha256).publish db m = some (db', m')) :
    ∃ pending, m = .active pending ∧ db' = db++pending ∧ m' = .closed := by
  cases m with
  | active pending =>
    simp only [auditProgram, Option.some.injEq, Prod.mk.injEq] at h
    exact ⟨pending, rfl, h.1.symm, h.2.symm⟩
  | _ => cases h

/-! Every interleaving keeps the identifiers apart and stores each row with its hash. -/

/-- A request holds the keys of the rows it has inserted. -/
def WriterInv (sha256 : String → String) (db : List AuditLog) (keys : Set Uuid) (m : Writer) :
    Prop :=
  RowsHashed sha256 (db++m.pending) ∧ ∀ e ∈ m.pending, e.id ∈ keys

theorem auditOutline (sha256 : String → String) :
    Outline (auditProgram sha256) (RowsHashed sha256) (WriterInv sha256) where
  stmt := by
    intro db keys m act m' _ hK hstmt
    cases act with
    | readLast call p =>
      obtain ⟨pending, rfl, -, rfl⟩ := stmt_readLast hstmt
      exact ⟨hK.1, fun e he => Or.inl (hK.2 e he)⟩
    | insert entryId now =>
      -- the row lock on the new key is taken by this statement
      obtain ⟨pending, call, p, rfl, hfresh, rfl⟩ := stmt_insert hstmt
      constructor
      · rw [Writer.pending, ← List.append_assoc]
        refine rowsHashed_append.mpr
          ⟨hK.1, rowsHashed_auditEntry call p entryId now, fun e he f hf => ?_⟩
        rw [List.mem_singleton.mp hf]
        exact hfresh e he
      · intro e he
        rcases List.mem_append.mp he with he | he
        · exact Or.inl (hK.2 e he)
        · rw [List.mem_singleton.mp he]
          exact Or.inr List.mem_cons_self
  commit := by
    intro db keys m db' m' _ hK hpub
    obtain ⟨pending, rfl, rfl, rfl⟩ := publish_eq_some hpub
    exact ⟨hK.1, by simpa [WriterInv, Writer.pending] using hK.1⟩
  abort := by
    intro db keys m hJ _
    simpa [WriterInv, auditProgram, Writer.pending] using hJ
  stable := by
    intro db keys m db' m' keys' n _ hK hpub hdisj hn
    obtain ⟨pending, rfl, rfl, rfl⟩ := publish_eq_some hpub
    -- the published rows come between the old ones and those of `n`
    have hn' := rowsHashed_append.mp hn.1
    refine ⟨rowsHashed_append.mpr ⟨hK.1, hn'.2.1, fun e he f hf => ?_⟩, hn.2⟩
    rcases List.mem_append.mp he with he | he
    · exact hn'.2.2 e he f hf
    · -- each of the two requests holds the key of its own row
      have hkey := hK.2 e he
      intro hef
      rw [hef] at hkey
      exact Set.disjoint_left.mp hdisj hkey (hn.2 f hf)

/-! Requests that do not overlap build one chain. -/

/-- The rows a request sees are one chain, and the hash it has read is its tip. -/
structure ChainFor (sha256 : String → String) (db : List AuditLog) (m : Writer) : Prop where
  increasing : Increasing (db++m.pending)
  valid : ValidChain sha256 (db++m.pending)
  read : ∀ pending call p, m = .reading pending call p →
    p = tip AuditLog.integrityHash none (db++pending)

theorem Writer.Quiet.pending_eq_nil {m : Writer} (h : m.Quiet) : m.pending = [] := by
  cases m with
  | active pending => exact h
  | reading _ _ _ => exact h.elim
  | closed => rfl

theorem chainFor_of_quiet {db : List AuditLog} {m : Writer} (h : ChainFor sha256 db .closed)
    (hm : m.Quiet) : ChainFor sha256 db m := by
  refine ⟨?_, ?_, ?_⟩
  · rw [hm.pending_eq_nil]
    exact h.increasing
  · rw [hm.pending_eq_nil]
    exact h.valid
  · rintro pending call p rfl
    exact hm.elim

variable {Tx : Type*} [DecidableEq Tx]

/-- A request reads the last hash while no other one has read or inserted
anything, and its clock is ahead of every row it sees. -/
def Serial (s : WriterState Tx) : WriterLabel Tx → Prop
  | .stmt t (.readLast _ _) => ∀ u, u ≠ t → (s.session u).Quiet
  | .stmt t (.insert _ now) => ∀ e ∈ s.committed++(s.session t).pending, e.timestamp < now
  | .commit _ => True
  | .rollback _ => True

structure SerialInv (sha256 : String → String) (s : WriterState Tx) : Prop where
  alone : ∀ t u, t ≠ u → (s.session t).Quiet ∨ (s.session u).Quiet
  committed : ChainFor sha256 s.committed .closed
  sessions : ∀ t, ChainFor sha256 s.committed (s.session t)

omit [DecidableEq Tx] in
theorem serialInv_start : SerialInv sha256 (start [] (.active []) : WriterState Tx) := by
  have hclosed : ChainFor sha256 [] .closed :=
    ⟨List.Pairwise.nil, ⟨trivial, fun _ h => absurd h List.not_mem_nil⟩, fun _ _ _ h => by cases h⟩
  exact ⟨fun _ _ _ => Or.inl rfl, hclosed, fun _ => chainFor_of_quiet hclosed rfl⟩

/-- Only the session of `t` may have become noisy. -/
theorem alone_update {session : Tx → Writer} {t : Tx} {m : Writer}
    (h : ∀ u v, u ≠ v → (session u).Quiet ∨ (session v).Quiet)
    (hm : m.Quiet ∨ ∀ u, u ≠ t → (session u).Quiet) :
    ∀ u v, u ≠ v → (Function.update session t m u).Quiet ∨
      (Function.update session t m v).Quiet := by
  intro u v huv
  by_cases hu : u = t
  · subst hu
    rw [Function.update_self, Function.update_of_ne huv.symm]
    exact hm.imp id fun hrest => hrest v huv.symm
  · by_cases hv : v = t
    · subst hv
      rw [Function.update_self, Function.update_of_ne hu]
      exact (hm.imp id fun hrest => hrest u hu).symm
    · rw [Function.update_of_ne hu, Function.update_of_ne hv]
      exact h u v huv

theorem sessions_update {db : List AuditLog} {session : Tx → Writer} {t : Tx} {m : Writer}
    (h : ∀ u, u ≠ t → ChainFor sha256 db (session u)) (hm : ChainFor sha256 db m) (u : Tx) :
    ChainFor sha256 db (Function.update session t m u) := by
  by_cases hu : u = t
  · subst hu
    rwa [Function.update_self]
  · rw [Function.update_of_ne hu]
    exact h u hu

theorem ChainFor.readLast {db : List AuditLog} {pending : List AuditLog} {call : AuditCall}
    {p : Option String} (h : ChainFor sha256 db (.active pending))
    (hp : p ∈ latestHashes (db++pending)) : ChainFor sha256 db (.reading pending call p) := by
  refine ⟨h.increasing, h.valid, ?_⟩
  intro pending' call' p' heq
  cases heq
  exact latestHashes_of_increasing h.increasing hp

/-- The inserted row is linked to the tip it has read and is newer than all others. -/
theorem ChainFor.insert {db pending : List AuditLog} {call : AuditCall} {p : Option String}
    (h : ChainFor sha256 db (.reading pending call p)) (entryId : Uuid) {now : Datetime}
    (hclock : ∀ e ∈ db++pending, e.timestamp < now) :
    ChainFor sha256 db (.active (pending++[auditEntry sha256 call p entryId now])) := by
  refine ⟨?_, ⟨?_, ?_⟩, fun _ _ _ h => by cases h⟩
  · rw [Writer.pending, ← List.append_assoc]
    refine List.pairwise_append.mpr ⟨h.increasing, List.pairwise_singleton _ _, ?_⟩
    intro e he f hf
    rw [List.mem_singleton.mp hf]
    exact hclock e he
  · rw [Writer.pending, ← List.append_assoc]
    exact linked_concat.mpr ⟨h.valid.1, h.read pending call p rfl⟩
  · intro e he
    rw [Writer.pending, ← List.append_assoc] at he
    rcases List.mem_append.mp he with he | he
    · exact h.valid.2 e he
    · rw [List.mem_singleton.mp he]
      rfl

theorem ChainFor.commit {db pending : List AuditLog} (h : ChainFor sha256 db (.active pending)) :
    ChainFor sha256 (db++pending) .closed := by
  refine ⟨?_, ?_, fun _ _ _ h => by cases h⟩
  · rw [Writer.pending, List.append_nil]
    exact h.increasing
  · rw [Writer.pending, List.append_nil]
    exact h.valid

/-- One serial step keeps the chain. -/
theorem SerialInv.step {s s' : WriterState Tx} {l : WriterLabel Tx} (h : SerialInv sha256 s)
    (hstep : step (auditProgram sha256) s l = some s') (hl : Serial s l) : SerialInv sha256 s' := by
  cases l with
  | stmt t act =>
    obtain ⟨-, m, hm, rfl⟩ := step_stmt_eq_some.mp hstep
    have ht := h.sessions t
    cases act with
    | readLast call p =>
      obtain ⟨pending, hsess, hp, rfl⟩ := stmt_readLast hm
      rw [hsess] at ht
      exact ⟨alone_update h.alone (Or.inr hl), h.committed,
        sessions_update (fun u _ => h.sessions u) (ht.readLast hp)⟩
    | insert entryId now =>
      obtain ⟨pending, call, p, hsess, -, rfl⟩ := stmt_insert hm
      rw [hsess] at ht
      have hothers : ∀ u, u ≠ t → (s.session u).Quiet := fun u hu =>
        (h.alone u t hu).resolve_right (by rw [hsess]; exact id)
      have hclock : ∀ e ∈ s.committed++pending, e.timestamp < now := by
        simpa only [Serial, hsess, Writer.pending] using hl
      exact ⟨alone_update h.alone (Or.inr hothers), h.committed,
        sessions_update (fun u _ => h.sessions u) (ht.insert entryId hclock)⟩
  | commit t =>
    obtain ⟨db, m, hpub, rfl⟩ := step_commit_eq_some.mp hstep
    obtain ⟨pending, hsess, rfl, rfl⟩ := publish_eq_some hpub
    have ht := h.sessions t
    rw [hsess] at ht
    have hclosed : ChainFor sha256 (s.committed++pending) .closed := ht.commit
    refine ⟨alone_update h.alone (Or.inl trivial), hclosed, sessions_update ?_ hclosed⟩
    intro u hu
    by_cases hnil : pending = []
    · rw [hnil, List.append_nil]
      exact h.sessions u
    · -- the other sessions were quiet, since this one was not
      refine chainFor_of_quiet hclosed ((h.alone u t hu).resolve_right ?_)
      rw [hsess]
      exact hnil
  | rollback t =>
    rw [step_rollback_eq_some] at hstep
    subst hstep
    exact ⟨alone_update h.alone (Or.inl trivial), h.committed,
      sessions_update (fun u _ => h.sessions u) h.committed⟩

end LegalForge.Audit
