import LegalForge.AuditWriters

/-! The verifier accepts what concurrent requests wrote exactly when the
requests did not overlap and their clocks went forward. -/
namespace LegalForge.Audit
open Transition ReadCommitted HashChain

variable {sha256 : String → String}

/-- Every order the query may answer in passes. -/
def AlwaysValid (sha256 : String → String) (table : List AuditLog) : Prop :=
  ∀ sorted : List AuditLog, sorted.Perm table →
    sorted.Pairwise (fun e f => e.timestamp ≤ f.timestamp) → ValidChain sha256 sorted

theorem exists_sorted (table : List AuditLog) : ∃ sorted : List AuditLog, sorted.Perm table ∧
    sorted.Pairwise (fun e f => e.timestamp ≤ f.timestamp) :=
  ⟨table.insertionSort (fun e f => e.timestamp ≤ f.timestamp), List.perm_insertionSort _ _,
    List.pairwise_insertionSort _ _⟩

/-- There is an order in which only earlier rows stand before `e`. -/
theorem exists_sorted_before {table : List AuditLog} {e : AuditLog} (he : e ∈ table) :
    ∃ before after : List AuditLog, (before++e :: after).Perm table ∧
      (before++e :: after).Pairwise (fun e f => e.timestamp ≤ f.timestamp) ∧
      ∀ f ∈ before, f.timestamp < e.timestamp := by
  -- rows of one timestamp may come in any order, so `e` is put first among its own
  obtain ⟨front, back, hsplit⟩ := List.append_of_mem he
  let earlier : AuditLog → Bool := fun f => f.timestamp < e.timestamp
  obtain ⟨before, hbefore, hsorted⟩ := exists_sorted ((front++back).filter earlier)
  obtain ⟨after, hafter, hsorted'⟩ := exists_sorted ((front++back).filter (fun f => !earlier f))
  have hlt : ∀ f ∈ before, f.timestamp < e.timestamp := fun f hf =>
    of_decide_eq_true (List.mem_filter.mp (hbefore.mem_iff.mp hf)).2
  have hge : ∀ g ∈ after, e.timestamp ≤ g.timestamp := fun g hg => by
    have hnot := (List.mem_filter.mp (hafter.mem_iff.mp hg)).2
    simpa [earlier] using hnot
  refine ⟨before, after, ?_, ?_, hlt⟩
  · have hothers : (before++after).Perm (front++back) :=
      (hbefore.append hafter).trans (List.filter_append_perm earlier (front++back))
    rw [hsplit]
    exact List.perm_middle.trans ((hothers.cons e).trans List.perm_middle.symm)
  · refine List.pairwise_append.mpr ⟨hsorted, List.pairwise_cons.mpr ⟨hge, hsorted'⟩, ?_⟩
    intro f hf g hg
    rcases List.mem_cons.mp hg with rfl | hg
    · exact le_of_lt (hlt f hf)
    · exact le_of_lt (lt_of_lt_of_le (hlt f hf) (hge g hg))

/-- In a table that always passes, a row is later than the row whose hash it names. -/
theorem AlwaysValid.later (hsha : Function.Injective sha256) {table : List AuditLog}
    (h : AlwaysValid sha256 table) (hrows : RowsHashed sha256 table) {e f : AuditLog}
    (he : e ∈ table) (hf : f ∈ table) (hprev : e.previousHash = some f.integrityHash) :
    f.timestamp < e.timestamp := by
  -- in that order the row `e` names is the last one before it
  obtain ⟨before, after, hperm, hsorted, hlt⟩ := exists_sorted_before he
  have hlinked := linked_append.mp (h _ hperm hsorted).1
  have htip : some f.integrityHash = tip AuditLog.integrityHash none before :=
    hprev.symm.trans hlinked.2.1
  rcases List.eq_nil_or_concat before with hnil | ⟨init, last, hlast⟩
  · rw [hnil] at htip
    cases htip
  · rw [List.concat_eq_append] at hlast
    rw [hlast, tip_concat] at htip
    have hmem : last ∈ before := by simp [hlast]
    have hlastmem : last ∈ table := hperm.mem_iff.mp (List.mem_append_left _ hmem)
    have heq : f = last := List.inj_on_of_nodup_map (hrows.nodup_hash hsha) hf hlastmem
      (Option.some.inj htip)
    rw [heq]
    exact hlt last hmem

/-- In a table that always passes, no hash is named twice. -/
theorem AlwaysValid.nodup_prev (hsha : Function.Injective sha256) {table : List AuditLog}
    (h : AlwaysValid sha256 table) (hrows : RowsHashed sha256 table) :
    (table.map AuditLog.previousHash).Nodup := by
  obtain ⟨sorted, hperm, hsorted⟩ := exists_sorted table
  have hnodup : (sorted.map AuditLog.integrityHash).Nodup :=
    (hperm.map _).nodup_iff.mpr (hrows.nodup_hash hsha)
  have hprev := (h sorted hperm hsorted).1.nodup_prev hnodup
    fun _ _ => (Option.some_ne_none _).symm
  exact (hperm.map _).nodup_iff.mp hprev

theorem alwaysValid_iff_status {table : List AuditLog} {limit : ℕ} (hlimit : table.length ≤ limit) :
    AlwaysValid sha256 table ↔
      ∀ logs, Fetched limit table logs → (verifyAuditChain sha256 logs).status ≠ .invalid := by
  constructor
  · rintro h logs ⟨sorted, hperm, hsorted, rfl⟩
    rw [List.take_of_length_le (hperm.length_eq.trans_le hlimit)]
    exact fun hinvalid => status_eq_invalid_iff.mp hinvalid (h sorted hperm hsorted)
  · intro h sorted hperm hsorted
    have hlogs : Fetched limit table sorted := by
      refine ⟨sorted, hperm, hsorted, ?_⟩
      rw [List.take_of_length_le (hperm.length_eq.trans_le hlimit)]
    by_contra hnot
    exact h sorted hlogs (status_eq_invalid_iff.mpr hnot)

/-! What a request has read or inserted reaches the table when it commits. -/

/-- How often the rows of a request name `p`, the row it is about to insert included. -/
def Writer.names (p : Option String) : Writer → ℕ
  | .active pending => (pending.map AuditLog.previousHash).count p
  | .reading pending _ previousHash =>
    (pending.map AuditLog.previousHash).count p + if previousHash = p then 1 else 0
  | .closed => 0

theorem Writer.Quiet.names_eq_zero {m : Writer} (h : m.Quiet) (p : Option String) :
    m.names p = 0 := by
  cases m with
  | active pending =>
    have hnil : pending = [] := h
    simp [Writer.names, hnil]
  | reading _ _ _ => exact h.elim
  | closed => rfl

variable {Tx : Type*} [DecidableEq Tx]

/-- How often `p` is named in the table, or will be by `t` and `u`. -/
def named (p : Option String) (t u : Tx) (s : WriterState Tx) : ℕ :=
  (s.committed.map AuditLog.previousHash).count p+(s.session t).names p+(s.session u).names p

theorem stmt_names_le {db : List AuditLog} {m m' : Writer} {a : WriterStatement}
    (h : (auditProgram sha256).stmt db m a = some m') (p : Option String) :
    m.names p ≤ m'.names p := by
  cases a with
  | readLast call q =>
    obtain ⟨pending, rfl, -, rfl⟩ := stmt_readLast h
    exact Nat.le_add_right _ _
  | insert entryId now =>
    obtain ⟨pending, call, q, rfl, -, rfl⟩ := stmt_insert h
    simp only [Writer.names, List.map_append, List.count_append, auditEntry, List.map_cons,
      List.map_nil, List.count_singleton]
    split_ifs <;> simp_all

theorem publish_names {db db' : List AuditLog} {m m' : Writer}
    (h : (auditProgram sha256).publish db m = some (db', m')) (p : Option String) :
    (db'.map AuditLog.previousHash).count p+m'.names p =
      (db.map AuditLog.previousHash).count p+m.names p := by
  obtain ⟨pending, rfl, rfl, rfl⟩ := publish_eq_some h
  simp [Writer.names, List.count_append]

/-- Without a rollback nothing that was going to be named is lost. -/
theorem named_le_step {s s' : WriterState Tx} {l : WriterLabel Tx}
    (hstep : step (auditProgram sha256) s l = some s') (hl : ∀ v, l ≠ .rollback v)
    (p : Option String) {t u : Tx} (htu : t ≠ u) : named p t u s ≤ named p t u s' := by
  cases l with
  | stmt v a =>
    obtain ⟨-, m, hm, rfl⟩ := step_stmt_eq_some.mp hstep
    have hle := stmt_names_le hm p
    -- only the session of `v` moves, and it names `p` no less often
    have hone : ∀ w, (s.session w).names p ≤ (Function.update s.session v m w).names p := by
      intro w
      by_cases hw : w = v
      · subst hw
        rwa [Function.update_self]
      · rw [Function.update_of_ne hw]
    have ht := hone t
    have hu := hone u
    simp only [named]
    omega
  | commit v =>
    obtain ⟨db, m, hpub, rfl⟩ := step_commit_eq_some.mp hstep
    -- what leaves the session reaches the table
    have heq := publish_names hpub p
    obtain ⟨pending, -, -, hm⟩ := publish_eq_some hpub
    have hzero : m.names p = 0 := by rw [hm]; rfl
    simp only [named]
    by_cases ht : t = v
    · subst ht
      rw [Function.update_self, Function.update_of_ne htu.symm]
      omega
    · by_cases hu : u = v
      · subst hu
        rw [Function.update_self, Function.update_of_ne ht]
        omega
      · rw [Function.update_of_ne ht, Function.update_of_ne hu]
        omega
  | rollback v => exact absurd rfl (hl v)

/-- A row that a request has inserted or committed. -/
def Stored (e : AuditLog) (s : WriterState Tx) : Prop :=
  e ∈ s.committed ∨ ∃ t, e ∈ (s.session t).pending

theorem stored_step {s s' : WriterState Tx} {l : WriterLabel Tx}
    (hstep : step (auditProgram sha256) s l = some s') (hl : ∀ v, l ≠ .rollback v)
    {e : AuditLog} (h : Stored e s) : Stored e s' := by
  cases l with
  | stmt v a =>
    obtain ⟨-, m, hm, rfl⟩ := step_stmt_eq_some.mp hstep
    rcases h with h | ⟨t, ht⟩
    · exact Or.inl h
    · right
      refine ⟨t, ?_⟩
      show e ∈ (Function.update s.session v m t).pending
      by_cases htv : t = v
      · subst htv
        rw [Function.update_self]
        cases a with
        | readLast call q =>
          obtain ⟨pending, hsess, -, rfl⟩ := stmt_readLast hm
          rwa [hsess] at ht
        | insert entryId now =>
          obtain ⟨pending, call, q, hsess, -, rfl⟩ := stmt_insert hm
          rw [hsess] at ht
          exact List.mem_append_left _ ht
      · rwa [Function.update_of_ne htv]
  | commit v =>
    obtain ⟨db, m, hpub, rfl⟩ := step_commit_eq_some.mp hstep
    obtain ⟨pending, hsess, rfl, rfl⟩ := publish_eq_some hpub
    rcases h with h | ⟨t, ht⟩
    -- a committed row stays, a pending row of `v` becomes one
    · exact Or.inl (List.mem_append_left _ h)
    · by_cases htv : t = v
      · subst htv
        rw [hsess] at ht
        exact Or.inl (List.mem_append_right _ ht)
      · right
        refine ⟨t, ?_⟩
        show e ∈ (Function.update s.session v .closed t).pending
        rwa [Function.update_of_ne htv]
  | rollback v => exact absurd rfl (hl v)

/-- The labels of requests that all commit, and the state they end in. -/
structure Completes (sha256 : String → String) (s : WriterState Tx) (ls : List (WriterLabel Tx))
    (s' : WriterState Tx) : Prop where
  run : exec (step (auditProgram sha256)) s ls = some s'
  no_rollback : ∀ t, Label.rollback t ∉ ls
  quiet : ∀ t, (s'.session t).Quiet

theorem Completes.tail {s u s' : WriterState Tx} {l : WriterLabel Tx} {ls : List (WriterLabel Tx)}
    (h : Completes sha256 s (l :: ls) s') (hl : step (auditProgram sha256) s l = some u) :
    Completes sha256 u ls s' := by
  obtain ⟨u', hu', hrest⟩ := exec_cons_eq_some.mp h.run
  obtain rfl := Option.some.inj (hl.symm.trans hu')
  exact ⟨hrest, fun t ht => h.no_rollback t (List.mem_cons_of_mem l ht), h.quiet⟩

theorem Completes.ne_rollback {s s' : WriterState Tx} {l : WriterLabel Tx}
    {ls : List (WriterLabel Tx)} (h : Completes sha256 s (l :: ls) s') (v : Tx) :
    l ≠ .rollback v := by
  rintro rfl
  exact h.no_rollback v List.mem_cons_self

theorem Completes.count_ge {s s' : WriterState Tx} {ls : List (WriterLabel Tx)}
    (h : Completes sha256 s ls s') (p : Option String) {t u : Tx} (htu : t ≠ u) :
    named p t u s ≤ (s'.committed.map AuditLog.previousHash).count p := by
  induction ls generalizing s with
  | nil =>
    obtain rfl := Option.some.inj h.run
    simp only [named, (h.quiet t).names_eq_zero, (h.quiet u).names_eq_zero]
    omega
  | cons l ls ih =>
    obtain ⟨v, hv, -⟩ := exec_cons_eq_some.mp h.run
    exact (named_le_step hv h.ne_rollback p htu).trans (ih (h.tail hv))

theorem Completes.mem_of_stored {s s' : WriterState Tx} {ls : List (WriterLabel Tx)}
    (h : Completes sha256 s ls s') {e : AuditLog} (he : Stored e s) : e ∈ s'.committed := by
  induction ls generalizing s with
  | nil =>
    obtain rfl := Option.some.inj h.run
    rcases he with he | ⟨t, ht⟩
    · exact he
    · rw [(h.quiet t).pending_eq_nil] at ht
      cases ht
  | cons l ls ih =>
    obtain ⟨v, hv, -⟩ := exec_cons_eq_some.mp h.run
    exact ih (h.tail hv) (stored_step hv h.ne_rollback he)

/-- A request that is not quiet is going to name the tip of the committed rows. -/
theorem one_le_names {db : List AuditLog} {m : Writer} (h : ChainFor sha256 db m)
    (hm : ¬m.Quiet) : 1 ≤ m.names (tip AuditLog.integrityHash none db) := by
  have hfirst : ∀ x xs, m.pending = x :: xs →
      x.previousHash = tip AuditLog.integrityHash none db := fun x xs hx => by
    have hlinked := h.valid.1
    rw [hx, linked_append] at hlinked
    exact hlinked.2.1
  cases m with
  | active pending =>
    cases pending with
    | nil => exact absurd rfl hm
    | cons x xs => simp [Writer.names, hfirst x xs rfl]
  | reading pending call p =>
    cases pending with
    | nil =>
      have hp := h.read [] call p rfl
      rw [List.append_nil] at hp
      simp [Writer.names, hp]
    | cons x xs =>
      simp only [Writer.names, List.map_cons, hfirst x xs rfl, List.count_cons_self]
      omega
  | closed => exact absurd trivial hm

/-- Two requests that overlap name the same hash. -/
theorem quiet_of_alwaysValid (hsha : Function.Injective sha256) {s s' s₂ : WriterState Tx}
    {ls : List (WriterLabel Tx)} {t : Tx} {call : AuditCall} {p : Option String}
    (h : Completes sha256 s (.stmt t (.readLast call p) :: ls) s') (hinv : SerialInv sha256 s)
    (hrows : RowsHashed sha256 s'.committed) (hvalid : AlwaysValid sha256 s'.committed)
    (hstep : step (auditProgram sha256) s (.stmt t (.readLast call p)) = some s₂) :
    ∀ u, u ≠ t → (s.session u).Quiet := by
  intro u hu
  by_contra hnoisy
  obtain ⟨-, m, hm, rfl⟩ := step_stmt_eq_some.mp hstep
  obtain ⟨pending, hsess, hp, rfl⟩ := stmt_readLast hm
  -- the reader has inserted nothing, so it reads the tip of the committed rows,
  have hquiet : (s.session t).Quiet := (hinv.alone u t hu).resolve_left hnoisy
  rw [hsess] at hquiet
  obtain rfl : pending = [] := hquiet
  rw [List.append_nil] at hp
  have hcommitted := hinv.committed.increasing
  rw [Writer.pending, List.append_nil] at hcommitted
  have htip := latestHashes_of_increasing hcommitted hp
  -- which the request that is under way names already
  have hcount := (h.tail hstep).count_ge p hu
  have hother := one_le_names (hinv.sessions u) hnoisy
  have hone := List.nodup_iff_count_le_one.mp (hvalid.nodup_prev hsha hrows) p
  have hself : (Writer.reading [] call p).names p = 1 := by simp [Writer.names]
  rw [← htip] at hother
  simp only [named, Function.update_self, Function.update_of_ne hu, hself] at hcount
  omega

/-- A row that is not ahead of all rows its request sees comes too early for the
hash it names. -/
theorem ahead_of_alwaysValid (hsha : Function.Injective sha256) {s s' s₂ : WriterState Tx}
    {ls : List (WriterLabel Tx)} {t : Tx} {entryId : Uuid} {now : Datetime}
    (h : Completes sha256 s (.stmt t (.insert entryId now) :: ls) s') (hinv : SerialInv sha256 s)
    (hrows : RowsHashed sha256 s'.committed) (hvalid : AlwaysValid sha256 s'.committed)
    (hstep : step (auditProgram sha256) s (.stmt t (.insert entryId now)) = some s₂) :
    ∀ e ∈ s.committed++(s.session t).pending, e.timestamp < now := by
  obtain ⟨-, m, hm, rfl⟩ := step_stmt_eq_some.mp hstep
  obtain ⟨pending, call, p, hsess, -, rfl⟩ := stmt_insert hm
  have ht := hinv.sessions t
  rw [hsess] at ht ⊢
  have hnew : auditEntry sha256 call p entryId now ∈ s'.committed := by
    refine (h.tail hstep).mem_of_stored (Or.inr ⟨t, ?_⟩)
    show _ ∈ (Function.update s.session t _ t).pending
    rw [Function.update_self]
    exact List.mem_append_right _ List.mem_cons_self
  have hseen : ∀ f ∈ s.committed++pending, f ∈ s'.committed := fun f hf => by
    refine h.mem_of_stored ?_
    rcases List.mem_append.mp hf with hf | hf
    · exact Or.inl hf
    · exact Or.inr ⟨t, by rwa [hsess]⟩
  have hinc := ht.increasing
  have hread := ht.read pending call p rfl
  simp only [Writer.pending] at hinc ⊢
  rcases List.eq_nil_or_concat (s.committed++pending) with hnil | ⟨init, last, hlast⟩
  · rw [hnil]
    exact fun e he => absurd he List.not_mem_nil
  · rw [List.concat_eq_append] at hlast
    rw [hlast] at hinc hread hseen ⊢
    rw [tip_concat] at hread
    have hmem : last ∈ s'.committed := hseen last (List.mem_append_right _ List.mem_cons_self)
    -- the new row names the last row it saw, and all others are before that one
    have hnames : (auditEntry sha256 call p entryId now).previousHash =
        some last.integrityHash := hread
    have hlater := hvalid.later hsha hrows hnew hmem hnames
    have hnow : (auditEntry sha256 call p entryId now).timestamp = now := rfl
    rw [hnow] at hlater
    intro e he
    rcases List.mem_append.mp he with he | he
    · have hlast' : e.timestamp < last.timestamp :=
        (List.pairwise_append.mp hinc).2.2 e he last (List.mem_singleton_self last)
      exact lt_trans hlast' hlater
    · rw [List.mem_singleton.mp he]
      exact hlater

theorem serial_of_alwaysValid (hsha : Function.Injective sha256) {s s' : WriterState Tx}
    {ls : List (WriterLabel Tx)} (h : Completes sha256 s ls s') (hinv : SerialInv sha256 s)
    (hrows : RowsHashed sha256 s'.committed) (hvalid : AlwaysValid sha256 s'.committed) :
    Along (step (auditProgram sha256)) (fun s l _ => Serial s l) s ls := by
  induction ls generalizing s with
  | nil => trivial
  | cons l ls ih =>
    intro u hu
    -- a step that is not serial would spoil the table the run ends in
    have hserial : Serial s l := by
      cases l with
      | stmt t a =>
        cases a with
        | readLast call p => exact quiet_of_alwaysValid hsha h hinv hrows hvalid hu
        | insert entryId now => exact ahead_of_alwaysValid hsha h hinv hrows hvalid hu
      | commit t => trivial
      | rollback t => trivial
    exact ⟨hserial, ih (h.tail hu) (hinv.step hu hserial)⟩

omit [DecidableEq Tx] in
theorem SerialInv.alwaysValid {s : WriterState Tx} (h : SerialInv sha256 s) :
    AlwaysValid sha256 s.committed := by
  -- with increasing timestamps there is one order only
  intro sorted hperm hsorted
  have hinc := h.committed.increasing
  have hvalid := h.committed.valid
  rw [Writer.pending, List.append_nil] at hinc hvalid
  rwa [eq_of_sorted_perm hinc hsorted hperm]

def loginCall : AuditCall where
  userId := none
  entityType := "user"
  entityId := "7"
  action := "login"

/-- Two logins that both read the empty table before either inserts its row. -/
def overlappingRun : List (WriterLabel ℕ) :=
  [.stmt 0 (.readLast loginCall none), .stmt 1 (.readLast loginCall none),
   .stmt 0 (.insert 1 atNoon), .stmt 1 (.insert 2 afterNoon), .commit 0,
   .commit 1]

def singleRun : List (WriterLabel ℕ) :=
  [.stmt 0 (.readLast loginCall none), .stmt 0 (.insert 1 atNoon), .commit 0]

theorem exists_completes_singleRun (sha256 : String → String) : ∃ s,
    Completes sha256 (start [] (.active [])) singleRun s ∧
      s.committed = [auditEntry sha256 loginCall none 1 atNoon] := by
  refine ⟨_, ⟨rfl, ?_, ?_⟩, rfl⟩
  · intro t
    simp [singleRun]
  · intro t
    by_cases ht : t = 0 <;> simp [ht, start, Writer.Quiet]

theorem exists_completes_overlappingRun (sha256 : String → String) : ∃ s,
    Completes sha256 (start [] (.active [])) overlappingRun s ∧
      s.committed = [auditEntry sha256 loginCall none 1 atNoon,
        auditEntry sha256 loginCall none 2 afterNoon] := by
  refine ⟨_, ⟨rfl, ?_, ?_⟩, rfl⟩
  · intro t
    simp [overlappingRun]
  · intro t
    by_cases h0 : t = 0 <;> by_cases h1 : t = 1 <;>
      simp [h0, h1, start, Writer.Quiet]

end LegalForge.Audit
