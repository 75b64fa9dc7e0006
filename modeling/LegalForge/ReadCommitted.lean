import LegalForge.TransitionRun

/-! Interleavings of database transactions at isolation level READ COMMITTED.
A request is a program of statements. Each statement runs against the rows
committed when it starts, together with what its own session has kept. Writes
stay in the session until it commits. A statement that needs a row lock waits
until no other session holds it, and locks are kept until the session ends. -/
namespace LegalForge.ReadCommitted
open Transition

/-- The program every session runs, over the database `Db`, the session state
`Loc`, the statements `Act` and the lockable rows `Row`. -/
structure Program (Db Loc Act Row : Type*) where
  /-- The rows a statement locks before it runs. -/
  locks : Db → Loc → Act → List Row
  /-- One statement. It reads `Db` and changes the session only. -/
  stmt : Db → Loc → Act → Option Loc
  /-- COMMIT makes the pending writes of the session visible. -/
  publish : Db → Loc → Option (Db × Loc)
  /-- ROLLBACK drops them. -/
  abort : Loc → Loc

/-- Committed rows, one session for each transaction, and the lock table. -/
structure State (Db Loc Row Tx : Type*) where
  committed : Db
  session : Tx → Loc
  holder : Row → Option Tx

inductive Label (Act Tx : Type*) where
  | stmt (t : Tx) (a : Act)
  | commit (t : Tx)
  | rollback (t : Tx)

/-- The transaction a label belongs to. -/
def Label.tx {Act Tx : Type*} : Label Act Tx → Tx
  | .stmt t _ => t
  | .commit t => t
  | .rollback t => t

variable {Db Loc Act Row Tx : Type*} [DecidableEq Row] [DecidableEq Tx]

def free (s : State Db Loc Row Tx) (t : Tx) (r : Row) : Bool :=
  s.holder r = none || s.holder r = some t

def acquire (holder : Row → Option Tx) (t : Tx) (rows : List Row) (r : Row) : Option Tx :=
  if r ∈ rows then some t else holder r

def release (holder : Row → Option Tx) (t : Tx) (r : Row) : Option Tx :=
  if holder r = some t then none else holder r

def step (P : Program Db Loc Act Row) (s : State Db Loc Row Tx) :
    Label Act Tx → Option (State Db Loc Row Tx)
  | .stmt t a =>
    let rows := P.locks s.committed (s.session t) a
    if rows.all (free s t) then
      (P.stmt s.committed (s.session t) a).map fun m =>
        ⟨s.committed, Function.update s.session t m, acquire s.holder t rows⟩
    else none
  | .commit t =>
    (P.publish s.committed (s.session t)).map fun out =>
      ⟨out.1, Function.update s.session t out.2, release s.holder t⟩
  | .rollback t =>
    some ⟨s.committed, Function.update s.session t (P.abort (s.session t)), release s.holder t⟩

/-- Every session idle, no lock held. -/
def start (db : Db) (idle : Loc) : State Db Loc Row Tx :=
  ⟨db, fun _ => idle, fun _ => none⟩

variable {P : Program Db Loc Act Row} {s s' : State Db Loc Row Tx} {t : Tx}

theorem step_stmt_eq_some {a : Act} : step P s (.stmt t a) = some s' ↔
    (∀ r ∈ P.locks s.committed (s.session t) a, s.holder r = none ∨ s.holder r = some t) ∧
    ∃ m, P.stmt s.committed (s.session t) a = some m ∧
      s' = ⟨s.committed, Function.update s.session t m,
        acquire s.holder t (P.locks s.committed (s.session t) a)⟩ := by
  simp only [step, free, List.all_eq_true, Bool.or_eq_true, decide_eq_true_eq]
  split_ifs with h
  · simp only [Option.map_eq_some_iff]
    constructor
    · rintro ⟨m, hm, rfl⟩
      exact ⟨h, m, hm, rfl⟩
    · rintro ⟨-, m, hm, rfl⟩
      exact ⟨m, hm, rfl⟩
  · simp [h]

theorem step_commit_eq_some : step P s (.commit t) = some s' ↔
    ∃ db m, P.publish s.committed (s.session t) = some (db, m) ∧
      s' = ⟨db, Function.update s.session t m, release s.holder t⟩ := by
  simp only [step, Option.map_eq_some_iff, Prod.exists]
  exact exists_congr fun db => exists_congr fun m => and_congr_right fun _ => eq_comm

theorem step_rollback_eq_some : step P s (.rollback t) = some s' ↔
    s' = ⟨s.committed, Function.update s.session t (P.abort (s.session t)),
      release s.holder t⟩ := by
  simp only [step, Option.some.injEq]
  exact eq_comm

/-- Only a commit changes the committed rows. -/
theorem step_committed_eq {l : Label Act Tx} (h : step P s l = some s')
    (hl : ∀ t, l ≠ .commit t) : s'.committed = s.committed := by
  cases l with
  | stmt t a =>
    obtain ⟨-, m, -, rfl⟩ := step_stmt_eq_some.mp h
    rfl
  | commit t => exact absurd rfl (hl t)
  | rollback t => rw [step_rollback_eq_some.mp h]

/-- A step changes the session of its own transaction only. -/
theorem step_session_of_ne {l : Label Act Tx} (h : step P s l = some s') {u : Tx}
    (hu : u ≠ l.tx) : s'.session u = s.session u := by
  cases l with
  | stmt t a =>
    obtain ⟨-, m, -, rfl⟩ := step_stmt_eq_some.mp h
    exact Function.update_of_ne hu _ _
  | commit t =>
    obtain ⟨db, m, -, rfl⟩ := step_commit_eq_some.mp h
    exact Function.update_of_ne hu _ _
  | rollback t =>
    rw [step_rollback_eq_some.mp h]
    exact Function.update_of_ne hu _ _

/-- A run leaves the sessions alone that take no step in it. -/
theorem exec_session_of_ne {ls : List (Label Act Tx)} (h : exec (step P) s ls = some s') {u : Tx}
    (hu : ∀ l ∈ ls, u ≠ l.tx) : s'.session u = s.session u := by
  induction ls generalizing s with
  | nil => rw [Option.some.inj h]
  | cons l ls ih =>
    obtain ⟨v, hv, hrest⟩ := exec_cons_eq_some.mp h
    rw [ih hrest fun l hl => hu l (List.mem_cons_of_mem _ hl)]
    exact step_session_of_ne hv (hu l List.mem_cons_self)

/-- What a step makes of the session of `u`. -/
theorem step_session_cases {l : Label Act Tx} (h : step P s l = some s') (u : Tx) :
    s'.session u = s.session u ∨
    (∃ a, l = .stmt u a ∧ P.stmt s.committed (s.session u) a = some (s'.session u)) ∨
    (l = .commit u ∧ P.publish s.committed (s.session u) = some (s'.committed, s'.session u)) ∨
    (l = .rollback u ∧ s'.session u = P.abort (s.session u)) := by
  by_cases hu : u = l.tx
  · subst hu
    cases l with
    | stmt t a =>
      obtain ⟨-, m, hm, rfl⟩ := step_stmt_eq_some.mp h
      refine Or.inr (Or.inl ⟨a, rfl, ?_⟩)
      simp only [Label.tx, Function.update_self]
      exact hm
    | commit t =>
      obtain ⟨db, m, hpub, rfl⟩ := step_commit_eq_some.mp h
      refine Or.inr (Or.inr (Or.inl ⟨rfl, ?_⟩))
      simp only [Label.tx, Function.update_self]
      exact hpub
    | rollback t =>
      refine Or.inr (Or.inr (Or.inr ⟨rfl, ?_⟩))
      rw [step_rollback_eq_some.mp h]
      exact Function.update_self t (P.abort (s.session t)) s.session
  · exact Or.inl (step_session_of_ne h hu)

/-- No other transaction holds a lock. -/
def Alone (s : State Db Loc Row Tx) (t : Tx) : Prop :=
  ∀ r, s.holder r = none ∨ s.holder r = some t

/-- A statement of a transaction that is alone does not wait. -/
theorem Alone.stmt {a : Act} {m : Loc} (h : Alone s t)
    (hm : P.stmt s.committed (s.session t) a = some m) :
    ∃ s', step P s (.stmt t a) = some s' ∧ s'.committed = s.committed ∧ s'.session t = m ∧
      Alone s' t := by
  refine ⟨_, step_stmt_eq_some.mpr ⟨fun r _ => h r, m, hm, rfl⟩, rfl,
    Function.update_self t m s.session, fun r => ?_⟩
  simp only [acquire]
  split_ifs
  · exact Or.inr rfl
  · exact h r

theorem step_commit_of_publish {db : Db} {m : Loc}
    (h : P.publish s.committed (s.session t) = some (db, m)) :
    ∃ s', step P s (.commit t) = some s' ∧ s'.committed = db ∧ s'.session t = m :=
  ⟨_, step_commit_eq_some.mpr ⟨db, m, h, rfl⟩, rfl, Function.update_self t m s.session⟩

/-- The statements of a transaction that is alone run as they would without locks. -/
theorem Alone.exec_stmts {as : List Act} {m : Loc} (h : Alone s t)
    (hrun : exec (P.stmt s.committed) (s.session t) as = some m) :
    ∃ s', exec (step P) s (as.map (Label.stmt t)) = some s' ∧ s'.committed = s.committed ∧
      s'.session t = m ∧ Alone s' t := by
  induction as generalizing s with
  | nil => exact ⟨s, rfl, rfl, Option.some.inj hrun, h⟩
  | cons a as ih =>
    obtain ⟨n, hn, hrest⟩ := exec_cons_eq_some.mp hrun
    obtain ⟨u, hu, hdb, hm, halone⟩ := h.stmt hn
    rw [← hdb, ← hm] at hrest
    obtain ⟨s', hs', hdb', hm', halone'⟩ := ih halone hrest
    exact ⟨s', exec_cons_eq_some.mpr ⟨u, hu, hs'⟩, hdb'.trans hdb, hm', halone'⟩

/-- A whole transaction of which nobody else is in the way. -/
theorem Alone.exec_commit {as : List Act} {m m' : Loc} {db : Db} (h : Alone s t)
    (hrun : exec (P.stmt s.committed) (s.session t) as = some m)
    (hpub : P.publish s.committed m = some (db, m')) :
    ∃ s', exec (step P) s (as.map (Label.stmt t)++[.commit t]) = some s' ∧ s'.committed = db ∧
      s'.session t = m' := by
  obtain ⟨u, hu, hdb, hm, -⟩ := h.exec_stmts hrun
  rw [← hdb, ← hm] at hpub
  obtain ⟨s', hs', hdb', hm'⟩ := step_commit_of_publish hpub
  exact ⟨s', exec_concat_eq_some.mpr ⟨u, hu, hs'⟩, hdb', hm'⟩

/-- The rows a transaction holds. -/
def held (s : State Db Loc Row Tx) (t : Tx) : Set Row :=
  {r | s.holder r = some t}

omit [DecidableEq Row] [DecidableEq Tx] in
theorem disjoint_held (s : State Db Loc Row Tx) {t u : Tx} (h : t ≠ u) :
    Disjoint (held s t) (held s u) := by
  rw [Set.disjoint_left]
  intro r ht hu
  exact h (Option.some.inj (ht.symm.trans hu))

omit [DecidableEq Tx] in
theorem acquire_eq_some_iff {holder : Row → Option Tx} {rows : List Row} {r : Row} :
    acquire holder t rows r = some t ↔ holder r = some t ∨ r ∈ rows := by
  unfold acquire
  split_ifs with h <;> simp [h]

omit [DecidableEq Tx] in
/-- Taking locks that are free does not touch what the others hold. -/
theorem acquire_eq_some_of_ne {holder : Row → Option Tx} {rows : List Row} {r : Row} {u : Tx}
    (hfree : ∀ r ∈ rows, holder r = none ∨ holder r = some t) (hu : u ≠ t) :
    acquire holder t rows r = some u ↔ holder r = some u := by
  unfold acquire
  split_ifs with h
  · rcases hfree r h with hr | hr <;> simp [hr, hu.symm]
  · exact Iff.rfl

omit [DecidableEq Row] in
theorem release_ne_some {holder : Row → Option Tx} {r : Row} : release holder t r ≠ some t := by
  unfold release
  split_ifs with h
  · exact nofun
  · exact h

omit [DecidableEq Row] in
theorem release_eq_some_of_ne {holder : Row → Option Tx} {r : Row} {u : Tx} (hu : u ≠ t) :
    release holder t r = some u ↔ holder r = some u := by
  unfold release
  split_ifs with h
  · simp [h, hu.symm]
  · exact Iff.rfl

/-- Proof obligations of a program against a database invariant `J` and a
session assertion `K` about the committed rows, the locks the session holds and
its own state. The assertion must be stable under commits of sessions whose
locks are disjoint from its own. -/
structure Outline (P : Program Db Loc Act Row) (J : Db → Prop)
    (K : Db → Set Row → Loc → Prop) : Prop where
  stmt : ∀ {db rows m a m'}, J db → K db rows m → P.stmt db m a = some m' →
    K db (rows ∪ {r | r ∈ P.locks db m a}) m'
  commit : ∀ {db rows m db' m'}, J db → K db rows m → P.publish db m = some (db', m') →
    J db' ∧ K db' ∅ m'
  abort : ∀ {db rows m}, J db → K db rows m → K db ∅ (P.abort m)
  stable : ∀ {db rows m db' m' rows' n}, J db → K db rows m → P.publish db m = some (db', m') →
    Disjoint rows rows' → K db rows' n → K db' rows' n

/-- The invariant holds of the committed rows and every session meets its assertion. -/
def Holds (J : Db → Prop) (K : Db → Set Row → Loc → Prop) (s : State Db Loc Row Tx) : Prop :=
  J s.committed ∧ ∀ t, K s.committed (held s t) (s.session t)

omit [DecidableEq Row] [DecidableEq Tx] in
theorem holds_start {J : Db → Prop} {K : Db → Set Row → Loc → Prop} {db : Db} {idle : Loc}
    (hJ : J db) (hK : K db ∅ idle) : Holds J K (start db idle : State Db Loc Row Tx) := by
  refine ⟨hJ, fun t => ?_⟩
  have hempty : held (start db idle : State Db Loc Row Tx) t = ∅ := by
    ext r
    simp [held, start]
  exact hempty ▸ hK

omit [DecidableEq Row] in
/-- To re-establish the outline after session `t` moved: its own assertion at
its new locks, and the old assertions of the others, whose locks are as before. -/
theorem holds_update {J : Db → Prop} {K : Db → Set Row → Loc → Prop} {db : Db} {m : Loc}
    {holder : Row → Option Tx} (hJ : J db) (hself : K db {r | holder r = some t} m)
    (hlocks : ∀ u, u ≠ t → ∀ r, holder r = some u ↔ s.holder r = some u)
    (hothers : ∀ u, u ≠ t → K db (held s u) (s.session u)) :
    Holds J K (⟨db, Function.update s.session t m, holder⟩ : State Db Loc Row Tx) := by
  refine ⟨hJ, fun u => ?_⟩
  by_cases hu : u = t
  · subst hu
    show K db {r | holder r = some u} (Function.update s.session u m u)
    rw [Function.update_self]
    exact hself
  · have hheld : held (⟨db, Function.update s.session t m, holder⟩ : State Db Loc Row Tx) u =
        held s u := Set.ext (hlocks u hu)
    rw [hheld]
    simpa only [Function.update_of_ne hu] using hothers u hu

omit [DecidableEq Tx] in
theorem held_acquire {holder : Row → Option Tx} {rows : List Row} :
    {r | acquire holder t rows r = some t} = {r | holder r = some t} ∪ {r | r ∈ rows} :=
  Set.ext fun _ => acquire_eq_some_iff

omit [DecidableEq Row] in
theorem held_release {holder : Row → Option Tx} : {r | release holder t r = some t} = ∅ :=
  Set.ext fun r => iff_of_false release_ne_some (Set.notMem_empty r)

/-- One step keeps the outline: the session that moves by its own obligation,
the others because their locks keep them apart from it. -/
theorem Outline.holds_step {J : Db → Prop} {K : Db → Set Row → Loc → Prop}
    (O : Outline P J K) {l : Label Act Tx} (hs : Holds J K s) (h : step P s l = some s') :
    Holds J K s' := by
  cases l with
  | stmt t a =>
    obtain ⟨hfree, m, hm, rfl⟩ := step_stmt_eq_some.mp h
    refine holds_update hs.1 ?_ (fun u hu r => acquire_eq_some_of_ne hfree hu)
      (fun u _ => hs.2 u)
    rw [held_acquire]
    exact O.stmt hs.1 (hs.2 t) hm
  | commit t =>
    obtain ⟨db, m, hm, rfl⟩ := step_commit_eq_some.mp h
    obtain ⟨hJ, hK⟩ := O.commit hs.1 (hs.2 t) hm
    refine holds_update hJ ?_ (fun u hu r => release_eq_some_of_ne hu) (fun u hu => ?_)
    · rw [held_release]
      exact hK
    · exact O.stable hs.1 (hs.2 t) hm (disjoint_held s (Ne.symm hu)) (hs.2 u)
  | rollback t =>
    rw [step_rollback_eq_some] at h
    subst h
    refine holds_update hs.1 ?_ (fun u hu r => release_eq_some_of_ne hu) (fun u _ => hs.2 u)
    rw [held_release]
    exact O.abort hs.1 (hs.2 t)

/-- The outline holds in every state of every interleaving. -/
theorem Outline.holds_exec {J : Db → Prop} {K : Db → Set Row → Loc → Prop}
    (O : Outline P J K) {ls : List (Label Act Tx)} (hs : Holds J K s)
    (hrun : exec (step P) s ls = some s') : Holds J K s' :=
  exec_invariant (fun _ _ _ hu h => O.holds_step hu h) hs hrun

/-- `C` holds of the committed rows and of the session whenever a session commits. -/
def AtCommit (C : Db → Loc → Prop) (s : State Db Loc Row Tx) : Label Act Tx → Prop
  | .commit t => C s.committed (s.session t)
  | .stmt _ _ => True
  | .rollback _ => True

/-- A property of states that only a commit can break holds throughout a run
exactly when every commit meets the condition under which it keeps it. The
invariant may use that the property has held so far, and that every label of the
run satisfies `L`. -/
theorem throughout_atCommit_iff_of_labels {I Q : State Db Loc Row Tx → Prop}
    {C : Db → Loc → Prop} {L : Label Act Tx → Prop}
    (hinv : ∀ s l s', I s → Q s → L l → step P s l = some s' → Q s' → I s')
    (hquiet : ∀ s l s', I s → Q s → L l → step P s l = some s' → (∀ t, l ≠ .commit t) → Q s')
    (hcommit : ∀ s t s', I s → Q s → step P s (.commit t) = some s' →
      (Q s' ↔ C s.committed (s.session t)))
    (hs : I s) {ls : List (Label Act Tx)} (hlabels : ∀ l ∈ ls, L l) :
    Throughout (step P) Q s ls ↔ Q s ∧ Along (step P) (fun s l _ => AtCommit C s l) s ls := by
  refine and_congr_right fun hstart => ?_
  refine along_congr_of_labels (I := fun s => I s ∧ Q s) ?_ ?_ ⟨hs, hstart⟩ hlabels
  · exact fun u l v hu hl hstep hq => ⟨hinv u l v hu.1 hu.2 hl hstep hq, hq⟩
  rintro u l v ⟨hu, hq⟩ hl hstep
  cases l with
  | commit t => exact hcommit u t v hu hq hstep
  | stmt t a => exact iff_of_true (hquiet u _ v hu hq hl hstep nofun) trivial
  | rollback t => exact iff_of_true (hquiet u _ v hu hq hl hstep nofun) trivial

theorem throughout_atCommit_iff {I Q : State Db Loc Row Tx → Prop} {C : Db → Loc → Prop}
    (hinv : ∀ s l s', I s → Q s → step P s l = some s' → Q s' → I s')
    (hquiet : ∀ s l s', I s → Q s → step P s l = some s' → (∀ t, l ≠ .commit t) → Q s')
    (hcommit : ∀ s t s', I s → Q s → step P s (.commit t) = some s' →
      (Q s' ↔ C s.committed (s.session t)))
    (hs : I s) (ls : List (Label Act Tx)) :
    Throughout (step P) Q s ls ↔ Q s ∧ Along (step P) (fun s l _ => AtCommit C s l) s ls :=
  throughout_atCommit_iff_of_labels (L := fun _ => True)
    (fun s l s' h hq _ => hinv s l s' h hq) (fun s l s' h hq _ => hquiet s l s' h hq) hcommit hs
    (fun _ _ => trivial)

/-- The same for a relation between the committed rows before and after a step.
The invariant may use that the relation has held so far. -/
theorem along_atCommit_iff {I : State Db Loc Row Tx → Prop} {R : Db → Db → Prop}
    {C : Db → Loc → Prop}
    (hinv : ∀ s l s', I s → step P s l = some s' → R s.committed s'.committed → I s')
    (hrefl : ∀ s, I s → R s.committed s.committed)
    (hcommit : ∀ s t s', I s → step P s (.commit t) = some s' →
      (R s.committed s'.committed ↔ C s.committed (s.session t)))
    (hs : I s) (ls : List (Label Act Tx)) :
    Along (step P) (fun s _ s' => R s.committed s'.committed) s ls ↔
      Along (step P) (fun s l _ => AtCommit C s l) s ls := by
  refine along_congr (fun u l v hu hstep hR => hinv u l v hu hstep hR) ?_ hs
  intro u l v hu hstep
  cases l with
  | commit t => exact hcommit u t v hu hstep
  | stmt t a =>
    rw [step_committed_eq hstep nofun]
    exact iff_of_true (hrefl u hu) trivial
  | rollback t =>
    rw [step_committed_eq hstep nofun]
    exact iff_of_true (hrefl u hu) trivial

end LegalForge.ReadCommitted
