import LegalForge.ReadCommitted
import LegalForge.TaskAcyclicity

/-! `add_dependency` as the statements that concurrent requests interleave. The search reads
the edges of one task in each statement, and locks nothing. -/
namespace LegalForge.Tasks
open Transition ReadCommitted GraphSearch Acyclicity Relation

/-- Where one request stands. -/
inductive Adder where
  | idle
  /-- The task is found. -/
  | started (dep : TaskDependency)
  /-- In the loop of `_has_circular_dependency` -/
  | searching (dep : TaskDependency) (visited queue : List Uuid)
  /-- The search has found no way back. -/
  | searched (dep : TaskDependency)
  /-- There is no such dependency yet. -/
  | absent (dep : TaskDependency)
  | inserted (dep : TaskDependency)
  | failed (error : HttpError)

inductive AdderStatement where
  /-- The first `get_task` of a request for this row -/
  | getTask (dep : TaskDependency)
  | getDependsOn
  /-- One round of the loop, with its query for the edges of `current` -/
  | visit
  | findExisting
  /-- `db.add(dep)` and `db.flush()` -/
  | insert

/-- What an inserted row locks: its primary key, and the key of `uq_task_dependency`. -/
inductive DependencyKey where
  | id (dependencyId : Uuid)
  | edge (taskId dependsOnId : Uuid)
  deriving DecidableEq

/-- One round of the search for a way back to the task of `dep`. -/
def visitNext (db : TaskDb) (dep : TaskDependency) (visited : List Uuid) : List Uuid → Adder
  | [] => .searched dep
  | current :: queue =>
    if current ∈ visited then .searching dep visited queue
    else if dep.taskId ∈ successors (edges db) current then .failed circularReference
    else .searching dep (current :: visited) (queue++successors (edges db) current)

def adderProgram : Program TaskDb Adder AdderStatement DependencyKey where
  locks _ m a :=
    match m, a with
    | .absent dep, .insert => [.id dep.id, .edge dep.taskId dep.dependsOnId]
    | _, _ => []
  stmt db m a :=
    match m, a with
    | .idle, .getTask dep =>
      match getTask db dep.taskId with
      | none => some (.failed taskNotFound)
      | some _ => some (.started dep)
    | .started dep, .getDependsOn =>
      match getTask db dep.dependsOnId with
      | none => some (.failed dependencyTaskNotFound)
      | some _ =>
        if dep.taskId = dep.dependsOnId then some (.failed circularReference)
        else some (.searching dep [] [dep.dependsOnId])
    | .searching dep visited queue, .visit => some (visitNext db dep visited queue)
    | .searched dep, .findExisting =>
      match Table.find TaskDependency.edge dep.edge db.dependencies with
      | some _ => some (.failed dependencyExists)
      | none => some (.absent dep)
    | .absent dep, .insert =>
      match insertDependency db dep with
      | none => some (.failed .internal)
      | some _ => some (.inserted dep)
    | _, _ => none
  publish db m :=
    match m with
    | .inserted dep => some ({ db with dependencies := db.dependencies++[dep] }, .idle)
    | _ => none
  abort _ := .idle

abbrev AdderState (Tx : Type*) := State TaskDb Adder DependencyKey Tx
abbrev AdderLabel (Tx : Type*) := Label AdderStatement Tx

theorem publish_inserted {db db' : TaskDb} {m m' : Adder}
    (h : adderProgram.publish db m = some (db', m')) : ∃ dep, m = .inserted dep ∧
      db' = { db with dependencies := db.dependencies++[dep] } ∧ m' = .idle := by
  cases m with
  | inserted dep =>
    obtain ⟨rfl, rfl⟩ := Prod.mk.inj (Option.some.inj h)
    exact ⟨dep, rfl, rfl, rfl⟩
  | _ => cases h

/-- The row of the request closes no cycle in the committed graph. -/
def NoWayBack (db : TaskDb) (m : Adder) : Prop :=
  ∀ dep, m = .inserted dep → hasCircularDependency db dep.taskId dep.dependsOnId = false

section
variable {Tx : Type*} [DecidableEq Tx] {s s' : AdderState Tx}

theorem acyclicTasks_commit_iff {t : Tx} (hacyclic : AcyclicTasks s.committed)
    (h : step adderProgram s (.commit t) = some s') :
    AcyclicTasks s'.committed ↔ NoWayBack s.committed (s.session t) := by
  obtain ⟨db, m, hpub, rfl⟩ := step_commit_eq_some.mp h
  obtain ⟨dep, hdep, rfl, rfl⟩ := publish_inserted hpub
  rw [acyclicTasks_append_iff hacyclic]
  constructor
  · intro h dep' hdep'
    rw [hdep] at hdep'
    obtain rfl := Adder.inserted.inj hdep'
    exact h
  · exact fun h => h dep hdep

/-- Rows are only added. -/
theorem edges_subset_step {l : AdderLabel Tx} (h : step adderProgram s l = some s') :
    edges s.committed ⊆ edges s'.committed := by
  by_cases hl : ∃ t, l = .commit t
  · obtain ⟨t, rfl⟩ := hl
    obtain ⟨db, m, hpub, rfl⟩ := step_commit_eq_some.mp h
    obtain ⟨dep, -, rfl, -⟩ := publish_inserted hpub
    exact List.map_subset _ (List.subset_append_left _ _)
  · rw [step_committed_eq h fun t ht => hl ⟨t, ht⟩]
    exact List.Subset.refl _

theorem edges_subset_exec {ls : List (AdderLabel Tx)} (h : exec (step adderProgram) s ls = some s') :
    edges s.committed ⊆ edges s'.committed :=
  exec_invariant (I := fun u => edges s.committed ⊆ edges u.committed)
    (fun _ _ _ hu hstep => List.Subset.trans hu (edges_subset_step hstep)) (List.Subset.refl _) h

theorem acyclicTasks_throughout_atCommit_iff (db : TaskDb) (ls : List (AdderLabel Tx)) :
    Throughout (step adderProgram) (fun s => AcyclicTasks s.committed) (start db .idle) ls ↔
      AcyclicTasks db ∧
        Along (step adderProgram) (fun s l _ => AtCommit NoWayBack s l) (start db .idle) ls := by
  refine throughout_atCommit_iff (I := fun _ => True) (fun _ _ _ _ _ _ _ => trivial) ?_ ?_ trivial ls
  · intro s l s' _ hacyclic hstep hl
    rw [step_committed_eq hstep hl]
    exact hacyclic
  · intro s t s' _ hacyclic hstep
    exact acyclicTasks_commit_iff hacyclic hstep

/-- After any interleaving of requests on an acyclic graph, the graph is acyclic exactly when no
request commits a dependency whose way back has been committed since its search. -/
theorem acyclicTasks_after_iff {db : TaskDb} (hacyclic : AcyclicTasks db)
    {ls : List (AdderLabel Tx)} {t : AdderState Tx}
    (hrun : exec (step adderProgram) (start db .idle) ls = some t) :
    AcyclicTasks t.committed ↔
      Along (step adderProgram) (fun s l _ => AtCommit NoWayBack s l) (start db .idle) ls := by
  rw [← and_iff_right hacyclic (b := Along _ _ _ ls), ← acyclicTasks_throughout_atCommit_iff]
  constructor
  · intro hfinal
    -- a cycle would stay until the end
    refine throughout_iff_prefix.mpr fun bs cs u hsplit hu => ?_
    rw [hsplit] at hrun
    obtain ⟨v, hv, hrest⟩ := exec_append_eq_some.mp hrun
    obtain rfl := Option.some.inj (hu.symm.trans hv)
    exact hfinal.of_subset (edges_subset_exec hrest)
  · exact fun h => h.final hrun

/-- Two tasks that do not depend on each other. -/
def twoTasks : TaskDb where
  users := [1]
  matters := []
  tasks :=
    [{ id := 1, title := "Draft", description := none, matterId := none, createdBy := 1, dueDate := none },
      { id := 2, title := "File", description := none, matterId := none, createdBy := 1, dueDate := none }]
  dependencies := []
  checklists := []
  templates := []
  steps := []

theorem twoTasks_acyclic : AcyclicTasks twoTasks := by
  intro x hx
  obtain ⟨y, hy, -⟩ := TransGen.head'_iff.mp hx
  exact List.not_mem_nil hy

/-- The statements of one request, up to its commit. -/
def insertBetween (t : Bool) (dep : TaskDependency) : List (AdderLabel Bool) :=
  [.stmt t (.getTask dep), .stmt t .getDependsOn, .stmt t .visit, .stmt t .visit, .stmt t .findExisting,
    .stmt t .insert]

/-- One request for each direction. Both search before one of them commits. -/
def crossingRequests : List (AdderLabel Bool) :=
  insertBetween true ⟨3, 1, 2⟩++insertBetween false ⟨4, 2, 1⟩++[.commit true, .commit false]

theorem acyclicTasks_after_iff_crossing : ∃ t, exec (step adderProgram) (start twoTasks .idle)
    crossingRequests = some t ∧ (AcyclicTasks t.committed ↔ Along (step adderProgram)
      (fun s l _ => AtCommit NoWayBack s l) (start twoTasks .idle) crossingRequests) :=
  ⟨_, rfl, acyclicTasks_after_iff twoTasks_acyclic rfl⟩

/-- Both requests commit, and the tasks depend on each other. -/
theorem not_acyclicTasks_crossing : AcyclicTasks twoTasks ∧ ∃ t, exec (step adderProgram)
    (start twoTasks .idle) crossingRequests = some t ∧ (∀ u, t.session u = .idle) ∧
    ¬AcyclicTasks t.committed := by
  refine ⟨twoTasks_acyclic, _, rfl, ?_, ?_⟩
  · intro u
    cases u <;> rfl
  · intro h
    refine h 1 (.tail (b := 2) (.single ?_) ?_)
    · rw [Edge]
      decide +kernel
    · rw [Edge]
      decide +kernel

/-! A request that nobody disturbs commits only what its search allows. -/

/-- The rounds that are left find what the whole search on the committed graph finds. -/
def SearchedIn (db : TaskDb) : Adder → Prop
  | .searching dep visited queue =>
    dep.taskId ≠ dep.dependsOnId ∧ searchFrom (edges db) dep.taskId visited queue =
      searchFrom (edges db) dep.taskId [] [dep.dependsOnId]
  | .searched dep => hasCircularDependency db dep.taskId dep.dependsOnId = false
  | .absent dep => hasCircularDependency db dep.taskId dep.dependsOnId = false
  | .inserted dep => hasCircularDependency db dep.taskId dep.dependsOnId = false
  | _ => True

theorem SearchedIn.visit {db : TaskDb} {dep : TaskDependency} {visited queue : List Uuid}
    (h : SearchedIn db (.searching dep visited queue)) :
    SearchedIn db (visitNext db dep visited queue) := by
  obtain ⟨hne, hsame⟩ := h
  cases queue with
  | nil =>
    rw [searchFrom] at hsame
    rw [visitNext, SearchedIn, hasCircularDependency, if_neg hne]
    exact hsame.symm
  | cons current queue =>
    rw [searchFrom] at hsame
    rw [visitNext]
    split_ifs at hsame ⊢
    · exact ⟨hne, hsame⟩
    · trivial
    · exact ⟨hne, hsame⟩

theorem SearchedIn.stmt {db : TaskDb} {m m' : Adder} {a : AdderStatement} (h : SearchedIn db m)
    (hstmt : adderProgram.stmt db m a = some m') : SearchedIn db m' := by
  -- a round keeps what the search will find, and the last one finds it
  cases m with
  | idle =>
    cases a with
    | getTask dep =>
      simp only [adderProgram] at hstmt
      split at hstmt <;> obtain rfl := Option.some.inj hstmt <;> trivial
    | _ => cases hstmt
  | started dep =>
    cases a with
    | getDependsOn =>
      simp only [adderProgram] at hstmt
      split at hstmt
      · obtain rfl := Option.some.inj hstmt
        trivial
      · split_ifs at hstmt with hself
        · obtain rfl := Option.some.inj hstmt
          trivial
        · obtain rfl := Option.some.inj hstmt
          exact ⟨hself, rfl⟩
    | _ => cases hstmt
  | searching dep visited queue =>
    cases a with
    | visit =>
      obtain rfl := Option.some.inj hstmt
      exact h.visit
    | _ => cases hstmt
  | searched dep =>
    cases a with
    | findExisting =>
      simp only [adderProgram] at hstmt
      split at hstmt
      · obtain rfl := Option.some.inj hstmt
        trivial
      · obtain rfl := Option.some.inj hstmt
        exact h
    | _ => cases hstmt
  | absent dep =>
    cases a with
    | insert =>
      simp only [adderProgram] at hstmt
      split at hstmt
      · obtain rfl := Option.some.inj hstmt
        trivial
      · obtain rfl := Option.some.inj hstmt
        exact h
    | _ => cases hstmt
  | inserted dep => cases a <;> cases hstmt
  | failed error => cases a <;> cases hstmt

theorem SearchedIn.noWayBack {db : TaskDb} {m : Adder} (h : SearchedIn db m) : NoWayBack db m := by
  rintro dep rfl
  exact h

/-- The request has not begun its search, or has failed. -/
def Adder.Quiet : Adder → Prop
  | .idle => True
  | .started _ => True
  | .failed _ => True
  | _ => False

theorem SearchedIn.of_quiet {db : TaskDb} {m : Adder} (h : m.Quiet) : SearchedIn db m := by
  cases m with
  | idle => trivial
  | started dep => trivial
  | failed error => trivial
  | _ => exact h.elim

/-- No request commits while another one is between its search and its end. -/
def Undisturbed (s : AdderState Tx) : AdderLabel Tx → Prop
  | .commit t => ∀ u, u ≠ t → (s.session u).Quiet
  | .stmt _ _ => True
  | .rollback _ => True

theorem searchedIn_step {l : AdderLabel Tx} (h : ∀ u, SearchedIn s.committed (s.session u))
    (hstep : step adderProgram s l = some s') (hl : Undisturbed s l) (u : Tx) :
    SearchedIn s'.committed (s'.session u) := by
  cases l with
  | stmt t a =>
    obtain ⟨-, m, hm, rfl⟩ := step_stmt_eq_some.mp hstep
    by_cases hu : u = t
    · subst hu
      simpa only [Function.update_self] using (h u).stmt hm
    · simpa only [Function.update_of_ne hu] using h u
  | commit t =>
    obtain ⟨db, m, hpub, rfl⟩ := step_commit_eq_some.mp hstep
    by_cases hu : u = t
    · subst hu
      obtain ⟨dep, -, -, rfl⟩ := publish_inserted hpub
      simp only [Function.update_self]
      trivial
    · -- the search of another request has not begun
      simpa only [Function.update_of_ne hu] using SearchedIn.of_quiet (hl u hu)
  | rollback t =>
    rw [step_rollback_eq_some.mp hstep]
    by_cases hu : u = t
    · subst hu
      simp only [Function.update_self]
      trivial
    · simpa only [Function.update_of_ne hu] using h u

theorem acyclicTasks_of_undisturbed {db : TaskDb} (hacyclic : AcyclicTasks db)
    {ls : List (AdderLabel Tx)} {t : AdderState Tx}
    (hrun : exec (step adderProgram) (start db .idle) ls = some t)
    (h : Along (step adderProgram) (fun s l _ => Undisturbed s l) (start db .idle) ls) :
    AcyclicTasks t.committed := by
  have hstart : ∀ u : Tx, SearchedIn db ((start db .idle : AdderState Tx).session u) :=
    fun _ => trivial
  refine (h.exec_invariant (I := fun s => AcyclicTasks s.committed ∧
    ∀ u, SearchedIn s.committed (s.session u)) ?_ ⟨hacyclic, hstart⟩ hrun).1
  rintro s l s' ⟨hs, hsearched⟩ hstep hl
  refine ⟨?_, searchedIn_step hsearched hstep hl⟩
  by_cases hcommit : ∃ t, l = .commit t
  · obtain ⟨t, rfl⟩ := hcommit
    exact (acyclicTasks_commit_iff hs hstep).mpr (hsearched t).noWayBack
  · rw [step_committed_eq hstep fun t ht => hcommit ⟨t, ht⟩]
    exact hs

/-- The rounds of the loop do what the search does at once. -/
theorem exec_visits (db : TaskDb) (dep : TaskDependency) (visited queue : List Uuid) :
    ∃ n, exec (adderProgram.stmt db) (.searching dep visited queue) (List.replicate n .visit) =
      some (if searchFrom (edges db) dep.taskId visited queue then .failed circularReference
        else .searched dep) := by
  fun_induction searchFrom (edges db) dep.taskId visited queue with
  | case1 visited => exact ⟨1, rfl⟩
  | case2 visited current queue hvisited ih =>
    obtain ⟨n, hn⟩ := ih
    refine ⟨n+1, exec_cons_eq_some.mpr ⟨_, ?_, hn⟩⟩
    simp only [adderProgram, visitNext, if_pos hvisited]
  | case3 visited current queue hvisited hfound =>
    refine ⟨1, exec_cons_eq_some.mpr ⟨_, ?_, rfl⟩⟩
    simp only [adderProgram, visitNext, if_neg hvisited, if_pos hfound, if_true]
  | case4 visited current queue hvisited hmissed ih =>
    obtain ⟨n, hn⟩ := ih
    refine ⟨n+1, exec_cons_eq_some.mpr ⟨_, ?_, hn⟩⟩
    simp only [adderProgram, visitNext, if_neg hvisited, if_neg hmissed]

/-- The statements of a request that is alone do what `add_dependency` does. -/
theorem exec_addDependency {t : Tx} {dep : TaskDependency} {db' : TaskDb} (halone : Alone s t)
    (hidle : s.session t = .idle) (hadd : addDependency s.committed dep = .ok db') :
    ∃ (as : List AdderStatement) (s' : AdderState Tx), exec (step adderProgram) s (as.map (Label.stmt t)++[.commit t]) = some s' ∧
      s'.committed = db' ∧ s'.session t = .idle := by
  obtain ⟨⟨task, htask⟩, ⟨task', htask'⟩, hcircular, hfind, hinsert⟩ := addDependency_eq_ok hadd
  have hne : dep.taskId ≠ dep.dependsOnId := by
    intro hself
    rw [hasCircularDependency, if_pos hself] at hcircular
    cases hcircular
  rw [hasCircularDependency, if_neg hne] at hcircular
  obtain ⟨n, hvisits⟩ := exec_visits s.committed dep [] [dep.dependsOnId]
  rw [hcircular, if_neg Bool.false_ne_true] at hvisits
  have hbefore : exec (adderProgram.stmt s.committed) .idle [.getTask dep, .getDependsOn] =
      some (.searching dep [] [dep.dependsOnId]) := by
    simp [exec, adderProgram, htask, htask', hne]
  have hafter : exec (adderProgram.stmt s.committed) (.searched dep) [.findExisting, .insert] =
      some (.inserted dep) := by
    simp [exec, adderProgram, hfind, hinsert]
  have hrun : exec (adderProgram.stmt s.committed) (s.session t)
      ([.getTask dep, .getDependsOn]++(List.replicate n .visit++[.findExisting, .insert])) =
      some (.inserted dep) := by
    rw [hidle]
    exact exec_append_eq_some.mpr ⟨_, hbefore, exec_append_eq_some.mpr ⟨_, hvisits, hafter⟩⟩
  obtain ⟨-, -, rfl⟩ := insertDependency_eq_some hinsert
  obtain ⟨s', hs', hdb, hm⟩ := halone.exec_commit (P := adderProgram) hrun rfl
  exact ⟨_, s', hs', hdb, hm⟩

end

end LegalForge.Tasks
