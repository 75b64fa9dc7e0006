import LegalForge.AcyclicRelation
import LegalForge.Tasks

/-! The graph of task dependencies, and which calls can close a cycle in it. -/
namespace LegalForge.Tasks
open UnitOfWork Transition GraphSearch Acyclicity Relation

def AcyclicTasks (db : TaskDb) : Prop :=
  Acyclic (Edge (edges db))

/-- Dependencies join tasks that exist. -/
def EdgesKnown (db : TaskDb) : Prop :=
  ∀ e ∈ edges db, e.1 ∈ db.tasks.map Task.id ∧ e.2 ∈ db.tasks.map Task.id

/-- A step of the first sort order depends on the second, which some step has. -/
def StepEdge (steps : List WorkflowTemplateStep) (a b : ℤ) : Prop :=
  ∃ step ∈ steps, step.sortOrder = a ∧ step.dependsOnStepOrder = some b ∧
    b ∈ steps.map WorkflowTemplateStep.sortOrder

def StepsAcyclic (steps : List WorkflowTemplateStep) : Prop :=
  Acyclic (StepEdge steps)

/-- A template whose rows can be flushed has no cycle among its sort orders. -/
def AppliesAcyclic (db : TaskDb) : TaskCall → Prop
  | .applyWorkflowTemplate templateId matterId createdBy draws =>
    ∀ tasks, templateId ∈ db.templates.map WorkflowTemplate.id →
      stepTasks (templateSteps db templateId) matterId createdBy draws = some tasks →
      insertApplied db tasks (stepDependencies (templateSteps db templateId) tasks draws) ≠ none →
      StepsAcyclic (templateSteps db templateId)
  | _ => True

section
variable {db db' : TaskDb}

/-- The search of the code finds every way back. -/
theorem hasCircularDependency_iff {taskId dependsOnId : Uuid} :
    hasCircularDependency db taskId dependsOnId = true ↔
      ReflTransGen (Edge (edges db)) dependsOnId taskId := by
  unfold hasCircularDependency
  split_ifs with hsame
  · rw [hsame]
    exact iff_of_true rfl .refl
  · rw [searchFrom_singleton_iff, reflTransGen_iff_eq_or_transGen]
    exact (or_iff_right hsame).symm

theorem insertDependency_eq_some {dep : TaskDependency} (h : insertDependency db dep = some db') :
    dep.taskId ∈ db.tasks.map Task.id ∧ dep.dependsOnId ∈ db.tasks.map Task.id ∧
      db' = { db with dependencies := db.dependencies++[dep] } := by
  unfold insertDependency at h
  split_ifs at h with htasks
  obtain ⟨rows, hinsert, h⟩ := Option.bind_eq_some_iff.mp h
  obtain ⟨-, -, h⟩ := Option.bind_eq_some_iff.mp h
  obtain ⟨-, rfl⟩ := Table.insert_eq_some_iff.mp hinsert
  exact ⟨Table.exists_find_iff.mp (Option.isSome_iff_exists.mp htasks.1),
    Table.exists_find_iff.mp (Option.isSome_iff_exists.mp htasks.2), (Option.some.inj h).symm⟩

theorem addDependency_eq_ok {dep : TaskDependency} (h : addDependency db dep = .ok db') :
    (∃ task, getTask db dep.taskId = some task) ∧ (∃ task, getTask db dep.dependsOnId = some task) ∧
      hasCircularDependency db dep.taskId dep.dependsOnId = false ∧
      Table.find TaskDependency.edge dep.edge db.dependencies = none ∧
      insertDependency db dep = some db' := by
  unfold addDependency at h
  split at h
  · cases h
  · rename_i task htask
    split at h
    · cases h
    · rename_i task' htask'
      split_ifs at h with hcircular
      split at h
      · cases h
      · rename_i hfind
        split at h
        · cases h
        · rename_i db₁ hinsert
          obtain rfl := Except.ok.inj h
          exact ⟨⟨task, htask⟩, ⟨task', htask'⟩, Bool.not_eq_true _ ▸ hcircular, hfind, hinsert⟩

/-- A new row closes a cycle exactly when the search finds a way back. -/
theorem acyclicTasks_append_iff {dep : TaskDependency} (hacyclic : AcyclicTasks db) :
    AcyclicTasks { db with dependencies := db.dependencies++[dep] } ↔
      hasCircularDependency db dep.taskId dep.dependsOnId = false := by
  have hedge : ∀ x y, Edge (edges { db with dependencies := db.dependencies++[dep] }) x y ↔
      withEdge (Edge (edges db)) dep.taskId dep.dependsOnId x y := by
    intro x y
    unfold Edge edges withEdge
    rw [List.map_append, List.mem_append, List.map_singleton, List.mem_singleton,
      TaskDependency.edge, Prod.mk.injEq]
  rw [AcyclicTasks, acyclic_congr hedge, acyclic_withEdge_iff hacyclic, ← hasCircularDependency_iff,
    Bool.not_eq_true]

theorem EdgesKnown.insertDependency {dep : TaskDependency} (hknown : EdgesKnown db)
    (h : insertDependency db dep = some db') : EdgesKnown db' := by
  obtain ⟨htask, hdepends, rfl⟩ := insertDependency_eq_some h
  intro e he
  rw [edges, List.map_append] at he
  rcases List.mem_append.mp he with he | he
  · exact hknown e he
  · rw [List.mem_singleton.mp he]
    exact ⟨htask, hdepends⟩

/-- The guard keeps the graph acyclic. -/
theorem AcyclicTasks.addDependency {dep : TaskDependency} (hacyclic : AcyclicTasks db)
    (h : addDependency db dep = .ok db') : AcyclicTasks db' := by
  obtain ⟨-, -, hcircular, -, hinsert⟩ := addDependency_eq_ok h
  obtain ⟨-, -, rfl⟩ := insertDependency_eq_some hinsert
  exact (acyclicTasks_append_iff hacyclic).mpr hcircular

/-- Rows that are left are not new. -/
theorem AcyclicTasks.of_subset (hacyclic : AcyclicTasks db) (h : edges db' ⊆ edges db) :
    AcyclicTasks db' :=
  hacyclic.mono fun _ _ he => h he

theorem edges_deleteTask_subset (taskId : Uuid) : edges (deleteTask db taskId) ⊆ edges db :=
  List.map_subset _ (List.filter_subset_self _)

theorem EdgesKnown.deleteTask (hknown : EdgesKnown db) (taskId : Uuid) :
    EdgesKnown (deleteTask db taskId) := by
  intro e he
  obtain ⟨d, hd, rfl⟩ := List.mem_map.mp he
  obtain ⟨hmem, hne⟩ := List.mem_filter.mp hd
  obtain ⟨htask, hdepends⟩ := of_decide_eq_true hne
  obtain ⟨hold, hold'⟩ := hknown d.edge (List.mem_map_of_mem hmem)
  exact ⟨Table.mem_map_remove hold htask, Table.mem_map_remove hold' hdepends⟩

theorem removeDependency_eq_ok {dependencyId : Uuid} (h : removeDependency db dependencyId = .ok db') :
    db'.tasks = db.tasks ∧ edges db' ⊆ edges db := by
  unfold removeDependency at h
  split at h
  · cases h
  · obtain rfl := Except.ok.inj h
    exact ⟨rfl, List.map_subset _ (List.filter_subset_self _)⟩

theorem insertTask_eq_some {task : Task} (h : insertTask db task = some db') :
    task.id ∉ db.tasks.map Task.id ∧ db' = { db with tasks := db.tasks++[task] } := by
  unfold insertTask at h
  split_ifs at h
  obtain ⟨rows, hinsert, h⟩ := Option.bind_eq_some_iff.mp h
  obtain ⟨hfresh, rfl⟩ := Table.insert_eq_some_iff.mp hinsert
  refine ⟨fun hmem => ?_, (Option.some.inj h).symm⟩
  obtain ⟨old, hold, hid⟩ := List.mem_map.mp hmem
  exact hfresh old hold hid

/-- New checklist items touch nothing else. -/
theorem insertChecklists_eq_some {items : List TaskChecklist}
    (h : items.foldlM insertChecklist db = some db') : ∃ rows, db' = { db with checklists := rows } := by
  have hrun : exec insertChecklist db items = some db' := h
  refine exec_invariant (I := fun s : TaskDb => ∃ rows, s = { db with checklists := rows }) ?_
    ⟨db.checklists, rfl⟩ hrun
  rintro s item t ⟨rows, rfl⟩ hitem
  obtain ⟨rows', -, ht⟩ := Option.bind_eq_some_iff.mp hitem
  exact ⟨rows', (Option.some.inj ht).symm⟩

theorem insertSteps_eq_some {steps : List WorkflowTemplateStep}
    (h : steps.foldlM insertStep db = some db') : ∃ rows, db' = { db with steps := rows } := by
  have hrun : exec insertStep db steps = some db' := h
  refine exec_invariant (I := fun s : TaskDb => ∃ rows, s = { db with steps := rows }) ?_ ⟨db.steps, rfl⟩
    hrun
  rintro s step t ⟨rows, rfl⟩ hstep
  obtain ⟨rows', -, ht⟩ := Option.bind_eq_some_iff.mp hstep
  exact ⟨rows', (Option.some.inj ht).symm⟩

theorem createTask_eq_some {data : TaskCreate} {taskId createdBy : Uuid} {itemIds : ℕ → Uuid}
    {task : Task} (h : createTask db data taskId createdBy itemIds = some (task, db')) :
    edges db' = edges db ∧ ∀ id ∈ db.tasks.map Task.id, id ∈ db'.tasks.map Task.id := by
  obtain ⟨task', -, h⟩ := Option.bind_eq_some_iff.mp h
  obtain ⟨db₁, hinsert, h⟩ := Option.bind_eq_some_iff.mp h
  obtain ⟨items, -, h⟩ := Option.bind_eq_some_iff.mp h
  obtain ⟨db₂, hitems, h⟩ := Option.bind_eq_some_iff.mp h
  obtain ⟨-, rfl⟩ := Prod.mk.inj (Option.some.inj h)
  obtain ⟨-, rfl⟩ := insertTask_eq_some hinsert
  obtain ⟨rows, rfl⟩ := insertChecklists_eq_some hitems
  refine ⟨rfl, fun id hid => ?_⟩
  rw [List.map_append]
  exact List.mem_append_left _ hid

theorem createWorkflowTemplate_eq_some {data : WorkflowTemplateCreate} {templateId createdBy : Uuid}
    {stepIds : ℕ → Uuid} {template : WorkflowTemplate}
    (h : createWorkflowTemplate db data templateId createdBy stepIds = some (template, db')) :
    edges db' = edges db ∧ db'.tasks = db.tasks := by
  obtain ⟨template', -, h⟩ := Option.bind_eq_some_iff.mp h
  obtain ⟨templates, -, h⟩ := Option.bind_eq_some_iff.mp h
  obtain ⟨steps, -, h⟩ := Option.bind_eq_some_iff.mp h
  split_ifs at h
  obtain ⟨db₁, hsteps, h⟩ := Option.bind_eq_some_iff.mp h
  obtain ⟨-, rfl⟩ := Prod.mk.inj (Option.some.inj h)
  obtain ⟨rows, rfl⟩ := insertSteps_eq_some hsteps
  exact ⟨rfl, rfl⟩

/-! Applying a template. -/

theorem insertTasks_eq_some {tasks : List Task} (h : tasks.foldlM insertTask db = some db') :
    db' = { db with tasks := db.tasks++tasks } ∧ (tasks.map Task.id).Nodup ∧
      ∀ task ∈ tasks, task.id ∉ db.tasks.map Task.id := by
  induction tasks generalizing db with
  | nil =>
    obtain rfl := Option.some.inj h
    exact ⟨by rw [List.append_nil], List.nodup_nil, fun _ hmem => absurd hmem List.not_mem_nil⟩
  | cons task tasks ih =>
    obtain ⟨db₁, hinsert, hrest⟩ := exec_cons_eq_some.mp h
    obtain ⟨hfresh, rfl⟩ := insertTask_eq_some hinsert
    obtain ⟨rfl, hnodup, hothers⟩ := ih hrest
    rw [List.map_append] at hothers
    refine ⟨by rw [List.append_assoc]; rfl, List.nodup_cons.mpr ⟨fun hmem => ?_, hnodup⟩, ?_⟩
    · obtain ⟨task', htask', hid⟩ := List.mem_map.mp hmem
      exact hothers task' htask' (List.mem_append_right _ (List.mem_singleton.mpr hid))
    · intro task' htask'
      rcases List.mem_cons.mp htask' with rfl | htask'
      · exact hfresh
      · exact fun hmem => hothers task' htask' (List.mem_append_left _ hmem)

theorem insertDependencies_eq_some {deps : List TaskDependency} (hknown : EdgesKnown db)
    (h : deps.foldlM insertDependency db = some db') :
    edges db' = edges db++deps.map TaskDependency.edge ∧ EdgesKnown db' := by
  induction deps generalizing db with
  | nil =>
    obtain rfl := Option.some.inj h
    exact ⟨by rw [List.map_nil, List.append_nil], hknown⟩
  | cons dep deps ih =>
    obtain ⟨db₁, hinsert, hrest⟩ := exec_cons_eq_some.mp h
    obtain ⟨hedges, hknown'⟩ := ih (hknown.insertDependency hinsert) hrest
    obtain ⟨-, -, rfl⟩ := insertDependency_eq_some hinsert
    refine ⟨?_, hknown'⟩
    rw [hedges, edges, List.map_append, List.append_assoc]
    rfl

end

section
variable {steps : List WorkflowTemplateStep} {matterId createdBy : Uuid} {draws : ApplyDraws}
  {tasks : List Task}

theorem mapM_id_eq_some {α : Type} {rows : List (Option α)} {results : List α}
    (h : rows.mapM id = some results) : rows = results.map some := by
  induction rows generalizing results with
  | nil =>
    obtain rfl := Option.some.inj h
    rfl
  | cons row rows ih =>
    rw [List.mapM_cons] at h
    obtain ⟨x, hx, h⟩ := Option.bind_eq_some_iff.mp h
    obtain ⟨xs, hxs, h⟩ := Option.bind_eq_some_iff.mp h
    obtain rfl := Option.some.inj h
    rw [List.map_cons, ← ih hxs, ← hx]
    rfl

theorem stepTask_sortOrder {today : Day} {taskId : Uuid} {step : WorkflowTemplateStep} {task : Task}
    (h : stepTask matterId createdBy today taskId step = some task) :
    task.sortOrder = step.sortOrder := by
  obtain ⟨dueDate, -, h⟩ := Option.bind_eq_some_iff.mp h
  obtain rfl := Option.some.inj h
  rfl

/-- Each step has a task of its sort order. -/
theorem stepTasks_sortOrder (h : stepTasks steps matterId createdBy draws = some tasks) :
    tasks.map Task.sortOrder = steps.map WorkflowTemplateStep.sortOrder := by
  have hrows := mapM_id_eq_some h
  have hlength : steps.length = tasks.length := by
    simpa using congrArg List.length hrows
  refine List.ext_getElem (by simp [hlength]) fun i hi hi' => ?_
  rw [List.getElem_map, List.getElem_map]
  rw [List.length_map] at hi hi'
  have hrow : (steps.mapIdx fun i step =>
      stepTask matterId createdBy draws.today (draws.taskIds i) step)[i]? = (tasks.map some)[i]? := by
    rw [hrows]
  simp only [List.getElem?_mapIdx, List.getElem?_map, List.getElem?_eq_getElem hi,
    List.getElem?_eq_getElem hi', Option.map_some, Option.some.injEq] at hrow
  exact stepTask_sortOrder hrow

theorem stepDependencies_edges :
    (stepDependencies steps tasks draws).map TaskDependency.edge = steps.filterMap (stepEdge tasks) := by
  unfold stepDependencies
  refine List.ext_getElem (by simp) fun i hi hi' => ?_
  simp [TaskDependency.edge]

/-- The task of a sort order, where there is one. -/
def taskIdOf (tasks : List Task) (order : ℤ) : Uuid :=
  (stepToTask tasks order).elim 0 Task.id

theorem exists_stepToTask {order : ℤ} (h : order ∈ tasks.map Task.sortOrder) :
    ∃ task ∈ tasks, stepToTask tasks order = some task ∧ task.sortOrder = order ∧
      taskIdOf tasks order = task.id := by
  have hmem : order ∈ tasks.reverse.map Task.sortOrder := by
    rw [List.map_reverse]
    exact List.mem_reverse.mpr h
  obtain ⟨task, htask⟩ := Table.exists_find_iff.mpr hmem
  have hfind : stepToTask tasks order = some task := htask
  refine ⟨task, List.mem_reverse.mp (Table.mem_of_find htask), hfind, Table.key_of_find htask, ?_⟩
  rw [taskIdOf, hfind]
  rfl

theorem stepToTask_eq_none {order : ℤ} (h : order ∉ tasks.map Task.sortOrder) :
    stepToTask tasks order = none := by
  refine Table.find_eq_none_iff.mpr fun task htask hkey => h ?_
  exact List.mem_map.mpr ⟨task, List.mem_reverse.mp htask, hkey⟩

/-- The dependencies of an application are the edges between the sort orders, by their tasks. -/
theorem edge_stepDependencies
    (horders : tasks.map Task.sortOrder = steps.map WorkflowTemplateStep.sortOrder) (x y : Uuid) :
    Edge ((stepDependencies steps tasks draws).map TaskDependency.edge) x y ↔
      Relation.Map (StepEdge steps) (taskIdOf tasks) (taskIdOf tasks) x y := by
  rw [stepDependencies_edges, Edge, List.mem_filterMap]
  constructor
  · rintro ⟨step, hstep, hedge⟩
    obtain ⟨order, horder, hedge⟩ := Option.bind_eq_some_iff.mp hedge
    obtain ⟨dependsOnTask, hdepends, hedge⟩ := Option.bind_eq_some_iff.mp hedge
    obtain ⟨task, htask, hedge⟩ := Option.bind_eq_some_iff.mp hedge
    obtain ⟨rfl, rfl⟩ := Prod.mk.inj (Option.some.inj hedge)
    have hmem : order ∈ steps.map WorkflowTemplateStep.sortOrder := by
      by_contra hnot
      rw [stepToTask_eq_none (horders ▸ hnot)] at hdepends
      cases hdepends
    refine ⟨step.sortOrder, order, ⟨step, hstep, rfl, horder, hmem⟩, ?_, ?_⟩
    · rw [taskIdOf, htask]
      rfl
    · rw [taskIdOf, hdepends]
      rfl
  · rintro ⟨a, b, ⟨step, hstep, rfl, hdepends, hmem⟩, rfl, rfl⟩
    have hown : step.sortOrder ∈ tasks.map Task.sortOrder :=
      horders ▸ List.mem_map_of_mem hstep
    obtain ⟨task, -, htask, -, hid⟩ := exists_stepToTask hown
    obtain ⟨dependsOnTask, -, hdependsOn, -, hid'⟩ := exists_stepToTask (horders ▸ hmem)
    refine ⟨step, hstep, ?_⟩
    rw [stepEdge, hdepends, hid, hid']
    simp only [Option.bind_eq_bind, Option.bind_some, hdependsOn, htask]

/-- Different sort orders have different tasks. -/
theorem taskIdOf_injOn (hnodup : (tasks.map Task.id).Nodup) :
    Set.InjOn (taskIdOf tasks) {order | order ∈ tasks.map Task.sortOrder} := by
  intro a ha b hb hsame
  obtain ⟨task, htask, -, horder, hid⟩ := exists_stepToTask ha
  obtain ⟨task', htask', -, horder', hid'⟩ := exists_stepToTask hb
  rw [hid, hid'] at hsame
  obtain rfl := List.inj_on_of_nodup_map hnodup htask htask' hsame
  exact horder.symm.trans horder'

theorem acyclic_stepDependencies_iff (hnodup : (tasks.map Task.id).Nodup)
    (horders : tasks.map Task.sortOrder = steps.map WorkflowTemplateStep.sortOrder) :
    Acyclic (Edge ((stepDependencies steps tasks draws).map TaskDependency.edge)) ↔
      StepsAcyclic steps := by
  rw [acyclic_congr (edge_stepDependencies horders)]
  refine acyclic_map_iff (taskIdOf_injOn hnodup) ?_
  rintro a b ⟨step, hstep, rfl, -, hmem⟩
  exact ⟨horders ▸ List.mem_map_of_mem hstep, horders ▸ hmem⟩

end

section
variable {db db' : TaskDb}

/-- The rows of an application are flushed after the old ones, and its tasks are new. -/
theorem insertApplied_rows {tasks : List Task} {deps : List TaskDependency} (hknown : EdgesKnown db)
    (h : insertApplied db tasks deps = some db') :
    (tasks.map Task.id).Nodup ∧ (∀ task ∈ tasks, task.id ∉ db.tasks.map Task.id) ∧
      edges db' = edges db++deps.map TaskDependency.edge ∧ EdgesKnown db' := by
  obtain ⟨db₁, hinsert, h⟩ := Option.bind_eq_some_iff.mp h
  obtain ⟨rfl, hnodup, hfresh⟩ := insertTasks_eq_some hinsert
  have hknown₁ : EdgesKnown { db with tasks := db.tasks++tasks } := by
    intro e he
    obtain ⟨htask, hdepends⟩ := hknown e he
    rw [List.map_append]
    exact ⟨List.mem_append_left _ htask, List.mem_append_left _ hdepends⟩
  obtain ⟨hedges, hknown'⟩ := insertDependencies_eq_some hknown₁ h
  exact ⟨hnodup, hfresh, hedges, hknown'⟩

/-- What an application that is flushed makes of the graph. -/
theorem insertApplied_eq_some {steps : List WorkflowTemplateStep} {matterId createdBy : Uuid}
    {draws : ApplyDraws} {tasks : List Task} (hknown : EdgesKnown db)
    (htasks : stepTasks steps matterId createdBy draws = some tasks)
    (h : insertApplied db tasks (stepDependencies steps tasks draws) = some db') :
    EdgesKnown db' ∧ (AcyclicTasks db' ↔ AcyclicTasks db ∧ StepsAcyclic steps) := by
  obtain ⟨hnodup, hfresh, hedges, hknown'⟩ := insertApplied_rows hknown h
  have horders := stepTasks_sortOrder htasks
  have hsplit : ∀ x y, Edge (edges db') x y ↔ Edge (edges db) x y ∨
      Edge ((stepDependencies steps tasks draws).map TaskDependency.edge) x y := by
    intro x y
    rw [Edge, hedges, List.mem_append]
    rfl
  -- the old edges join old tasks, and the new ones new tasks
  have hold : ∀ x y, Edge (edges db) x y →
      x ∈ db.tasks.map Task.id ∧ y ∈ db.tasks.map Task.id := fun x y hedge => hknown (x, y) hedge
  have hnew : ∀ x y, Edge ((stepDependencies steps tasks draws).map TaskDependency.edge) x y →
      x ∉ db.tasks.map Task.id ∧ y ∉ db.tasks.map Task.id := by
    intro x y hedge
    obtain ⟨a, b, ⟨step, hstep, rfl, -, hmem⟩, rfl, rfl⟩ := (edge_stepDependencies horders x y).mp hedge
    obtain ⟨task, htask, -, -, hid⟩ := exists_stepToTask (horders ▸ List.mem_map_of_mem hstep)
    obtain ⟨task', htask', -, -, hid'⟩ := exists_stepToTask (horders ▸ hmem)
    rw [hid, hid']
    exact ⟨hfresh task htask, hfresh task' htask'⟩
  refine ⟨hknown', ?_⟩
  rw [AcyclicTasks, acyclic_congr hsplit, acyclic_or_iff hold hnew,
    acyclic_stepDependencies_iff hnodup horders]
  rfl

theorem applyWorkflowTemplate_eq_ok {templateId matterId createdBy : Uuid} {draws : ApplyDraws}
    {tasks : List Task} :
    applyWorkflowTemplate db templateId matterId createdBy draws = .ok (tasks, db') ↔
      templateId ∈ db.templates.map WorkflowTemplate.id ∧
      stepTasks (templateSteps db templateId) matterId createdBy draws = some tasks ∧
      insertApplied db tasks (stepDependencies (templateSteps db templateId) tasks draws) = some db' := by
  unfold applyWorkflowTemplate
  rw [← Table.exists_find_iff]
  constructor
  · intro h
    split at h
    · cases h
    · rename_i template hfind
      split at h
      · cases h
      · rename_i tasks' htasks
        split at h
        · cases h
        · rename_i db₁ hinsert
          obtain ⟨rfl, rfl⟩ := Prod.mk.inj (Except.ok.inj h)
          exact ⟨⟨template, hfind⟩, htasks, hinsert⟩
  · rintro ⟨⟨template, hfind⟩, htasks, hinsert⟩
    rw [hfind, htasks]
    simp only [hinsert]

/-- What a call that ends with a result has done. The calls that are not named add no
dependency and delete no task. -/
theorem taskHandle_cases {call : TaskCall} {reply : TaskReply}
    (h : taskHandle call db = (.ok reply, db')) :
    (∃ dep, call = .addDependency dep ∧ addDependency db dep = .ok db') ∨
      (∃ taskId, call = .deleteTask taskId ∧ db' = deleteTask db taskId) ∨
      (∃ templateId matterId createdBy draws tasks,
        call = .applyWorkflowTemplate templateId matterId createdBy draws ∧
          applyWorkflowTemplate db templateId matterId createdBy draws = .ok (tasks, db')) ∨
      AppliesAcyclic db call ∧ edges db' ⊆ edges db ∧
        ∀ id ∈ db.tasks.map Task.id, id ∈ db'.tasks.map Task.id := by
  cases call with
  | createTask data taskId createdBy itemIds =>
    simp only [taskHandle] at h
    split at h
    · cases h
    · rename_i task db₁ hcreate
      obtain ⟨-, rfl⟩ := Prod.mk.inj h
      obtain ⟨hedges, htasks⟩ := createTask_eq_some hcreate
      refine Or.inr (Or.inr (Or.inr ⟨trivial, ?_, fun id => htasks id⟩))
      rw [hedges]
      exact List.Subset.refl _
  | addDependency dep =>
    simp only [taskHandle] at h
    split at h
    · cases h
    · rename_i db₁ hadd
      obtain ⟨-, rfl⟩ := Prod.mk.inj h
      exact Or.inl ⟨dep, rfl, hadd⟩
  | removeDependency dependencyId =>
    simp only [taskHandle] at h
    split at h
    · cases h
    · rename_i db₁ hremove
      obtain ⟨-, rfl⟩ := Prod.mk.inj h
      obtain ⟨htasks, hsubset⟩ := removeDependency_eq_ok hremove
      refine Or.inr (Or.inr (Or.inr ⟨trivial, hsubset, ?_⟩))
      rw [htasks]
      exact fun id hid => hid
  | deleteTask taskId =>
    simp only [taskHandle] at h
    split at h
    · cases h
    · obtain ⟨-, rfl⟩ := Prod.mk.inj h
      exact Or.inr (Or.inl ⟨taskId, rfl, rfl⟩)
  | createWorkflowTemplate data templateId createdBy stepIds =>
    simp only [taskHandle] at h
    split at h
    · cases h
    · rename_i template db₁ hcreate
      obtain ⟨-, rfl⟩ := Prod.mk.inj h
      obtain ⟨hedges, htasks⟩ := createWorkflowTemplate_eq_some hcreate
      refine Or.inr (Or.inr (Or.inr ⟨trivial, ?_, ?_⟩))
      · rw [hedges]
        exact List.Subset.refl _
      · rw [htasks]
        exact fun id hid => hid
  | applyWorkflowTemplate templateId matterId createdBy draws =>
    simp only [taskHandle] at h
    split at h
    · cases h
    · rename_i tasks db₁ happly
      obtain ⟨-, rfl⟩ := Prod.mk.inj h
      exact Or.inr (Or.inr (Or.inl ⟨templateId, matterId, createdBy, draws, tasks, rfl, happly⟩))

/-- Each call that ends with a result keeps the foreign keys of the dependencies. -/
theorem EdgesKnown.step {call : TaskCall} {reply : TaskReply} (hknown : EdgesKnown db)
    (h : taskHandle call db = (.ok reply, db')) : EdgesKnown db' := by
  rcases taskHandle_cases h with ⟨dep, -, hadd⟩ | ⟨taskId, -, rfl⟩ |
    ⟨templateId, matterId, createdBy, draws, tasks, -, happly⟩ | ⟨-, hedges, htasks⟩
  · obtain ⟨-, -, -, -, hinsert⟩ := addDependency_eq_ok hadd
    exact hknown.insertDependency hinsert
  · exact hknown.deleteTask taskId
  · obtain ⟨-, htasks, hinsert⟩ := applyWorkflowTemplate_eq_ok.mp happly
    exact (insertApplied_eq_some hknown htasks hinsert).1
  · intro e he
    have hbefore := hknown e (hedges he)
    exact ⟨htasks _ hbefore.1, htasks _ hbefore.2⟩

/-- What a call with a result does to the graph. -/
theorem acyclicTasks_ok_iff {call : TaskCall} {reply : TaskReply} (hknown : EdgesKnown db)
    (hacyclic : AcyclicTasks db) (h : taskHandle call db = (.ok reply, db')) :
    AcyclicTasks db' ↔ AppliesAcyclic db call := by
  rcases taskHandle_cases h with ⟨dep, rfl, hadd⟩ | ⟨taskId, rfl, rfl⟩ |
    ⟨templateId, matterId, createdBy, draws, tasks, rfl, happly⟩ | ⟨happlies, hedges, -⟩
  · exact iff_of_true (hacyclic.addDependency hadd) trivial
  · exact iff_of_true (hacyclic.of_subset (edges_deleteTask_subset taskId)) trivial
  · obtain ⟨htemplate, htasks, hinsert⟩ := applyWorkflowTemplate_eq_ok.mp happly
    rw [(insertApplied_eq_some hknown htasks hinsert).2, and_iff_right hacyclic]
    constructor
    · intro hsteps _ _ _ _
      exact hsteps
    · intro h
      exact h tasks htemplate htasks (by rw [hinsert]; exact Option.some_ne_none _)
  · exact iff_of_true (hacyclic.of_subset hedges) happlies

/-- An application whose rows are not flushed raises. -/
theorem appliesAcyclic_of_error {call : TaskCall} {error : HttpError}
    (h : taskHandle call db = (.error error, db')) : AppliesAcyclic db call := by
  cases call with
  | applyWorkflowTemplate templateId matterId createdBy draws =>
    intro tasks htemplate htasks hinsert
    obtain ⟨db₁, hdb₁⟩ := Option.ne_none_iff_exists'.mp hinsert
    have happly := applyWorkflowTemplate_eq_ok.mpr ⟨htemplate, htasks, hdb₁⟩
    simp only [taskHandle, happly] at h
    cases h
  | _ => trivial

theorem acyclicTasks_step_iff {call : TaskCall} (hknown : EdgesKnown db) (hacyclic : AcyclicTasks db)
    (hstep : serve taskHandle db call = some db') : AcyclicTasks db' ↔ AppliesAcyclic db call := by
  have hdb' : committed (taskHandle call) db = db' := Option.some.inj hstep
  subst hdb'
  rcases committed_cases (taskHandle call) db with ⟨error, t, herror, hsame⟩ | ⟨reply, t, hok, hnew⟩
  · rw [hsame]
    exact iff_of_true hacyclic (appliesAcyclic_of_error herror)
  · rw [hnew]
    exact acyclicTasks_ok_iff hknown hacyclic hok

/-- The graph stays acyclic throughout a run exactly when it is at the start and no template is
applied, with rows that can be flushed, whose steps make a cycle of sort orders. -/
theorem acyclicTasks_throughout_iff (hknown : EdgesKnown db) (calls : List TaskCall) :
    Throughout (serve taskHandle) AcyclicTasks db calls ↔
      AcyclicTasks db ∧ Along (serve taskHandle) (fun db call _ => AppliesAcyclic db call) db calls := by
  refine throughout_iff_along (I := EdgesKnown) ?_ ?_ hknown calls
  · intro s call t hs hstep
    exact serve_invariant (fun _ _ _ _ hI h => hI.step h) hs hstep
  · intro s call t hs hacyclic hstep
    exact acyclicTasks_step_iff hs hacyclic hstep

end

/-- A firm with one user and one matter. -/
def noTasks : TaskDb where
  users := [1]
  matters := [2]
  tasks := []
  dependencies := []
  checklists := []
  templates := []
  steps := []

theorem noTasks_known : EdgesKnown noTasks :=
  fun _ he => absurd he List.not_mem_nil

/-- A template whose only step depends on itself is created and applied. -/
def selfDependentTemplate : List TaskCall :=
  [.createWorkflowTemplate
      { name := ⟨"Intake", by decide⟩
        steps := [{ title := ⟨"Call", by decide⟩, sortOrder := 1, dependsOnStepOrder := some 1 }] }
      3 1 (fun _ => 4),
    .applyWorkflowTemplate 3 2 1 ⟨fun _ => 5, fun _ => 6, ⟨739400, by decide, by decide⟩⟩]

theorem acyclicTasks_throughout_iff_selfDependent :
    Throughout (serve taskHandle) AcyclicTasks noTasks selfDependentTemplate ↔
      AcyclicTasks noTasks ∧ Along (serve taskHandle) (fun db call _ => AppliesAcyclic db call) noTasks
        selfDependentTemplate :=
  acyclicTasks_throughout_iff noTasks_known selfDependentTemplate

/-- The task depends on itself. -/
theorem not_acyclicTasks_selfDependent :
    ¬Throughout (serve taskHandle) AcyclicTasks noTasks selfDependentTemplate := by
  intro h
  have hlast := throughout_iff_prefix.mp h selfDependentTemplate [] _ (List.append_nil _).symm rfl
  refine hlast 5 (.single ?_)
  rw [Edge]
  decide +kernel

end LegalForge.Tasks
