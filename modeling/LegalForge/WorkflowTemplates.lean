import LegalForge.LastWins
import LegalForge.TaskAcyclicity

/-! The tasks and dependencies a workflow template asks for, and those its application creates.
Steps are linked through a map from sort orders to tasks. -/
namespace LegalForge.Tasks
open GraphSearch LastWins
open Deadlines (nullable)

section
variable (steps : List WorkflowTemplateStep)

def stepOrder (i : Fin steps.length) : ℤ :=
  (steps.get i).sortOrder

def stepWants (i : Fin steps.length) : Option ℤ :=
  (steps.get i).dependsOnStepOrder

end

variable (db : TaskDb) (templateId matterId createdBy : Uuid) (draws : ApplyDraws)

/-- The template, its matter and its user are there, and the ids drawn are new. -/
structure Applicable : Prop where
  known : EdgesKnown db
  template : templateId ∈ db.templates.map WorkflowTemplate.id
  matter : matterId ∈ db.matters
  user : createdBy ∈ db.users
  taskIds : Set.InjOn draws.taskIds {i | i < (templateSteps db templateId).length}
  tasksFresh : ∀ i < (templateSteps db templateId).length, draws.taskIds i ∉ db.tasks.map Task.id
  dependencyIds : Set.InjOn draws.dependencyIds {i | i < (templateSteps db templateId).length}
  dependenciesFresh : ∀ i < (templateSteps db templateId).length,
    draws.dependencyIds i ∉ db.dependencies.map TaskDependency.id

/-- The application succeeds with one task for each step, and a task depends on another exactly
if its step declares the other step's order. -/
def Faithful : Prop :=
  ∃ tasks db', applyWorkflowTemplate db templateId matterId createdBy draws = .ok (tasks, db') ∧
    db'.tasks = db.tasks++tasks ∧
    ∃ hlength : (templateSteps db templateId).length = tasks.length,
      (∀ i, (tasks.get (i.cast hlength)).title = ((templateSteps db templateId).get i).title ∧
        (tasks.get (i.cast hlength)).sortOrder = stepOrder (templateSteps db templateId) i) ∧
      ∀ i j, i ≠ j →
        (((tasks.get (i.cast hlength)).id, (tasks.get (j.cast hlength)).id) ∈ edges db' ↔
          stepWants (templateSteps db templateId) i =
            some (stepOrder (templateSteps db templateId) j))

/-- The due date of every step is a date. -/
def DueDatesExist (steps : List WorkflowTemplateStep) (today : Day) : Prop :=
  ∀ step ∈ steps, nullable today.add step.relativeDueDays ≠ none

/-- A step that depends on an order some step has is the last with its own order, and one step
has the order it depends on. -/
def OrdersDetermined (steps : List WorkflowTemplateStep) : Prop :=
  Determined (stepOrder steps) (stepWants steps)

variable {db templateId matterId createdBy draws}

/-! The tasks. -/

/-- Tasks of the matter with new ids are flushed. -/
theorem insertTasks_of_fresh {tasks : List Task} (hmatter : matterId ∈ db.matters)
    (huser : createdBy ∈ db.users) (hnodup : (tasks.map Task.id).Nodup)
    (hnew : ∀ task ∈ tasks, task.id ∉ db.tasks.map Task.id ∧ task.matterId = some matterId ∧
      task.assignedTo = none ∧ task.createdBy = createdBy) :
    tasks.foldlM insertTask db = some { db with tasks := db.tasks++tasks } := by
  induction tasks generalizing db with
  | nil =>
    rw [List.append_nil]
    rfl
  | cons task tasks ih =>
    obtain ⟨hid, hmatterId, hassigned, hcreated⟩ := hnew task List.mem_cons_self
    obtain ⟨hfirst, hrest⟩ := List.nodup_cons.mp hnodup
    have hrow : Table.insert Task.id task db.tasks = some (db.tasks++[task]) :=
      Table.insert_of_notMem hid
    have hinsert : insertTask db task = some { db with tasks := db.tasks++[task] } := by
      unfold insertTask
      rw [hmatterId, hassigned, hcreated, if_pos ⟨by simpa using hmatter, rfl, huser⟩, hrow]
      rfl
    rw [List.foldlM_cons, hinsert]
    refine (@ih { db with tasks := db.tasks++[task] } hmatter huser hrest ?_).trans ?_
    · intro task' htask'
      obtain ⟨hid', hothers⟩ := hnew task' (List.mem_cons_of_mem _ htask')
      have hne : task'.id ≠ task.id := by
        intro hsame
        exact hfirst (hsame ▸ List.mem_map_of_mem htask')
      exact ⟨Table.notMem_append_singleton hid' hne, hothers⟩
    · rw [List.append_assoc]
      rfl

/-- Dependencies with new ids and new edges between tasks that exist are flushed. -/
theorem insertDependencies_of_fresh {deps : List TaskDependency}
    (hids : (deps.map TaskDependency.id).Nodup) (hedges : (deps.map TaskDependency.edge).Nodup)
    (hnew : ∀ dep ∈ deps, dep.id ∉ db.dependencies.map TaskDependency.id ∧ dep.edge ∉ edges db ∧
      dep.taskId ∈ db.tasks.map Task.id ∧ dep.dependsOnId ∈ db.tasks.map Task.id) :
    deps.foldlM insertDependency db =
      some { db with dependencies := db.dependencies++deps } := by
  induction deps generalizing db with
  | nil =>
    rw [List.append_nil]
    rfl
  | cons dep deps ih =>
    obtain ⟨hid, hedge, htask, hdepends⟩ := hnew dep List.mem_cons_self
    obtain ⟨hfirstId, hids⟩ := List.nodup_cons.mp hids
    obtain ⟨hfirstEdge, hedges⟩ := List.nodup_cons.mp hedges
    have hfound : ∀ {id : Uuid}, id ∈ db.tasks.map Task.id → (getTask db id).isSome := fun hmem =>
      Option.isSome_iff_exists.mpr (Table.exists_find_iff.mpr hmem)
    have hrow : Table.insert TaskDependency.id dep db.dependencies = some (db.dependencies++[dep]) :=
      Table.insert_of_notMem hid
    have hunique : Table.insert TaskDependency.edge dep db.dependencies =
        some (db.dependencies++[dep]) := Table.insert_of_notMem hedge
    have hinsert : insertDependency db dep =
        some { db with dependencies := db.dependencies++[dep] } := by
      unfold insertDependency
      rw [if_pos ⟨hfound htask, hfound hdepends⟩, hrow, hunique]
      rfl
    rw [List.foldlM_cons, hinsert]
    -- the others are still new after the first
    refine (@ih { db with dependencies := db.dependencies++[dep] } hids hedges ?_).trans ?_
    · intro dep' hdep'
      obtain ⟨hid', hedge', htasks⟩ := hnew dep' (List.mem_cons_of_mem _ hdep')
      have hneId : dep'.id ≠ dep.id := by
        intro hsame
        exact hfirstId (hsame ▸ List.mem_map_of_mem hdep')
      have hneEdge : dep'.edge ≠ dep.edge := by
        intro hsame
        exact hfirstEdge (hsame ▸ List.mem_map_of_mem hdep')
      exact ⟨Table.notMem_append_singleton hid' hneId, Table.notMem_append_singleton hedge' hneEdge,
        htasks⟩
    · rw [List.append_assoc]
      rfl

theorem exists_mapM_id {α : Type} {rows : List (Option α)} (h : ∀ row ∈ rows, row ≠ none) :
    ∃ results, rows.mapM id = some results := by
  induction rows with
  | nil => exact ⟨[], rfl⟩
  | cons row rows ih =>
    obtain ⟨x, hx⟩ := Option.ne_none_iff_exists'.mp (h row List.mem_cons_self)
    obtain ⟨xs, hxs⟩ := ih fun row' hrow' => h row' (List.mem_cons_of_mem _ hrow')
    refine ⟨x :: xs, ?_⟩
    rw [List.mapM_cons, hxs, hx]
    rfl

theorem stepTask_eq_some {today : Day} {taskId : Uuid} {step : WorkflowTemplateStep} {task : Task}
    (h : stepTask matterId createdBy today taskId step = some task) :
    nullable today.add step.relativeDueDays ≠ none ∧ task.id = taskId ∧ task.title = step.title ∧
      task.sortOrder = step.sortOrder ∧ task.matterId = some matterId ∧ task.assignedTo = none ∧
        task.createdBy = createdBy := by
  obtain ⟨dueDate, hdue, h⟩ := Option.bind_eq_some_iff.mp h
  obtain rfl := Option.some.inj h
  exact ⟨Option.ne_none_iff_exists'.mpr ⟨dueDate, hdue⟩, rfl, rfl, rfl, rfl, rfl, rfl⟩

section
variable {steps : List WorkflowTemplateStep} {tasks : List Task}

theorem exists_stepTasks (h : DueDatesExist steps draws.today) :
    ∃ tasks, stepTasks steps matterId createdBy draws = some tasks := by
  apply exists_mapM_id
  intro row hrow
  obtain ⟨i, hi, rfl⟩ := List.mem_mapIdx.mp hrow
  obtain ⟨dueDate, hdue⟩ := Option.ne_none_iff_exists'.mp (h _ (List.getElem_mem hi))
  unfold stepTask
  rw [hdue]
  exact Option.some_ne_none _

theorem length_stepTasks (h : stepTasks steps matterId createdBy draws = some tasks) :
    steps.length = tasks.length := by
  simpa using congrArg List.length (mapM_id_eq_some h)

theorem stepTasks_get (h : stepTasks steps matterId createdBy draws = some tasks)
    (i : Fin steps.length) :
    stepTask matterId createdBy draws.today (draws.taskIds i) (steps.get i) =
      some (tasks.get (i.cast (length_stepTasks h))) := by
  have hrow := congrArg (fun rows : List (Option Task) => rows[(i : ℕ)]?) (mapM_id_eq_some h)
  have hi : (i : ℕ) < tasks.length := length_stepTasks h ▸ i.isLt
  simp only [List.getElem?_mapIdx, List.getElem?_map, List.getElem?_eq_getElem i.isLt,
    List.getElem?_eq_getElem hi, Option.map_some, Option.some.injEq] at hrow
  exact hrow

/-- The task found for an order is the last one with it. -/
theorem last_of_stepToTask {order : ℤ} {task : Task} (h : stepToTask tasks order = some task) :
    ∃ l : Fin tasks.length, tasks.get l = task ∧ ∀ k, (tasks.get k).sortOrder = order → k ≤ l := by
  unfold stepToTask Table.find at h
  obtain ⟨-, i, hi, hget, hbefore⟩ := List.find?_eq_some_iff_getElem.mp h
  rw [List.getElem_reverse] at hget
  rw [List.length_reverse] at hi
  refine ⟨⟨tasks.length-1-i, by omega⟩, hget, ?_⟩
  intro k hk
  by_contra hlater
  have hlt : tasks.length-1-i < k := not_le.mp hlater
  have hklt := k.isLt
  have hskipped := hbefore (tasks.length-1-k) (by omega)
  rw [List.getElem_reverse] at hskipped
  have hindex : tasks.length-1-(tasks.length-1-k) = k := by omega
  simp only [hindex] at hskipped
  rw [List.get_eq_getElem] at hk
  simp [hk] at hskipped

variable (hlength : steps.length = tasks.length)
  (horders : ∀ i, (tasks.get (i.cast hlength)).sortOrder = stepOrder steps i)
  (hnodup : (tasks.map Task.id).Nodup)

include hnodup in
theorem get_inj {k l : Fin tasks.length} (h : (tasks.get k).id = (tasks.get l).id) : k = l := by
  have hsame := List.inj_on_of_nodup_map hnodup (List.get_mem tasks k) (List.get_mem tasks l) h
  exact (hnodup.of_map Task.id).get_inj_iff.mp hsame

include horders hnodup in
/-- The map gives a task for an order exactly if its step is the last with the order. -/
theorem taskIdOf_eq_iff {order : ℤ} (horder : order ∈ tasks.map Task.sortOrder)
    (i : Fin steps.length) : taskIdOf tasks order = (tasks.get (i.cast hlength)).id ↔
      order = stepOrder steps i ∧ IsLast (stepOrder steps) i := by
  obtain ⟨task, -, hfind, hkey, hid⟩ := exists_stepToTask horder
  obtain ⟨l, rfl, hlast⟩ := last_of_stepToTask hfind
  rw [hid]
  constructor
  · intro h
    obtain rfl := get_inj hnodup h
    rw [horders] at hkey
    refine ⟨hkey.symm, ?_⟩
    intro k hk
    exact hlast (k.cast hlength) ((horders k).trans (hk.trans hkey))
  · rintro ⟨rfl, hi⟩
    have hle : i.cast hlength ≤ l := hlast _ (horders i)
    have hge : l.cast hlength.symm ≤ i := hi _ ((horders (l.cast hlength.symm)).symm.trans hkey)
    have heq : l = i.cast hlength := le_antisymm hge hle
    rw [heq]

theorem mem_orders_iff {order : ℤ} :
    order ∈ steps.map WorkflowTemplateStep.sortOrder ↔ ∃ i, stepOrder steps i = order := by
  rw [List.mem_map]
  constructor
  · rintro ⟨step, hstep, rfl⟩
    obtain ⟨i, rfl⟩ := List.get_of_mem hstep
    exact ⟨i, rfl⟩
  · rintro ⟨i, rfl⟩
    exact ⟨steps.get i, List.get_mem steps i, rfl⟩

include horders hnodup in
/-- The dependencies created are the links of the map. -/
theorem mem_stepDependencies_iff (hsame : tasks.map Task.sortOrder = steps.map WorkflowTemplateStep.sortOrder)
    (i j : Fin steps.length) :
    ((tasks.get (i.cast hlength)).id, (tasks.get (j.cast hlength)).id) ∈
        (stepDependencies steps tasks draws).map TaskDependency.edge ↔
      Linked (stepOrder steps) (stepWants steps) i j := by
  have hmap : Edge ((stepDependencies steps tasks draws).map TaskDependency.edge)
      (tasks.get (i.cast hlength)).id (tasks.get (j.cast hlength)).id ↔ _ :=
    edge_stepDependencies hsame _ _
  rw [Edge] at hmap
  rw [hmap]
  constructor
  · rintro ⟨a, b, ⟨step, hstep, rfl, hwants, hb⟩, hi, hj⟩
    obtain ⟨s, rfl⟩ := List.get_of_mem hstep
    have ha : stepOrder steps s ∈ tasks.map Task.sortOrder := hsame ▸ mem_orders_iff.mpr ⟨s, rfl⟩
    obtain ⟨hsi, hlasti⟩ := (taskIdOf_eq_iff hlength horders hnodup ha i).mp hi
    obtain ⟨rfl, hlastj⟩ := (taskIdOf_eq_iff hlength horders hnodup (hsame ▸ hb) j).mp hj
    exact ⟨hlasti, hlastj, s, hsi, hwants⟩
  · rintro ⟨hlasti, hlastj, s, hsi, hwants⟩
    have hmem : ∀ k, stepOrder steps k ∈ tasks.map Task.sortOrder := fun k =>
      hsame ▸ mem_orders_iff.mpr ⟨k, rfl⟩
    refine ⟨stepOrder steps i, stepOrder steps j, ⟨steps.get s, List.get_mem steps s, hsi, hwants,
      mem_orders_iff.mpr ⟨j, rfl⟩⟩, ?_, ?_⟩
    · exact (taskIdOf_eq_iff hlength horders hnodup (hmem i) i).mpr ⟨rfl, hlasti⟩
    · exact (taskIdOf_eq_iff hlength horders hnodup (hmem j) j).mpr ⟨rfl, hlastj⟩

theorem stepEdge_eq_some {step : WorkflowTemplateStep} {edge : Uuid × Uuid}
    (h : stepEdge tasks step = some edge) : ∃ order ∈ tasks.map Task.sortOrder,
      step.dependsOnStepOrder = some order ∧ step.sortOrder ∈ tasks.map Task.sortOrder ∧
        edge = (taskIdOf tasks step.sortOrder, taskIdOf tasks order) := by
  obtain ⟨order, horder, h⟩ := Option.bind_eq_some_iff.mp h
  obtain ⟨dependsOn, hdepends, h⟩ := Option.bind_eq_some_iff.mp h
  obtain ⟨task, htask, h⟩ := Option.bind_eq_some_iff.mp h
  have hmem : ∀ {o : ℤ} {t : Task}, stepToTask tasks o = some t → o ∈ tasks.map Task.sortOrder := by
    intro o t ho
    by_contra hnot
    rw [stepToTask_eq_none hnot] at ho
    cases ho
  refine ⟨order, hmem hdepends, horder, hmem htask, ?_⟩
  rw [taskIdOf, taskIdOf, htask, hdepends]
  exact (Option.some.inj h).symm

include hnodup in
/-- Links that are not made twice are distinct rows. -/
theorem nodup_stepEdges (hsame : tasks.map Task.sortOrder = steps.map WorkflowTemplateStep.sortOrder)
    (h : LinksDistinct (stepOrder steps) (stepWants steps)) :
    (steps.filterMap (stepEdge tasks)).Nodup := by
  rw [List.Nodup, List.pairwise_filterMap, List.pairwise_iff_getElem]
  rintro i j hi hj hij edge hedge edge' hedge' rfl
  obtain ⟨order, horder, hwants, hkey, rfl⟩ := stepEdge_eq_some hedge
  obtain ⟨order', horder', hwants', hkey', hpair⟩ := stepEdge_eq_some hedge'
  have hinj := taskIdOf_injOn hnodup
  have hkeys := hinj hkey hkey' (congrArg Prod.fst hpair)
  have horders := hinj horder horder' (congrArg Prod.snd hpair)
  rw [hsame] at horder
  obtain ⟨k, rfl⟩ := mem_orders_iff.mp horder
  have hindex := h ⟨i, hi⟩ ⟨j, hj⟩ k hkeys hwants (hwants'.trans (congrArg some horders.symm))
  exact absurd (congrArg Fin.val hindex) (Nat.ne_of_lt hij)

end

/-! The application. -/

section
variable {steps : List WorkflowTemplateStep} {tasks : List Task}

theorem stepTasks_orders (h : stepTasks steps matterId createdBy draws = some tasks)
    (i : Fin steps.length) :
    (tasks.get (i.cast (length_stepTasks h))).sortOrder = stepOrder steps i :=
  (stepTask_eq_some (stepTasks_get h i)).2.2.2.1

theorem nodup_stepTasks (h : stepTasks steps matterId createdBy draws = some tasks)
    (hinj : Set.InjOn draws.taskIds {i | i < steps.length}) : (tasks.map Task.id).Nodup := by
  rw [List.Nodup, List.pairwise_map, List.pairwise_iff_getElem]
  intro i j hi hj hij hsame
  have hlength := length_stepTasks h
  have hid : ∀ k (hk : k < tasks.length), tasks[k].id = draws.taskIds k := fun k hk =>
    (stepTask_eq_some (stepTasks_get h ⟨k, by omega⟩)).2.1
  rw [hid, hid] at hsame
  have hindex := hinj (show i < steps.length by omega) (show j < steps.length by omega) hsame
  exact absurd hindex (Nat.ne_of_lt hij)

theorem mem_stepTasks (h : stepTasks steps matterId createdBy draws = some tasks) {task : Task}
    (htask : task ∈ tasks) : ∃ i < steps.length, task.id = draws.taskIds i ∧
      task.matterId = some matterId ∧ task.assignedTo = none ∧ task.createdBy = createdBy := by
  obtain ⟨k, rfl⟩ := List.get_of_mem htask
  have hlength := length_stepTasks h
  obtain ⟨-, hid, -, -, hrest⟩ := stepTask_eq_some (stepTasks_get h (k.cast hlength.symm))
  exact ⟨k, by omega, hid, hrest⟩

theorem stepDependencies_ids (tasks : List Task)
    (hinj : Set.InjOn draws.dependencyIds {i | i < steps.length}) :
    ((stepDependencies steps tasks draws).map TaskDependency.id).Nodup ∧
      ∀ dep ∈ stepDependencies steps tasks draws, ∃ i < steps.length,
        dep.id = draws.dependencyIds i := by
  have hle := List.length_filterMap_le (stepEdge tasks) steps
  unfold stepDependencies
  constructor
  · rw [List.Nodup, List.pairwise_map, List.pairwise_iff_getElem]
    intro i j hi hj hij hsame
    rw [List.length_mapIdx] at hi hj
    rw [List.getElem_mapIdx, List.getElem_mapIdx] at hsame
    have hindex := hinj (lt_of_lt_of_le hi hle) (lt_of_lt_of_le hj hle) hsame
    exact absurd hindex (Nat.ne_of_lt hij)
  · intro dep hdep
    obtain ⟨i, hi, rfl⟩ := List.mem_mapIdx.mp hdep
    exact ⟨i, lt_of_lt_of_le hi hle, rfl⟩

/-- A dependency of an application joins two of its tasks. -/
theorem stepDependencies_tasks {dep : TaskDependency} (hdep : dep ∈ stepDependencies steps tasks draws) :
    dep.taskId ∈ tasks.map Task.id ∧ dep.dependsOnId ∈ tasks.map Task.id := by
  have hedge : dep.edge ∈ (stepDependencies steps tasks draws).map TaskDependency.edge :=
    List.mem_map_of_mem hdep
  rw [stepDependencies_edges, List.mem_filterMap] at hedge
  obtain ⟨step, -, hstep⟩ := hedge
  obtain ⟨order, horder, -, hkey, hpair⟩ := stepEdge_eq_some hstep
  have hmem : ∀ {o : ℤ}, o ∈ tasks.map Task.sortOrder → taskIdOf tasks o ∈ tasks.map Task.id := by
    intro o ho
    obtain ⟨task, htask, -, -, hid⟩ := exists_stepToTask ho
    rw [hid]
    exact List.mem_map_of_mem htask
  have htaskId : dep.taskId = taskIdOf tasks step.sortOrder := congrArg Prod.fst hpair
  have hdependsOn : dep.dependsOnId = taskIdOf tasks order := congrArg Prod.snd hpair
  rw [htaskId, hdependsOn]
  exact ⟨hmem hkey, hmem horder⟩

end

/-- What an application that succeeds leaves behind. -/
theorem applied_spec {db' : TaskDb} {tasks : List Task} (hknown : EdgesKnown db)
    (h : applyWorkflowTemplate db templateId matterId createdBy draws = .ok (tasks, db')) :
    stepTasks (templateSteps db templateId) matterId createdBy draws = some tasks ∧
      (∀ task ∈ tasks, task.id ∉ db.tasks.map Task.id) ∧
      edges db' = edges db++
        (stepDependencies (templateSteps db templateId) tasks draws).map TaskDependency.edge := by
  obtain ⟨-, htasks, hinsert⟩ := applyWorkflowTemplate_eq_ok.mp h
  obtain ⟨-, hfresh, hedges, -⟩ := insertApplied_rows hknown hinsert
  exact ⟨htasks, hfresh, hedges⟩

theorem exists_applied (h : Applicable db templateId matterId createdBy draws)
    (hdue : DueDatesExist (templateSteps db templateId) draws.today)
    (hlinks : LinksDistinct (stepOrder (templateSteps db templateId))
      (stepWants (templateSteps db templateId))) :
    ∃ tasks db', applyWorkflowTemplate db templateId matterId createdBy draws = .ok (tasks, db') ∧
      db'.tasks = db.tasks++tasks := by
  obtain ⟨tasks, htasks⟩ : ∃ tasks, stepTasks (templateSteps db templateId) matterId createdBy draws =
      some tasks := exists_stepTasks hdue
  have hnodup := nodup_stepTasks htasks h.taskIds
  have hfresh : ∀ task ∈ tasks, task.id ∉ db.tasks.map Task.id := by
    intro task htask
    obtain ⟨i, hi, hid, -⟩ := mem_stepTasks htasks htask
    rw [hid]
    exact h.tasksFresh i hi
  -- the tasks go in first,
  have hfirst := insertTasks_of_fresh h.matter h.user hnodup fun task htask => by
    obtain ⟨i, hi, -, hrest⟩ := mem_stepTasks htasks htask
    exact ⟨hfresh task htask, hrest⟩
  obtain ⟨hids, hdepIds⟩ := stepDependencies_ids tasks h.dependencyIds
  have hedges : ((stepDependencies (templateSteps db templateId) tasks draws).map
      TaskDependency.edge).Nodup := by
    rw [stepDependencies_edges]
    exact nodup_stepEdges hnodup (stepTasks_sortOrder htasks) hlinks
  -- and the dependencies find them
  have hsecond := @insertDependencies_of_fresh { db with tasks := db.tasks++tasks } _ hids hedges
    fun dep hdep => by
      obtain ⟨i, hi, hid⟩ := hdepIds dep hdep
      obtain ⟨htask, hdepends⟩ := stepDependencies_tasks hdep
      refine ⟨hid ▸ h.dependenciesFresh i hi, ?_, ?_, ?_⟩
      · intro hedge
        obtain ⟨task, hmem, hsame⟩ := List.mem_map.mp htask
        exact hfresh task hmem (hsame ▸ (h.known _ hedge).1)
      · rw [List.map_append]
        exact List.mem_append_right _ htask
      · rw [List.map_append]
        exact List.mem_append_right _ hdepends
  have hinsert : insertApplied db tasks (stepDependencies (templateSteps db templateId) tasks draws) =
      some { db with
        tasks := db.tasks++tasks
        dependencies :=
          db.dependencies++stepDependencies (templateSteps db templateId) tasks draws } := by
    unfold insertApplied
    rw [hfirst]
    exact hsecond
  exact ⟨tasks, _, applyWorkflowTemplate_eq_ok.mpr ⟨h.template, htasks, hinsert⟩, rfl⟩

/-- An edge between tasks of an application is a link of the map. -/
theorem mem_edges_iff {db' : TaskDb} {tasks : List Task} (hknown : EdgesKnown db)
    (hinj : Set.InjOn draws.taskIds {i | i < (templateSteps db templateId).length})
    (h : applyWorkflowTemplate db templateId matterId createdBy draws = .ok (tasks, db'))
    (hlength : (templateSteps db templateId).length = tasks.length)
    (i j : Fin (templateSteps db templateId).length) :
    ((tasks.get (i.cast hlength)).id, (tasks.get (j.cast hlength)).id) ∈ edges db' ↔
      Linked (stepOrder (templateSteps db templateId)) (stepWants (templateSteps db templateId)) i j := by
  obtain ⟨htasks, hfresh, hedges⟩ := applied_spec hknown h
  have hold : ((tasks.get (i.cast hlength)).id, (tasks.get (j.cast hlength)).id) ∉ edges db :=
    fun hmem => hfresh _ (List.get_mem tasks _) (hknown _ hmem).1
  rw [hedges, List.mem_append, or_iff_right hold]
  exact mem_stepDependencies_iff hlength (stepTasks_orders htasks) (nodup_stepTasks htasks hinj)
    (stepTasks_sortOrder htasks) i j

theorem Faithful.dueDatesExist (hknown : EdgesKnown db)
    (h : Faithful db templateId matterId createdBy draws) :
    DueDatesExist (templateSteps db templateId) draws.today := by
  obtain ⟨tasks, db', hok, -⟩ := h
  intro step hstep
  obtain ⟨i, rfl⟩ := List.get_of_mem hstep
  exact (stepTask_eq_some (stepTasks_get (applied_spec hknown hok).1 i)).1

theorem Faithful.ordersDetermined (hknown : EdgesKnown db)
    (hinj : Set.InjOn draws.taskIds {i | i < (templateSteps db templateId).length})
    (h : Faithful db templateId matterId createdBy draws) :
    OrdersDetermined (templateSteps db templateId) := by
  obtain ⟨tasks, db', hok, -, hlength, -, hedges⟩ := h
  apply LinksWanted.determined
  intro i j hne
  rw [← mem_edges_iff hknown hinj hok hlength i j]
  exact hedges i j hne

def templateStep (id : Uuid) (title : String) (sortOrder : ℤ) (dependsOnStepOrder : Option ℤ) :
    WorkflowTemplateStep where
  id := id
  workflowTemplateId := 3
  title := title
  description := none
  assignedRole := none
  relativeDueDays := none
  sortOrder := sortOrder
  dependsOnStepOrder := dependsOnStepOrder

/-- A firm with a template. -/
def withTemplate (steps : List WorkflowTemplateStep) : TaskDb :=
  { noTasks with
    templates := [{ id := 3, name := "Intake", description := none, practiceArea := none
                    createdBy := some 1 }]
    steps := steps }

def countedDraws : ApplyDraws :=
  ⟨fun i => BitVec.ofNat 128 (10+i), fun i => BitVec.ofNat 128 (20+i), ⟨739500, by decide, by decide⟩⟩

/-- Research, then a draft and a call side by side. -/
def parallelSteps : List WorkflowTemplateStep :=
  [templateStep 4 "Research" 0 none, templateStep 5 "Draft" 1 (some 0),
    templateStep 6 "Call" 1 (some 0)]

end LegalForge.Tasks
