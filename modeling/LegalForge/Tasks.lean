import LegalForge.Deadlines
import LegalForge.GraphSearch
import LegalForge.UnitOfWork

/-! Tasks, their dependencies, and the workflow templates that create both. -/
namespace LegalForge.Tasks
open Auth UnitOfWork GraphSearch
open Deadlines (BoundedText textColumn intColumn nullable boundedVarchar)

inductive TaskStatus where
  | pending
  | inProgress
  | completed
  | cancelled
  deriving DecidableEq

inductive TaskPriority where
  | low
  | medium
  | high
  | urgent
  deriving DecidableEq

structure Task where
  id : Uuid
  title : String
  description : Option String
  matterId : Option Uuid
  assignedTo : Option Uuid := none
  createdBy : Uuid
  status : TaskStatus := .pending
  priority : TaskPriority := .medium
  dueDate : Option Day
  completedAt : Option Instant := none
  sortOrder : ℤ := 0
  deriving DecidableEq

structure TaskDependency where
  id : Uuid
  taskId : Uuid
  dependsOnId : Uuid
  deriving DecidableEq

structure TaskChecklist where
  id : Uuid
  taskId : Uuid
  title : String
  isCompleted : Bool := false
  completedAt : Option Instant := none
  sortOrder : ℤ := 0
  deriving DecidableEq

structure WorkflowTemplate where
  id : Uuid
  name : String
  description : Option String
  practiceArea : Option String
  createdBy : Option Uuid
  isActive : Bool := true
  deriving DecidableEq

structure WorkflowTemplateStep where
  id : Uuid
  workflowTemplateId : Uuid
  title : String
  description : Option String
  assignedRole : Option String
  relativeDueDays : Option ℤ
  sortOrder : ℤ
  dependsOnStepOrder : Option ℤ
  deriving DecidableEq

structure TaskDb where
  /-- The ids of the users -/
  users : List Uuid
  /-- The ids of the matters -/
  matters : List Uuid
  tasks : List Task
  dependencies : List TaskDependency
  checklists : List TaskChecklist
  templates : List WorkflowTemplate
  steps : List WorkflowTemplateStep

structure ChecklistItemCreate where
  title : BoundedText 0 500
  sortOrder : ℤ := 0

structure TaskCreate where
  title : BoundedText 0 500
  description : Option String := none
  matterId : Option Uuid := none
  assignedTo : Option Uuid := none
  priority : TaskPriority := .medium
  dueDate : Option Day := none
  checklistItems : Option (List ChecklistItemCreate) := none

structure WorkflowTemplateStepCreate where
  title : BoundedText 0 500
  description : Option String := none
  assignedRole : Option (BoundedText 0 50) := none
  relativeDueDays : Option ℤ := none
  sortOrder : ℤ := 0
  dependsOnStepOrder : Option ℤ := none

structure WorkflowTemplateCreate where
  name : BoundedText 0 255
  description : Option String := none
  practiceArea : Option (BoundedText 0 100) := none
  steps : List WorkflowTemplateStepCreate := []

def getTask (db : TaskDb) (taskId : Uuid) : Option Task :=
  Table.find Task.id taskId db.tasks

/-- Flush a task whose texts fit. -/
def insertTask (db : TaskDb) (task : Task) : Option TaskDb :=
  if task.matterId.all (fun id => id ∈ db.matters) ∧ task.assignedTo.all (fun id => id ∈ db.users) ∧
      task.createdBy ∈ db.users then do
    let tasks ← Table.insert Task.id task db.tasks
    some { db with tasks := tasks }
  else none

def insertChecklist (db : TaskDb) (item : TaskChecklist) : Option TaskDb := do
  let rows ← Table.insert TaskChecklist.id item db.checklists
  some { db with checklists := rows }

/-- The edge of a dependency: the task, and the task it depends on. -/
def TaskDependency.edge (dep : TaskDependency) : Uuid × Uuid :=
  (dep.taskId, dep.dependsOnId)

/-- Flush a dependency. Its two tasks exist, and no other row joins them. -/
def insertDependency (db : TaskDb) (dep : TaskDependency) : Option TaskDb :=
  if (getTask db dep.taskId).isSome ∧ (getTask db dep.dependsOnId).isSome then do
    let rows ← Table.insert TaskDependency.id dep db.dependencies
    let _ ← Table.insert TaskDependency.edge dep db.dependencies
    some { db with dependencies := rows }
  else none

def newTask (data : TaskCreate) (taskId createdBy : Uuid) : Option Task := do
  let title ← boundedVarchar data.title
  let description ← nullable textColumn data.description
  some
    { id := taskId
      title := title
      description := description
      matterId := data.matterId
      assignedTo := data.assignedTo
      createdBy := createdBy
      priority := data.priority
      dueDate := data.dueDate }

def newChecklist (taskId itemId : Uuid) (item : ChecklistItemCreate) : Option TaskChecklist := do
  let title ← boundedVarchar item.title
  let sortOrder ← intColumn item.sortOrder
  some { id := itemId, taskId := taskId, title := title, sortOrder := sortOrder }

/-- `create_task`. The ids of the checklist items are drawn one after the other. -/
def createTask (db : TaskDb) (data : TaskCreate) (taskId createdBy : Uuid) (itemIds : ℕ → Uuid) :
    Option (Task × TaskDb) := do
  let task ← newTask data taskId createdBy
  let db' ← insertTask db task
  let items ← ((data.checklistItems.getD []).mapIdx fun i item =>
    newChecklist taskId (itemIds i) item).mapM id
  let db'' ← items.foldlM insertChecklist db'
  some (task, db'')

/-- `delete_task`: the rows that refer to the task go with it. -/
def deleteTask (db : TaskDb) (taskId : Uuid) : TaskDb :=
  { db with
    tasks := Table.remove Task.id taskId db.tasks
    dependencies := db.dependencies.filter (fun d => d.taskId ≠ taskId ∧ d.dependsOnId ≠ taskId)
    checklists := db.checklists.filter (fun item => item.taskId ≠ taskId) }

def edges (db : TaskDb) : List (Uuid × Uuid) :=
  db.dependencies.map TaskDependency.edge

/-- `_has_circular_dependency` -/
def hasCircularDependency (db : TaskDb) (taskId dependsOnId : Uuid) : Bool :=
  if taskId = dependsOnId then true else searchFrom (edges db) taskId [] [dependsOnId]

def taskNotFound : HttpError := ⟨404, "Task not found"⟩

def dependencyTaskNotFound : HttpError := ⟨404, "Dependency task not found"⟩

def circularReference : HttpError := ⟨400, "Adding this dependency would create a circular reference"⟩

def dependencyExists : HttpError := ⟨409, "This dependency already exists"⟩

/-- `add_dependency` -/
def addDependency (db : TaskDb) (dep : TaskDependency) : Except HttpError TaskDb :=
  match getTask db dep.taskId with
  | none => .error taskNotFound
  | some _ =>
    match getTask db dep.dependsOnId with
    | none => .error dependencyTaskNotFound
    | some _ =>
      if hasCircularDependency db dep.taskId dep.dependsOnId then .error circularReference
      else
        match Table.find TaskDependency.edge dep.edge db.dependencies with
        | some _ => .error dependencyExists
        | none =>
          match insertDependency db dep with
          | none => .error .internal
          | some db' => .ok db'

/-- `remove_dependency` -/
def removeDependency (db : TaskDb) (dependencyId : Uuid) : Except HttpError TaskDb :=
  match Table.find TaskDependency.id dependencyId db.dependencies with
  | none => .error ⟨404, "Dependency not found"⟩
  | some _ =>
    .ok { db with dependencies := Table.remove TaskDependency.id dependencyId db.dependencies }

def newTemplate (data : WorkflowTemplateCreate) (templateId createdBy : Uuid) :
    Option WorkflowTemplate := do
  let name ← boundedVarchar data.name
  let description ← nullable textColumn data.description
  let practiceArea ← nullable boundedVarchar data.practiceArea
  some
    { id := templateId
      name := name
      description := description
      practiceArea := practiceArea
      createdBy := some createdBy }

def newStep (templateId stepId : Uuid) (data : WorkflowTemplateStepCreate) :
    Option WorkflowTemplateStep := do
  let title ← boundedVarchar data.title
  let description ← nullable textColumn data.description
  let assignedRole ← nullable boundedVarchar data.assignedRole
  let relativeDueDays ← nullable intColumn data.relativeDueDays
  let sortOrder ← intColumn data.sortOrder
  let dependsOnStepOrder ← nullable intColumn data.dependsOnStepOrder
  some
    { id := stepId
      workflowTemplateId := templateId
      title := title
      description := description
      assignedRole := assignedRole
      relativeDueDays := relativeDueDays
      sortOrder := sortOrder
      dependsOnStepOrder := dependsOnStepOrder }

def insertStep (db : TaskDb) (step : WorkflowTemplateStep) : Option TaskDb := do
  let rows ← Table.insert WorkflowTemplateStep.id step db.steps
  some { db with steps := rows }

/-- `create_workflow_template` -/
def createWorkflowTemplate (db : TaskDb) (data : WorkflowTemplateCreate) (templateId createdBy : Uuid)
    (stepIds : ℕ → Uuid) : Option (WorkflowTemplate × TaskDb) := do
  let template ← newTemplate data templateId createdBy
  let templates ← Table.insert WorkflowTemplate.id template db.templates
  let steps ← (data.steps.mapIdx fun i step => newStep templateId (stepIds i) step).mapM id
  if createdBy ∈ db.users then do
    let db' ← steps.foldlM insertStep { db with templates := templates }
    some (template, db')
  else none

/-- `template.steps`, in the order of the relationship -/
def templateSteps (db : TaskDb) (templateId : Uuid) : List WorkflowTemplateStep :=
  (db.steps.filter (fun s => s.workflowTemplateId = templateId)).mergeSort
    (fun s s' => s.sortOrder ≤ s'.sortOrder)

/-- The ids an application of a template draws, and its `date.today()`. -/
structure ApplyDraws where
  taskIds : ℕ → Uuid
  dependencyIds : ℕ → Uuid
  today : Day

/-- The task of one step, nothing for an `OverflowError`. -/
def stepTask (matterId createdBy : Uuid) (today : Day) (taskId : Uuid) (step : WorkflowTemplateStep) :
    Option Task := do
  let dueDate ← nullable today.add step.relativeDueDays
  some
    { id := taskId
      title := step.title
      description := step.description
      matterId := some matterId
      createdBy := createdBy
      dueDate := dueDate
      sortOrder := step.sortOrder }

/-- The tasks of the steps in their order. -/
def stepTasks (steps : List WorkflowTemplateStep) (matterId createdBy : Uuid) (draws : ApplyDraws) :
    Option (List Task) :=
  (steps.mapIdx fun i step => stepTask matterId createdBy draws.today (draws.taskIds i) step).mapM id

/-- `step_to_task`: the last task of each sort order -/
def stepToTask (tasks : List Task) (sortOrder : ℤ) : Option Task :=
  Table.find Task.sortOrder sortOrder tasks.reverse

/-- The tasks a step joins, if the step it depends on has one. -/
def stepEdge (tasks : List Task) (step : WorkflowTemplateStep) : Option (Uuid × Uuid) := do
  let order ← step.dependsOnStepOrder
  let dependsOnTask ← stepToTask tasks order
  let task ← stepToTask tasks step.sortOrder
  some (task.id, dependsOnTask.id)

/-- The dependencies that the steps ask for. -/
def stepDependencies (steps : List WorkflowTemplateStep) (tasks : List Task) (draws : ApplyDraws) :
    List TaskDependency :=
  (steps.filterMap (stepEdge tasks)).mapIdx fun i edge => ⟨draws.dependencyIds i, edge.1, edge.2⟩

/-- Flush the tasks, then the dependencies. -/
def insertApplied (db : TaskDb) (tasks : List Task) (dependencies : List TaskDependency) :
    Option TaskDb := do
  let db' ← tasks.foldlM insertTask db
  dependencies.foldlM insertDependency db'

/-- `apply_workflow_template` -/
def applyWorkflowTemplate (db : TaskDb) (templateId matterId createdBy : Uuid) (draws : ApplyDraws) :
    Except HttpError (List Task × TaskDb) :=
  match Table.find WorkflowTemplate.id templateId db.templates with
  | none => .error ⟨404, "Workflow template not found"⟩
  | some _ =>
    match stepTasks (templateSteps db templateId) matterId createdBy draws with
    | none => .error .internal
    | some tasks =>
      match insertApplied db tasks (stepDependencies (templateSteps db templateId) tasks draws) with
      | none => .error .internal
      | some db' => .ok (tasks, db')

inductive TaskCall where
  | createTask (data : TaskCreate) (taskId createdBy : Uuid) (itemIds : ℕ → Uuid)
  | addDependency (dep : TaskDependency)
  | removeDependency (dependencyId : Uuid)
  | deleteTask (taskId : Uuid)
  | createWorkflowTemplate (data : WorkflowTemplateCreate) (templateId createdBy : Uuid)
      (stepIds : ℕ → Uuid)
  | applyWorkflowTemplate (templateId matterId createdBy : Uuid) (draws : ApplyDraws)

structure TaskDependencyResponse where
  dependency : TaskDependency
  dependsOnTitle : Option String

structure TaskResponse where
  task : Task
  checklist : List TaskChecklist
  dependencies : List TaskDependencyResponse

inductive TaskReply where
  | task (response : TaskResponse)
  | tasks (responses : List TaskResponse)
  | dependency (response : TaskDependencyResponse)
  | template (template : WorkflowTemplate) (steps : List WorkflowTemplateStep)
  | noContent

def dependencyToResponse (db : TaskDb) (dep : TaskDependency) : TaskDependencyResponse :=
  ⟨dep, (getTask db dep.dependsOnId).map Task.title⟩

def taskToResponse (db : TaskDb) (task : Task) : TaskResponse where
  task := task
  checklist := (db.checklists.filter (fun item => item.taskId = task.id)).mergeSort
    (fun item item' => item.sortOrder ≤ item'.sortOrder)
  dependencies := (db.dependencies.filter (fun d => d.taskId = task.id)).map (dependencyToResponse db)

def taskHandle (call : TaskCall) : Handler TaskDb HttpError TaskReply := fun db =>
  match call with
  | .createTask data taskId createdBy itemIds =>
    match createTask db data taskId createdBy itemIds with
    | none => (.error .internal, db)
    | some (task, db') => (.ok (.task (taskToResponse db' task)), db')
  | .addDependency dep =>
    match addDependency db dep with
    | .error error => (.error error, db)
    | .ok db' => (.ok (.dependency (dependencyToResponse db' dep)), db')
  | .removeDependency dependencyId =>
    match removeDependency db dependencyId with
    | .error error => (.error error, db)
    | .ok db' => (.ok .noContent, db')
  | .deleteTask taskId =>
    match getTask db taskId with
    | none => (.error taskNotFound, db)
    | some _ => (.ok .noContent, deleteTask db taskId)
  | .createWorkflowTemplate data templateId createdBy stepIds =>
    match createWorkflowTemplate db data templateId createdBy stepIds with
    | none => (.error .internal, db)
    | some (template, db') => (.ok (.template template (templateSteps db' templateId)), db')
  | .applyWorkflowTemplate templateId matterId createdBy draws =>
    match applyWorkflowTemplate db templateId matterId createdBy draws with
    | .error error => (.error error, db)
    | .ok (tasks, db') => (.ok (.tasks (tasks.map (taskToResponse db'))), db')

end LegalForge.Tasks
