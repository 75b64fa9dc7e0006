import LegalForge.ReadCommitted
import LegalForge.StampedStatus
import LegalForge.TaskAcyclicity

/-! Completing tasks and checklist items, by requests that run at the same time. A session
works on the row it has loaded, and writes the columns that it has changed. -/
namespace LegalForge.Tasks
open Auth Transition ReadCommitted UnitOfWork StampedStatus
open Deadlines (BoundedText textColumn boundedVarchar assign assignNullable)

/-- `TaskUpdate`: a field that is not sent is left as it is. -/
structure TaskUpdate where
  title : Option (Option (BoundedText 0 500)) := none
  description : Option (Option String) := none
  assignedTo : Option (Option Uuid) := none
  status : Option (Option TaskStatus) := none
  priority : Option (Option TaskPriority) := none
  dueDate : Option (Option Day) := none

/-- `completed_at`, before the fields of the request are set. -/
def completedAtAfter (task : Task) (status : Option (Option TaskStatus)) (now : Instant) :
    Option Instant :=
  match status with
  | none => task.completedAt
  | some status =>
    if status = some .completed ∧ task.status ≠ .completed then some now
    else if status ≠ some .completed then none
    else task.completedAt

/-- The row as `update_task` leaves it, nothing where the flush raises. -/
def setTask (users : List Uuid) (task : Task) (data : TaskUpdate) (now : Instant) : Option Task := do
  let title ← assign boundedVarchar task.title data.title
  let description ← assignNullable textColumn task.description data.description
  let assignedTo ← assignNullable (fun id => if id ∈ users then some id else none) task.assignedTo
    data.assignedTo
  let status ← assign some task.status data.status
  let priority ← assign some task.priority data.priority
  return { task with
    title := title
    description := description
    assignedTo := assignedTo
    status := status
    priority := priority
    dueDate := data.dueDate.getD task.dueDate
    completedAt := completedAtAfter task data.status now }

/-- The row as `update_checklist_item` leaves it. -/
def setItem (item : TaskChecklist) (isCompleted : Bool) (now : Instant) : TaskChecklist :=
  { item with
    isCompleted := isCompleted
    completedAt := if isCompleted then some now else none }

/-- The UPDATE of a task writes the columns that have changed since it was loaded. -/
def assignTask (loaded changed current : Task) : Task where
  id := current.id
  title := Table.assigned loaded.title changed.title current.title
  description := Table.assigned loaded.description changed.description current.description
  matterId := current.matterId
  assignedTo := Table.assigned loaded.assignedTo changed.assignedTo current.assignedTo
  createdBy := current.createdBy
  status := Table.assigned loaded.status changed.status current.status
  priority := Table.assigned loaded.priority changed.priority current.priority
  dueDate := Table.assigned loaded.dueDate changed.dueDate current.dueDate
  completedAt := Table.assigned loaded.completedAt changed.completedAt current.completedAt
  sortOrder := current.sortOrder

def assignItem (loaded changed current : TaskChecklist) : TaskChecklist :=
  { current with
    isCompleted := Table.assigned loaded.isCompleted changed.isCompleted current.isCompleted
    completedAt := Table.assigned loaded.completedAt changed.completedAt current.completedAt }

/-- The requests that add and delete rows. -/
inductive TaskEdit where
  | call (call : TaskCall)
  | createChecklistItem (taskId itemId : Uuid) (item : ChecklistItemCreate)
  | deleteChecklistItem (itemId : Uuid)
  | deleteWorkflowTemplate (templateId : Uuid)

def itemNotFound : HttpError := ⟨404, "Checklist item not found"⟩

/-- `create_checklist_item` -/
def createChecklistItem (db : TaskDb) (taskId itemId : Uuid) (item : ChecklistItemCreate) :
    Except HttpError TaskDb :=
  match getTask db taskId with
  | none => .error taskNotFound
  | some _ =>
    match (newChecklist taskId itemId item).bind (insertChecklist db) with
    | none => .error .internal
    | some db' => .ok db'

/-- `delete_checklist_item` -/
def deleteChecklistItem (db : TaskDb) (itemId : Uuid) : Except HttpError TaskDb :=
  match Table.find TaskChecklist.id itemId db.checklists with
  | none => .error itemNotFound
  | some _ => .ok { db with checklists := Table.remove TaskChecklist.id itemId db.checklists }

/-- `delete_workflow_template`: its steps go with it. -/
def deleteWorkflowTemplate (db : TaskDb) (templateId : Uuid) : Except HttpError TaskDb :=
  match Table.find WorkflowTemplate.id templateId db.templates with
  | none => .error ⟨404, "Workflow template not found"⟩
  | some _ =>
    .ok { db with
      templates := Table.remove WorkflowTemplate.id templateId db.templates
      steps := db.steps.filter (fun s => s.workflowTemplateId ≠ templateId) }

/-- The rows after a request, if it succeeds. -/
def applyEdit (db : TaskDb) : TaskEdit → Except HttpError TaskDb
  | .call call =>
    match taskHandle call db with
    | (.error error, _) => .error error
    | (.ok _, db') => .ok db'
  | .createChecklistItem taskId itemId item => createChecklistItem db taskId itemId item
  | .deleteChecklistItem itemId => deleteChecklistItem db itemId
  | .deleteWorkflowTemplate templateId => deleteWorkflowTemplate db templateId

/-- Where one request stands. -/
inductive Editor where
  | idle
  | loadedTask (task : Task) (data : TaskUpdate)
  | flushedTask (loaded changed : Task)
  | loadedItem (item : TaskChecklist) (isCompleted : Bool)
  | flushedItem (loaded changed : TaskChecklist)
  /-- A request whose rows are there for the others when it commits. -/
  | edited (edit : TaskEdit)
  | finished
  | failed

inductive EditorStatement where
  /-- `get_task` of a PUT -/
  | selectTask (taskId : Uuid) (data : TaskUpdate)
  | flushTask (now : Instant)
  /-- `get_checklist_item` of a PUT -/
  | selectItem (itemId : Uuid) (isCompleted : Bool)
  | flushItem (now : Instant)
  | edit (edit : TaskEdit)

/-- A row that an UPDATE or a DELETE locks. -/
inductive TaskRow where
  | task (id : Uuid)
  | item (id : Uuid)
  deriving DecidableEq

def editorProgram : Program TaskDb Editor EditorStatement TaskRow where
  locks db m a :=
    match m, a with
    | .loadedTask task data, .flushTask now =>
      -- nothing is sent for a row in which no column has changed
      if setTask db.users task data now = some task then [] else [.task task.id]
    | .loadedItem item isCompleted, .flushItem now =>
      if setItem item isCompleted now = item then [] else [.item item.id]
    | .idle, .edit (.call (.deleteTask taskId)) =>
      .task taskId :: (db.checklists.filter (fun item => item.taskId = taskId)).map
        (fun item => TaskRow.item item.id)
    | .idle, .edit (.deleteChecklistItem itemId) => [.item itemId]
    | _, _ => []
  stmt db m a :=
    match m, a with
    | .idle, .selectTask taskId data =>
      match getTask db taskId with
      | none => some .failed
      | some task => some (.loadedTask task data)
    | .loadedTask task data, .flushTask now =>
      match setTask db.users task data now with
      | none => some .failed
      | some changed =>
        -- without the row the UPDATE raises, and else the refresh
        if (getTask db task.id).isSome then some (.flushedTask task changed) else some .failed
    | .idle, .selectItem itemId isCompleted =>
      match Table.find TaskChecklist.id itemId db.checklists with
      | none => some .failed
      | some item => some (.loadedItem item isCompleted)
    | .loadedItem item isCompleted, .flushItem now =>
      if (Table.find TaskChecklist.id item.id db.checklists).isSome then
        some (.flushedItem item (setItem item isCompleted now))
      else some .failed
    | .idle, .edit edit => some (.edited edit)
    | _, _ => none
  publish db m :=
    match m with
    | .flushedTask loaded changed =>
      some ({ db with
        tasks := Table.alter Task.id loaded.id (assignTask loaded changed) db.tasks }, .finished)
    | .flushedItem loaded changed =>
      some ({ db with
        checklists := Table.alter TaskChecklist.id loaded.id (assignItem loaded changed)
          db.checklists }, .finished)
    | .edited edit =>
      match applyEdit db edit with
      | .error _ => none
      | .ok db' => some (db', .finished)
    | _ => none
  abort _ := .failed

abbrev EditorState (Tx : Type) := State TaskDb Editor TaskRow Tx
abbrev EditorLabel (Tx : Type) := Label EditorStatement Tx

def TaskStamped (task : Task) : Prop :=
  Stamped TaskStatus.completed task.status task.completedAt

def ItemStamped (item : TaskChecklist) : Prop :=
  Stamped true item.isCompleted item.completedAt

/-- A task, and an item of a checklist, has a completion time exactly if it is completed. -/
def CompletionStamped (db : TaskDb) : Prop :=
  (∀ task ∈ db.tasks, TaskStamped task) ∧ ∀ item ∈ db.checklists, ItemStamped item

/-- No row that this session commits to has been completed or reopened since it was loaded,
unless the session does either itself or writes neither column. -/
def KeepsStamps (db : TaskDb) : Editor → Prop
  | .flushedTask loaded changed => ∀ current ∈ db.tasks, current.id = loaded.id →
      (loaded.status = .completed ↔ changed.status = .completed) →
        (loaded.status = .completed ↔ current.status = .completed) ∨
          (changed.status = loaded.status ∧ changed.completedAt = loaded.completedAt)
  | .flushedItem loaded changed => ∀ current ∈ db.checklists, current.id = loaded.id →
      (loaded.isCompleted = true ↔ changed.isCompleted = true) →
        (loaded.isCompleted = true ↔ current.isCompleted = true) ∨
          (changed.isCompleted = loaded.isCompleted ∧ changed.completedAt = loaded.completedAt)
  | _ => True

section
variable {db db' : TaskDb}

/-- Every row is an old one, or begins without a completion. -/
def NewRowsOpen (db db' : TaskDb) : Prop :=
  (∀ task ∈ db'.tasks, task ∈ db.tasks ∨ (task.status = .pending ∧ task.completedAt = none)) ∧
    ∀ item ∈ db'.checklists, item ∈ db.checklists ∨
      (item.isCompleted = false ∧ item.completedAt = none)

theorem NewRowsOpen.stamped (h : NewRowsOpen db db') (hdb : CompletionStamped db) :
    CompletionStamped db' := by
  constructor
  · intro task htask
    rcases h.1 task htask with hold | ⟨hstatus, htime⟩
    · exact hdb.1 task hold
    · rw [TaskStamped, hstatus, htime]
      exact stamped_open (by decide)
  · intro item hitem
    rcases h.2 item hitem with hold | ⟨hcompleted, htime⟩
    · exact hdb.2 item hold
    · rw [ItemStamped, hcompleted, htime]
      exact stamped_open Bool.false_ne_true

theorem NewRowsOpen.of_subset (htasks : db'.tasks ⊆ db.tasks)
    (hitems : db'.checklists ⊆ db.checklists) : NewRowsOpen db db' :=
  ⟨fun _ htask => Or.inl (htasks htask), fun _ hitem => Or.inl (hitems hitem)⟩

theorem newChecklist_open {taskId itemId : Uuid} {data : ChecklistItemCreate} {item : TaskChecklist}
    (h : newChecklist taskId itemId data = some item) :
    item.isCompleted = false ∧ item.completedAt = none := by
  obtain ⟨title, -, h⟩ := Option.bind_eq_some_iff.mp h
  obtain ⟨sortOrder, -, h⟩ := Option.bind_eq_some_iff.mp h
  obtain rfl := Option.some.inj h
  exact ⟨rfl, rfl⟩

theorem insertChecklist_eq_some {item : TaskChecklist} (h : insertChecklist db item = some db') :
    db' = { db with checklists := db.checklists++[item] } := by
  obtain ⟨rows, hinsert, h⟩ := Option.bind_eq_some_iff.mp h
  obtain ⟨-, rfl⟩ := Table.insert_eq_some_iff.mp hinsert
  exact (Option.some.inj h).symm

theorem insertChecklists_rows {items : List TaskChecklist}
    (h : items.foldlM insertChecklist db = some db') :
    db' = { db with checklists := db.checklists++items } := by
  induction items generalizing db with
  | nil =>
    obtain rfl := Option.some.inj h
    rw [List.append_nil]
  | cons item items ih =>
    obtain ⟨db₁, hinsert, hrest⟩ := exec_cons_eq_some.mp h
    obtain rfl := insertChecklist_eq_some hinsert
    rw [ih hrest, List.append_assoc]
    rfl

theorem newTask_open {data : TaskCreate} {taskId createdBy : Uuid} {task : Task}
    (h : newTask data taskId createdBy = some task) :
    task.status = .pending ∧ task.completedAt = none := by
  obtain ⟨title, -, h⟩ := Option.bind_eq_some_iff.mp h
  obtain ⟨description, -, h⟩ := Option.bind_eq_some_iff.mp h
  obtain rfl := Option.some.inj h
  exact ⟨rfl, rfl⟩

theorem stepTask_open {matterId createdBy taskId : Uuid} {today : Day} {step : WorkflowTemplateStep}
    {task : Task} (h : stepTask matterId createdBy today taskId step = some task) :
    task.status = .pending ∧ task.completedAt = none := by
  obtain ⟨dueDate, -, h⟩ := Option.bind_eq_some_iff.mp h
  obtain rfl := Option.some.inj h
  exact ⟨rfl, rfl⟩

/-- The rows of a list that is made one by one. -/
theorem exists_of_mem_mapIdx {α β : Type} {f : ℕ → α → Option β} {rows : List α} {results : List β}
    (h : (rows.mapIdx f).mapM id = some results) {r : β} (hr : r ∈ results) :
    ∃ i row, f i row = some r := by
  have hmem : some r ∈ rows.mapIdx f := by
    rw [mapM_id_eq_some h]
    exact List.mem_map_of_mem hr
  obtain ⟨i, hi, hrow⟩ := List.mem_mapIdx.mp hmem
  exact ⟨i, _, hrow⟩

theorem createTask_newRowsOpen {data : TaskCreate} {taskId createdBy : Uuid} {itemIds : ℕ → Uuid}
    {task : Task} (h : createTask db data taskId createdBy itemIds = some (task, db')) :
    NewRowsOpen db db' := by
  obtain ⟨task', htask, h⟩ := Option.bind_eq_some_iff.mp h
  obtain ⟨db₁, hinsert, h⟩ := Option.bind_eq_some_iff.mp h
  obtain ⟨items, hitems, h⟩ := Option.bind_eq_some_iff.mp h
  obtain ⟨db₂, hrows, h⟩ := Option.bind_eq_some_iff.mp h
  obtain ⟨-, rfl⟩ := Prod.mk.inj (Option.some.inj h)
  obtain ⟨-, rfl⟩ := insertTask_eq_some hinsert
  obtain rfl := insertChecklists_rows hrows
  constructor
  · intro row hrow
    rcases List.mem_append.mp hrow with hold | hnew
    · exact Or.inl hold
    · obtain rfl := List.mem_singleton.mp hnew
      exact Or.inr (newTask_open htask)
  · intro row hrow
    rcases List.mem_append.mp hrow with hold | hnew
    · exact Or.inl hold
    · obtain ⟨i, data, hitem⟩ := exists_of_mem_mapIdx hitems hnew
      exact Or.inr (newChecklist_open hitem)

theorem insertDependencies_rows {deps : List TaskDependency}
    (h : deps.foldlM insertDependency db = some db') :
    db'.tasks = db.tasks ∧ db'.checklists = db.checklists := by
  induction deps generalizing db with
  | nil =>
    obtain rfl := Option.some.inj h
    exact ⟨rfl, rfl⟩
  | cons dep deps ih =>
    obtain ⟨db₁, hinsert, hrest⟩ := exec_cons_eq_some.mp h
    obtain ⟨-, -, rfl⟩ := insertDependency_eq_some hinsert
    have hrows := ih hrest
    exact hrows

theorem insertApplied_newRowsOpen {steps : List WorkflowTemplateStep} {matterId createdBy : Uuid}
    {draws : ApplyDraws} {tasks : List Task} {deps : List TaskDependency}
    (htasks : stepTasks steps matterId createdBy draws = some tasks)
    (h : insertApplied db tasks deps = some db') : NewRowsOpen db db' := by
  obtain ⟨db₁, hinsert, h⟩ := Option.bind_eq_some_iff.mp h
  obtain ⟨rfl, -, -⟩ := insertTasks_eq_some hinsert
  obtain ⟨hrows, hitems⟩ := insertDependencies_rows h
  constructor
  · intro task htask
    rw [hrows] at htask
    rcases List.mem_append.mp htask with hold | hnew
    · exact Or.inl hold
    · obtain ⟨i, step, hstep⟩ := exists_of_mem_mapIdx htasks hnew
      exact Or.inr (stepTask_open hstep)
  · intro item hitem
    rw [hitems] at hitem
    exact Or.inl hitem

/-- No request of the router but the two updates makes a row complete. -/
theorem taskHandle_newRowsOpen {call : TaskCall} {reply : TaskReply}
    (h : taskHandle call db = (.ok reply, db')) : NewRowsOpen db db' := by
  cases call with
  | createTask data taskId createdBy itemIds =>
    simp only [taskHandle] at h
    split at h
    · cases h
    · rename_i task db₁ hcreate
      obtain ⟨-, rfl⟩ := Prod.mk.inj h
      exact createTask_newRowsOpen hcreate
  | addDependency dep =>
    simp only [taskHandle] at h
    split at h
    · cases h
    · rename_i db₁ hadd
      obtain ⟨-, rfl⟩ := Prod.mk.inj h
      obtain ⟨-, -, -, -, hinsert⟩ := addDependency_eq_ok hadd
      obtain ⟨-, -, rfl⟩ := insertDependency_eq_some hinsert
      exact .of_subset (List.Subset.refl _) (List.Subset.refl _)
  | removeDependency dependencyId =>
    simp only [taskHandle, removeDependency] at h
    split at h
    · cases h
    · rename_i db₁ hremove
      obtain ⟨-, rfl⟩ := Prod.mk.inj h
      split at hremove
      · cases hremove
      · obtain rfl := Except.ok.inj hremove
        exact .of_subset (List.Subset.refl _) (List.Subset.refl _)
  | deleteTask taskId =>
    simp only [taskHandle] at h
    split at h
    · cases h
    · obtain ⟨-, rfl⟩ := Prod.mk.inj h
      exact .of_subset (List.filter_subset_self _) (List.filter_subset_self _)
  | createWorkflowTemplate data templateId createdBy stepIds =>
    simp only [taskHandle] at h
    split at h
    · cases h
    · rename_i template db₁ hcreate
      obtain ⟨-, rfl⟩ := Prod.mk.inj h
      obtain ⟨template', -, h⟩ := Option.bind_eq_some_iff.mp hcreate
      obtain ⟨templates, -, h⟩ := Option.bind_eq_some_iff.mp h
      obtain ⟨steps, -, h⟩ := Option.bind_eq_some_iff.mp h
      split_ifs at h
      obtain ⟨db₂, hsteps, h⟩ := Option.bind_eq_some_iff.mp h
      obtain ⟨-, rfl⟩ := Prod.mk.inj (Option.some.inj h)
      obtain ⟨rows, rfl⟩ := insertSteps_eq_some hsteps
      exact .of_subset (List.Subset.refl _) (List.Subset.refl _)
  | applyWorkflowTemplate templateId matterId createdBy draws =>
    simp only [taskHandle] at h
    split at h
    · cases h
    · rename_i tasks db₁ happly
      obtain ⟨-, rfl⟩ := Prod.mk.inj h
      obtain ⟨-, htasks, hinsert⟩ := applyWorkflowTemplate_eq_ok.mp happly
      exact insertApplied_newRowsOpen htasks hinsert

theorem applyEdit_newRowsOpen {edit : TaskEdit} (h : applyEdit db edit = .ok db') :
    NewRowsOpen db db' := by
  cases edit with
  | call call =>
    simp only [applyEdit] at h
    split at h
    · cases h
    · rename_i reply db₁ hcall
      obtain rfl := Except.ok.inj h
      exact taskHandle_newRowsOpen hcall
  | createChecklistItem taskId itemId item =>
    simp only [applyEdit, createChecklistItem] at h
    split at h
    · cases h
    · split at h
      · cases h
      · rename_i db₁ hinsert
        obtain rfl := Except.ok.inj h
        obtain ⟨row, hrow, hinsert⟩ := Option.bind_eq_some_iff.mp hinsert
        obtain rfl := insertChecklist_eq_some hinsert
        refine ⟨fun task htask => Or.inl htask, fun other hother => ?_⟩
        rcases List.mem_append.mp hother with hold | hnew
        · exact Or.inl hold
        · obtain rfl := List.mem_singleton.mp hnew
          exact Or.inr (newChecklist_open hrow)
  | deleteChecklistItem itemId =>
    simp only [applyEdit, deleteChecklistItem] at h
    split at h
    · cases h
    · obtain rfl := Except.ok.inj h
      exact .of_subset (List.Subset.refl _) (List.filter_subset_self _)
  | deleteWorkflowTemplate templateId =>
    simp only [applyEdit, deleteWorkflowTemplate] at h
    split at h
    · cases h
    · obtain rfl := Except.ok.inj h
      exact .of_subset (List.Subset.refl _) (List.Subset.refl _)

end

/-! The updates. -/

section
variable {db db' : TaskDb}

/-- `update_task` keeps the two columns together, from a row that has them together. -/
theorem setTask_stamped {users : List Uuid} {task changed : Task} {data : TaskUpdate} {now : Instant}
    (htask : TaskStamped task) (h : setTask users task data now = some changed) :
    changed.id = task.id ∧ TaskStamped changed := by
  obtain ⟨title, -, h⟩ := Option.bind_eq_some_iff.mp h
  obtain ⟨description, -, h⟩ := Option.bind_eq_some_iff.mp h
  obtain ⟨assignedTo, -, h⟩ := Option.bind_eq_some_iff.mp h
  obtain ⟨status, hstatus, h⟩ := Option.bind_eq_some_iff.mp h
  obtain ⟨priority, -, h⟩ := Option.bind_eq_some_iff.mp h
  obtain rfl := Option.some.inj h
  refine ⟨rfl, ?_⟩
  -- the time is set when the task becomes completed, and cleared by any other status sent
  show Stamped TaskStatus.completed status (completedAtAfter task data.status now)
  cases hsent : data.status with
  | none =>
    rw [hsent] at hstatus
    obtain rfl := Option.some.inj hstatus
    exact htask
  | some sent =>
    rw [hsent] at hstatus
    cases sent with
    | none => cases hstatus
    | some sent =>
      obtain rfl := Option.some.inj hstatus
      unfold completedAtAfter
      dsimp only
      by_cases hcompleted : sent = .completed
      · subst hcompleted
        by_cases hbefore : task.status = .completed
        · rw [if_neg fun h => h.2 hbefore, if_neg fun h => h rfl]
          exact iff_of_true rfl (htask.mp hbefore)
        · rw [if_pos ⟨rfl, hbefore⟩]
          exact stamped_final now
      · have hne : some sent ≠ some TaskStatus.completed := fun heq => hcompleted (Option.some.inj heq)
        rw [if_neg fun h => hne h.1, if_pos hne]
        exact stamped_open hcompleted

theorem setItem_stamped (item : TaskChecklist) (isCompleted : Bool) (now : Instant) :
    ItemStamped (setItem item isCompleted now) := by
  cases isCompleted
  · exact stamped_open Bool.false_ne_true
  · exact stamped_final now

/-- A session has loaded, and made, rows that have their two columns together. -/
def EditorStamped : Editor → Prop
  | .loadedTask task _ => TaskStamped task
  | .flushedTask loaded changed => TaskStamped loaded ∧ TaskStamped changed
  | .loadedItem item _ => ItemStamped item
  | .flushedItem loaded changed => ItemStamped loaded ∧ ItemStamped changed
  | _ => True

theorem editorStamped_stmt {m m' : Editor} {a : EditorStatement} (hdb : CompletionStamped db)
    (hm : EditorStamped m) (h : editorProgram.stmt db m a = some m') : EditorStamped m' := by
  -- the five statements that a stage answers; what is loaded comes from the committed tables
  cases m <;> cases a <;> try cases h
  case idle.selectTask taskId data =>
    simp only [editorProgram] at h
    cases hfind : getTask db taskId with
    | none =>
      rw [hfind] at h
      obtain rfl := Option.some.inj h
      trivial
    | some task =>
      rw [hfind] at h
      obtain rfl := Option.some.inj h
      exact hdb.1 task (Table.mem_of_find hfind)
  case loadedTask.flushTask task data now =>
    simp only [editorProgram] at h
    cases hset : setTask db.users task data now with
    | none =>
      rw [hset] at h
      obtain rfl := Option.some.inj h
      trivial
    | some changed =>
      rw [hset] at h
      dsimp only at h
      split_ifs at h
      · obtain rfl := Option.some.inj h
        exact ⟨hm, (setTask_stamped hm hset).2⟩
      · obtain rfl := Option.some.inj h
        trivial
  case idle.selectItem itemId isCompleted =>
    simp only [editorProgram] at h
    cases hfind : Table.find TaskChecklist.id itemId db.checklists with
    | none =>
      rw [hfind] at h
      obtain rfl := Option.some.inj h
      trivial
    | some item =>
      rw [hfind] at h
      obtain rfl := Option.some.inj h
      exact hdb.2 item (Table.mem_of_find hfind)
  case loadedItem.flushItem item isCompleted now =>
    simp only [editorProgram] at h
    split_ifs at h
    · obtain rfl := Option.some.inj h
      exact ⟨hm, setItem_stamped item isCompleted now⟩
    · obtain rfl := Option.some.inj h
      trivial
  case idle.edit edit =>
    trivial

theorem publish_finished {m m' : Editor} (h : editorProgram.publish db m = some (db', m')) :
    m' = .finished := by
  cases m with
  | flushedTask loaded changed => exact ((Prod.mk.inj (Option.some.inj h)).2).symm
  | flushedItem loaded changed => exact ((Prod.mk.inj (Option.some.inj h)).2).symm
  | edited edit =>
    simp only [editorProgram] at h
    cases hedit : applyEdit db edit with
    | error error =>
      rw [hedit] at h
      cases h
    | ok db₁ =>
      rw [hedit] at h
      exact ((Prod.mk.inj (Option.some.inj h)).2).symm
  | idle => cases h
  | loadedTask task data => cases h
  | loadedItem item isCompleted => cases h
  | finished => cases h
  | failed => cases h

/-- A commit leaves the two columns together exactly if it overwrites no completion and no
reopening that it has not seen. -/
theorem completionStamped_commit_iff {m m' : Editor} (hdb : CompletionStamped db)
    (hm : EditorStamped m) (h : editorProgram.publish db m = some (db', m')) :
    CompletionStamped db' ↔ KeepsStamps db m := by
  cases m with
  | flushedTask loaded changed =>
    obtain ⟨rfl, -⟩ := Prod.mk.inj (Option.some.inj h)
    have hrow : ∀ current ∈ db.tasks, TaskStamped (assignTask loaded changed current) ↔
        ((loaded.status = .completed ↔ changed.status = .completed) →
          (loaded.status = .completed ↔ current.status = .completed) ∨
            (changed.status = loaded.status ∧ changed.completedAt = loaded.completedAt)) :=
      fun current hcurrent => stamped_assigned_iff hm.1 hm.2 (hdb.1 current hcurrent)
    -- the checklists are as before, and of the tasks only one is written
    refine (and_iff_left hdb.2).trans ((forall_alter_iff hdb.1).trans ?_)
    apply forall₂_congr
    exact fun current hcurrent => imp_congr_right fun _ => hrow current hcurrent
  | flushedItem loaded changed =>
    obtain ⟨rfl, -⟩ := Prod.mk.inj (Option.some.inj h)
    have hrow : ∀ current ∈ db.checklists, ItemStamped (assignItem loaded changed current) ↔
        ((loaded.isCompleted = true ↔ changed.isCompleted = true) →
          (loaded.isCompleted = true ↔ current.isCompleted = true) ∨
            (changed.isCompleted = loaded.isCompleted ∧ changed.completedAt = loaded.completedAt)) :=
      fun current hcurrent => stamped_assigned_iff hm.1 hm.2 (hdb.2 current hcurrent)
    refine (and_iff_right hdb.1).trans ((forall_alter_iff hdb.2).trans ?_)
    apply forall₂_congr
    exact fun current hcurrent => imp_congr_right fun _ => hrow current hcurrent
  | edited edit =>
    simp only [editorProgram] at h
    cases hedit : applyEdit db edit with
    | error error =>
      rw [hedit] at h
      cases h
    | ok db₁ =>
      rw [hedit] at h
      obtain ⟨rfl, -⟩ := Prod.mk.inj (Option.some.inj h)
      exact iff_of_true ((applyEdit_newRowsOpen hedit).stamped hdb) trivial
  | idle => cases h
  | loadedTask task data => cases h
  | loadedItem item isCompleted => cases h
  | finished => cases h
  | failed => cases h

end

/-- Two sessions load a pending task, one completes it, and the other starts it. -/
def completedMeanwhile : List (EditorLabel Bool) :=
  [.stmt false (.selectTask 31 { status := some (some .completed) }),
   .stmt true (.selectTask 31 { status := some (some .inProgress) }),
   .stmt false (.flushTask 1700), .commit false, .stmt true (.flushTask 1701), .commit true]

def pendingTask : TaskDb where
  users := [30]
  matters := []
  tasks := [{ id := 31, title := "File the answer", description := none, matterId := none,
              createdBy := 30, dueDate := none }]
  dependencies := []
  checklists := []
  templates := []
  steps := []

-- the task is in progress, and keeps the time of its completion
example : (exec (step editorProgram) (start pendingTask .idle) completedMeanwhile).map
    (fun s => s.committed.tasks.map fun task => (task.status, task.completedAt)) =
      some [(.inProgress, some 1700)] := by
  decide

end LegalForge.Tasks
