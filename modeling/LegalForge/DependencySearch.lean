import LegalForge.TaskAcyclicity

/-! The search of `_has_circular_dependency` by the rounds of its loop. -/
namespace LegalForge.Tasks
open GraphSearch Relation

/-- `_has_circular_dependency`, if so many rounds of the loop are enough for it. -/
def hasCircularDependencyIn (rounds : ℕ) (db : TaskDb) (taskId dependsOnId : Uuid) : Option Bool :=
  if taskId = dependsOnId then some true
  else searchRounds (edges db) taskId rounds [] [dependsOnId]

/-- A row makes the one task depend on the other. -/
def DependsOn (db : TaskDb) (x y : Uuid) : Prop :=
  ∃ dep ∈ db.dependencies, dep.taskId = x ∧ dep.dependsOnId = y

theorem edge_edges {db : TaskDb} {x y : Uuid} : Edge (edges db) x y ↔ DependsOn db x y := by
  simp [Edge, edges, TaskDependency.edge, DependsOn]

theorem length_edges (db : TaskDb) : (edges db).length = db.dependencies.length :=
  List.length_map _

/-- The loop takes a round for each dependency and one more, and leaves nothing to a further one. -/
theorem hasCircularDependencyIn_eq {rounds : ℕ} {db : TaskDb} {taskId dependsOnId : Uuid}
    (h : db.dependencies.length+1 ≤ rounds) :
    hasCircularDependencyIn rounds db taskId dependsOnId =
      some (hasCircularDependency db taskId dependsOnId) := by
  unfold hasCircularDependencyIn hasCircularDependency
  split_ifs
  · rfl
  · apply searchRounds_singleton
    rw [length_edges]
    exact h

/-- Whatever the dependencies are, the search terminates and answers whether the task is the
other one or is reached from it. -/
theorem hasCircularDependency_decides (db : TaskDb) (taskId dependsOnId : Uuid) :
    ∃ answer, (∀ rounds, db.dependencies.length+1 ≤ rounds →
        hasCircularDependencyIn rounds db taskId dependsOnId = some answer) ∧
      (answer = true ↔ taskId = dependsOnId ∨ TransGen (DependsOn db) dependsOnId taskId) := by
  refine ⟨hasCircularDependency db taskId dependsOnId,
    fun rounds hrounds => hasCircularDependencyIn_eq hrounds, ?_⟩
  have hedge : Edge (edges db) = DependsOn db := by
    ext x y
    exact edge_edges
  rw [hasCircularDependency_iff, reflTransGen_iff_eq_or_transGen, hedge]

end LegalForge.Tasks
