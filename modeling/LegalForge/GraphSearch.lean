import Mathlib

/-! Breadth-first search in a graph that is given by the list of its edges. -/
namespace LegalForge.GraphSearch
open Relation

variable {α : Type*} [DecidableEq α]

/-- The ends of the edges from a node, in the order of the edges. -/
def successors (edges : List (α × α)) (x : α) : List α :=
  (edges.filter (fun e => e.1 = x)).map Prod.snd

omit [DecidableEq α] in
/-- One edge leads from the first node to the second. -/
def Edge (edges : List (α × α)) (x y : α) : Prop :=
  (x, y) ∈ edges

/-- The edges whose start has not been visited. -/
def unvisited (edges : List (α × α)) (visited : List α) : ℕ :=
  (edges.filter (fun e => e.1 ∉ visited)).length

theorem mem_successors {edges : List (α × α)} {x y : α} :
    y ∈ successors edges x ↔ Edge edges x y := by
  simp [successors, Edge]

/-- A visit moves the edges of the node from one count to the other. -/
theorem unvisited_cons {edges : List (α × α)} {visited : List α} {x : α} (hx : x ∉ visited) :
    (successors edges x).length+unvisited edges (x :: visited) = unvisited edges visited := by
  induction edges with
  | nil => rfl
  | cons e edges ih =>
    unfold successors unvisited at ih ⊢
    by_cases he : e.1 = x
    · simp [he, hx] at ih ⊢
      omega
    · by_cases hv : e.1 ∈ visited
      · simp [he, hv] at ih ⊢
        exact ih
      · simp [he, hv] at ih ⊢
        omega

/-- Take the nodes of the queue in turn, and look among the ends of the edges from each. -/
def searchFrom (edges : List (α × α)) (target : α) (visited : List α) : List α → Bool
  | [] => false
  | current :: queue =>
    if current ∈ visited then searchFrom edges target visited queue
    else if target ∈ successors edges current then true
    else searchFrom edges target (current :: visited) (queue++successors edges current)
termination_by queue => unvisited edges visited+queue.length
decreasing_by
  · simp
  · rename_i hvisited _
    have hcount : (successors edges current).length+unvisited edges (current :: visited) =
        unvisited edges visited := unvisited_cons hvisited
    simp only [List.length_append, List.length_cons]
    omega

/-- Edges from visited nodes stay among the visited and the queued ones, and miss the target. -/
structure Searched (edges : List (α × α)) (target : α) (visited queue : List α) : Prop where
  closed : ∀ x ∈ visited, ∀ y, Edge edges x y → y ∈ visited ∨ y ∈ queue
  missed : ∀ x ∈ visited, ¬Edge edges x target

variable {edges : List (α × α)} {target : α} {visited queue : List α}

omit [DecidableEq α] in
/-- A way from a visited node to the target leads through the queue. -/
theorem Searched.through_queue (h : Searched edges target visited queue) {x : α} (hx : x ∈ visited)
    (hpath : TransGen (Edge edges) x target) : ∃ y ∈ queue, TransGen (Edge edges) y target := by
  induction hpath using TransGen.head_induction_on with
  | single hedge => exact absurd hedge (h.missed _ hx)
  | head hedge hrest ih =>
    rcases h.closed _ hx _ hedge with hy | hy
    · exact ih hy
    · exact ⟨_, hy, hrest⟩

omit [DecidableEq α] in
theorem Searched.tail {current : α} (h : Searched edges target visited (current :: queue))
    (hcurrent : current ∈ visited) : Searched edges target visited queue where
  closed x hx y hedge := by
    rcases h.closed x hx y hedge with hy | hy
    · exact Or.inl hy
    · rcases List.mem_cons.mp hy with rfl | hy
      · exact Or.inl hcurrent
      · exact Or.inr hy
  missed := h.missed

theorem Searched.visit {current : α} (h : Searched edges target visited (current :: queue))
    (hmissed : target ∉ successors edges current) :
    Searched edges target (current :: visited) (queue++successors edges current) where
  closed x hx y hedge := by
    rcases List.mem_cons.mp hx with rfl | hx
    · exact Or.inr (List.mem_append_right _ (mem_successors.mpr hedge))
    · rcases h.closed x hx y hedge with hy | hy
      · exact Or.inl (List.mem_cons_of_mem _ hy)
      · rcases List.mem_cons.mp hy with rfl | hy
        · exact Or.inl List.mem_cons_self
        · exact Or.inr (List.mem_append_left _ hy)
  missed x hx := by
    rcases List.mem_cons.mp hx with rfl | hx
    · exact fun hedge => hmissed (mem_successors.mpr hedge)
    · exact h.missed x hx

/-- The search finds the target exactly when a way leads to it from the queue. -/
theorem searchFrom_eq_true_iff (h : Searched edges target visited queue) :
    searchFrom edges target visited queue = true ↔
      ∃ x ∈ queue, TransGen (Edge edges) x target := by
  fun_induction searchFrom edges target visited queue with
  | case1 visited => simp
  | case2 visited current queue hvisited ih =>
    rw [ih (h.tail hvisited)]
    constructor
    · rintro ⟨x, hx, hpath⟩
      exact ⟨x, List.mem_cons_of_mem _ hx, hpath⟩
    · rintro ⟨x, hx, hpath⟩
      rcases List.mem_cons.mp hx with rfl | hx
      · exact (h.tail hvisited).through_queue hvisited hpath
      · exact ⟨x, hx, hpath⟩
  | case3 visited current queue hvisited hfound =>
    exact iff_of_true rfl ⟨current, List.mem_cons_self, .single (mem_successors.mp hfound)⟩
  | case4 visited current queue hvisited hmissed ih =>
    rw [ih (h.visit hmissed)]
    constructor
    · rintro ⟨x, hx, hpath⟩
      rcases List.mem_append.mp hx with hx | hx
      · exact ⟨x, List.mem_cons_of_mem _ hx, hpath⟩
      · exact ⟨current, List.mem_cons_self, .head (mem_successors.mp hx) hpath⟩
    · rintro ⟨x, hx, hpath⟩
      rcases List.mem_cons.mp hx with rfl | hx
      · exact (h.visit hmissed).through_queue List.mem_cons_self hpath
      · exact ⟨x, List.mem_append_left _ hx, hpath⟩

/-- A search from one node. -/
theorem searchFrom_singleton_iff {x : α} :
    searchFrom edges target [] [x] = true ↔ TransGen (Edge edges) x target := by
  rw [searchFrom_eq_true_iff ⟨nofun, nofun⟩]
  simp

/-! The same search, one round of the work list after the other. -/

/-- The ends of the edges in turn: the target stops the search, the others are queued. -/
def scan (target : α) (queue : List α) : List α → Option (List α)
  | [] => some queue
  | y :: ys => if y = target then none else scan target (queue++[y]) ys

/-- The answer after so many rounds, if there is one. -/
def searchRounds (edges : List (α × α)) (target : α) :
    (rounds : ℕ) → (visited queue : List α) → Option Bool
  | _, _, [] => some false
  | 0, _, _ :: _ => none
  | rounds+1, visited, current :: queue =>
    if current ∈ visited then searchRounds edges target rounds visited queue
    else
      match scan target queue (successors edges current) with
      | none => some true
      | some queue => searchRounds edges target rounds (current :: visited) queue

theorem scan_eq (target : α) (queue ys : List α) :
    scan target queue ys = if target ∈ ys then none else some (queue++ys) := by
  induction ys generalizing queue with
  | nil => simp [scan]
  | cons y ys ih =>
    rw [scan, ih]
    by_cases hy : y = target
    · simp [hy]
    · simp [hy, Ne.symm hy]

/-- Every node of the queue and every edge from an unvisited node takes a round at most. -/
theorem searchRounds_eq {rounds : ℕ} {visited queue : List α}
    (h : unvisited edges visited+queue.length ≤ rounds) :
    searchRounds edges target rounds visited queue =
      some (searchFrom edges target visited queue) := by
  induction rounds generalizing visited queue with
  | zero =>
    have hqueue : queue = [] := List.length_eq_zero_iff.mp (by omega)
    rw [hqueue, searchRounds, searchFrom]
  | succ rounds ih =>
    cases queue with
    | nil => rw [searchRounds, searchFrom]
    | cons current queue =>
      rw [List.length_cons] at h
      rw [searchRounds, searchFrom]
      split_ifs with hvisited hfound
      · exact ih (by omega)
      · rw [scan_eq, if_pos hfound]
      · have hcount : (successors edges current).length+unvisited edges (current :: visited) =
            unvisited edges visited := unvisited_cons hvisited
        rw [scan_eq, if_neg hfound]
        apply ih
        rw [List.length_append]
        omega

theorem unvisited_nil (edges : List (α × α)) : unvisited edges [] = edges.length := by
  simp [unvisited]

/-- A search from one node takes as many rounds as there are edges, and one more. -/
theorem searchRounds_singleton {rounds : ℕ} {x : α} (h : edges.length+1 ≤ rounds) :
    searchRounds edges target rounds [] [x] = some (searchFrom edges target [] [x]) := by
  apply searchRounds_eq
  rw [unvisited_nil]
  exact h

end LegalForge.GraphSearch
