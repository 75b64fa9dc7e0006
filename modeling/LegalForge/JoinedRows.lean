import Mathlib

/-! Joins and groups of rows, and what becomes of a sum over them. A join repeats a row as often
as it finds a partner, a sum over groups counts every row once. -/
namespace LegalForge.Rows

variable {α β κ M : Type*}

/-- `FROM xs JOIN ys ON ...` -/
def join (on : α → β → Bool) (xs : List α) (ys : List β) : List (α × β) :=
  xs.flatMap fun x => (ys.filter (on x)).map (Prod.mk x)

/-- `FROM xs LEFT OUTER JOIN ys ON ...` -/
def leftJoin (on : α → β → Bool) (xs : List α) (ys : List β) : List (α × Option β) :=
  xs.flatMap fun x =>
    match ys.filter (on x) with
    | [] => [(x, none)]
    | y :: rest => (y :: rest).map fun y => (x, some y)

/-- `GROUP BY key`, the rows of each key that occurs. -/
def groupBy [DecidableEq κ] (key : α → κ) (rows : List α) : List (κ × List α) :=
  (rows.map key).dedup.map fun k => (k, rows.filter fun r => key r = k)

/-- `coalesce(sum(f), 0)` -/
def total [AddCommMonoid M] (f : α → M) (rows : List α) : M :=
  (rows.map f).sum

theorem mem_join {on : α → β → Bool} {xs : List α} {ys : List β} {r : α × β} :
    r ∈ join on xs ys ↔ r.1 ∈ xs ∧ r.2 ∈ ys ∧ on r.1 r.2 = true := by
  rw [join, List.mem_flatMap]
  constructor
  · intro h
    obtain ⟨x, hx, hr⟩ := h
    obtain ⟨y, hy, rfl⟩ := List.mem_map.mp hr
    exact ⟨hx, List.mem_filter.mp hy⟩
  · intro h
    exact ⟨r.1, h.1, List.mem_map.mpr ⟨r.2, List.mem_filter.mpr h.2, rfl⟩⟩

/-- A left join keeps the rows of its left table, and has no others. -/
theorem mem_leftJoin_left {on : α → β → Bool} {xs : List α} {ys : List β} {x : α} :
    (∃ partner, (x, partner) ∈ leftJoin on xs ys) ↔ x ∈ xs := by
  simp only [leftJoin, List.mem_flatMap]
  constructor
  · intro h
    obtain ⟨partner, x', hx', hr⟩ := h
    cases h : ys.filter (on x') with
    | nil =>
      rw [h, List.mem_singleton] at hr
      cases hr
      exact hx'
    | cons y rest =>
      rw [h] at hr
      obtain ⟨y', -, hy'⟩ := List.mem_map.mp hr
      cases hy'
      exact hx'
  · intro hx
    cases h : ys.filter (on x) with
    | nil => exact ⟨none, x, hx, by rw [h]; exact List.mem_singleton_self _⟩
    | cons y rest => exact ⟨some y, x, hx, by rw [h]; exact List.mem_cons_self⟩

theorem mem_groupBy [DecidableEq κ] {key : α → κ} {rows : List α} {g : κ × List α} :
    g ∈ groupBy key rows ↔ g.1 ∈ rows.map key ∧ g.2 = rows.filter fun r => key r = g.1 := by
  rw [groupBy, List.mem_map]
  constructor
  · intro h
    obtain ⟨k, hk, rfl⟩ := h
    exact ⟨List.mem_dedup.mp hk, rfl⟩
  · intro h
    exact ⟨g.1, List.mem_dedup.mpr h.1, by rw [← h.2]⟩

section Total

variable [AddCommMonoid M] {f g : α → M} {rows : List α}

@[simp] theorem total_nil : total f [] = 0 :=
  rfl

@[simp] theorem total_cons (x : α) (xs : List α) : total f (x :: xs) = f x+total f xs :=
  List.sum_cons

theorem total_append (xs ys : List α) : total f (xs++ys) = total f xs+total f ys := by
  rw [total, List.map_append, List.sum_append]
  rfl

theorem total_congr (h : ∀ x ∈ rows, f x = g x) : total f rows = total g rows := by
  rw [total, List.map_congr_left h]
  rfl

theorem total_map (h : β → α) (ys : List β) : total f (ys.map h) = total (fun y => f (h y)) ys := by
  rw [total, List.map_map]
  rfl

theorem total_add (rows : List α) :
    total (fun x => f x+g x) rows = total f rows+total g rows := by
  induction rows with
  | nil => simp
  | cons x xs ih =>
    rw [total_cons, total_cons, total_cons, ih]
    exact add_add_add_comm _ _ _ _

/-- Two sums over the same rows. -/
theorem total_prod {N : Type*} [AddCommMonoid N] (f : α → M) (g : α → N) (rows : List α) :
    total (fun x => (f x, g x)) rows = (total f rows, total g rows) := by
  induction rows with
  | nil => rfl
  | cons x xs ih => simp only [total_cons, ih, Prod.mk_add_mk]

theorem total_zero (rows : List α) : total (fun _ => (0 : M)) rows = 0 := by
  induction rows with
  | nil => rfl
  | cons x xs ih => rw [total_cons, ih, add_zero]

theorem total_const (c : M) (rows : List α) : total (fun _ => c) rows = rows.length • c := by
  rw [total, List.map_const', List.sum_replicate]

theorem total_flatMap (h : β → List α) (ys : List β) :
    total f (ys.flatMap h) = total (fun y => total f (h y)) ys := by
  induction ys with
  | nil => rfl
  | cons y ys ih => rw [List.flatMap_cons, total_append, ih, total_cons]

/-- A sum over two tables can be taken in either order. -/
theorem total_comm (f : α → β → M) (xs : List α) (ys : List β) :
    total (fun x => total (f x) ys) xs = total (fun y => total (fun x => f x y) xs) ys := by
  induction xs with
  | nil => exact (total_zero ys).symm
  | cons x xs ih => simp only [total_cons, ih, total_add]

theorem total_filter (p : α → Bool) (rows : List α) :
    total f (rows.filter p) = total (fun x => if p x then f x else 0) rows := by
  induction rows with
  | nil => rfl
  | cons x xs ih =>
    rw [total_cons, ← ih]
    cases hp : p x with
    | true => rw [List.filter_cons_of_pos hp, total_cons, if_pos rfl]
    | false =>
      have hneg : ¬p x = true := by simp [hp]
      rw [List.filter_cons_of_neg hneg, if_neg Bool.false_ne_true, zero_add]

theorem total_filter_add_not (p : α → Bool) (rows : List α) :
    total f (rows.filter p)+total f (rows.filter fun x => !p x) = total f rows := by
  rw [total_filter, total_filter, ← total_add]
  apply total_congr
  intro x _
  cases p x with
  | true => exact add_zero (f x)
  | false => exact zero_add (f x)

theorem natCast_total (f : α → ℕ) (rows : List α) :
    ((total f rows : ℕ) : ℤ) = total (fun x => (f x : ℤ)) rows := by
  induction rows with
  | nil => rfl
  | cons x rows ih => rw [total_cons, total_cons, Nat.cast_add, ih]

/-- A sum of numbers is divided once, or each number and then what is left of them. -/
theorem total_div (f : α → ℕ) {d : ℕ} (hd : 0 < d) (rows : List α) :
    total f rows/d = total (fun x => f x/d) rows+total (fun x => f x%d) rows/d := by
  have hsplit : total f rows = d*total (fun x => f x/d) rows+total (fun x => f x%d) rows := by
    induction rows with
    | nil => rfl
    | cons x rows ih =>
      rw [total_cons, total_cons, total_cons, ih, mul_add]
      have hx := Nat.div_add_mod (f x) d
      omega
  rw [hsplit, Nat.mul_add_div hd]

/-- A row is counted once for each partner. -/
theorem total_join (on : α → β → Bool) (f : α × β → M) (xs : List α) (ys : List β) :
    total f (join on xs ys) =
      total (fun x => total (fun y => f (x, y)) (ys.filter (on x))) xs := by
  rw [join, total_flatMap]
  simp only [total_map]

/-- A row without a partner is counted once as well. -/
theorem total_leftJoin (on : α → β → Bool) (f : α × Option β → M) (xs : List α) (ys : List β) :
    total f (leftJoin on xs ys) = total (fun x => if ys.filter (on x) = [] then f (x, none)
      else total (fun y => f (x, some y)) (ys.filter (on x))) xs := by
  rw [leftJoin, total_flatMap]
  apply total_congr
  intro x _
  cases ys.filter (on x) with
  | nil => rw [if_pos rfl, total_cons, total_nil, add_zero]
  | cons y rest => rw [if_neg (List.cons_ne_nil y rest), total_map]

variable [DecidableEq κ] {key : α → κ}

/-- One row has the key. -/
theorem total_ite_key {k : κ} (hnodup : (rows.map key).Nodup) (hmem : k ∈ rows.map key) (c : M) :
    total (fun r => if key r = k then c else 0) rows = c := by
  induction rows with
  | nil => exact absurd hmem List.not_mem_nil
  | cons r rows ih =>
    obtain ⟨hr, hrows⟩ := List.nodup_cons.mp hnodup
    rw [total_cons]
    by_cases h : key r = k
    · have hrest : total (fun r => if key r = k then c else 0) rows = total (fun _ => 0) rows := by
        apply total_congr
        intro x hx
        refine if_neg fun hk => hr ?_
        rw [h, ← hk]
        exact List.mem_map_of_mem hx
      rw [if_pos h, hrest, total_zero, add_zero]
    · have hrest : k ∈ rows.map key := (List.mem_cons.mp hmem).resolve_left (Ne.symm h)
      rw [if_neg h, zero_add, ih hrows hrest]

variable (f key)

/-- The groups of different keys are disjoint. -/
theorem total_of_keys {keys : List κ} (hnodup : keys.Nodup) (rows : List α) :
    total (fun k => total f (rows.filter fun r => key r = k)) keys =
      total f (rows.filter fun r => key r ∈ keys) := by
  simp only [total_filter]
  rw [total_comm]
  apply total_congr
  intro r _
  simp only [decide_eq_true_eq]
  induction keys with
  | nil => simp
  | cons k keys ih =>
    obtain ⟨hk, hkeys⟩ := List.nodup_cons.mp hnodup
    rw [total_cons, ih hkeys]
    by_cases h : key r = k
    · rw [if_pos h, if_neg (h ▸ hk), if_pos (h ▸ List.mem_cons_self), add_zero]
    · rw [if_neg h, zero_add]
      simp only [List.mem_cons, h, false_or]

/-- The entry of a key in the map of the sums of groups, 0 for a key without one. -/
theorem total_lookup (rows : List α) (k : κ) :
    (((groupBy key rows).map fun g => (g.1, total f g.2)).lookup k).getD 0 =
      total f (rows.filter fun r => key r = k) := by
  have hlookup : ∀ keys : List κ, ((keys.map fun k => (k, total f (rows.filter fun r =>
      key r = k))).lookup k).getD 0 =
        if k ∈ keys then total f (rows.filter fun r => key r = k) else 0 := by
    intro keys
    induction keys with
    | nil => rfl
    | cons k' keys ih =>
      rw [List.map_cons, List.lookup_cons]
      by_cases h : k = k'
      · subst h
        simp
      · have hbeq : (k == k') = false := beq_eq_false_iff_ne.mpr h
        simp only [hbeq, List.mem_cons, h, false_or]
        exact ih
  rw [groupBy, List.map_map]
  refine (hlookup _).trans ?_
  split_ifs with hmem
  · rfl
  · -- no row has the key
    rw [List.mem_dedup, List.mem_map] at hmem
    have hnone : rows.filter (fun r => key r = k) = [] := by
      rw [List.filter_eq_nil_iff]
      intro r hr hk
      exact hmem ⟨r, hr, of_decide_eq_true hk⟩
    rw [hnone, total_nil]

end Total

end LegalForge.Rows
