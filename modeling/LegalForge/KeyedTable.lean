import Mathlib

/-! Tables as lists of rows with a key: look-up by key and update by key. -/
namespace LegalForge.Table

variable {α κ : Type*} [DecidableEq κ] {key : α → κ}

/-- `SELECT ... WHERE key = k`, for a unique key. -/
def find (key : α → κ) (k : κ) (rows : List α) : Option α :=
  rows.find? (fun x => key x = k)

/-- `UPDATE ... SET ... WHERE key = k` -/
def alter (key : α → κ) (k : κ) (f : α → α) (rows : List α) : List α :=
  rows.map (fun x => if key x = k then f x else x)

/-- The value of a column after the UPDATE of a session: it is written only if the
session has changed what it had loaded. -/
def assigned [DecidableEq α] (loaded changed current : α) : α :=
  if changed = loaded then current else changed

@[simp] theorem assigned_self [DecidableEq α] (loaded current : α) :
    assigned loaded loaded current = current :=
  if_pos rfl

/-- Nobody else has written the column meanwhile. -/
@[simp] theorem assigned_loaded [DecidableEq α] (loaded changed : α) :
    assigned loaded changed loaded = changed := by
  unfold assigned
  split_ifs with h
  · exact h.symm
  · rfl

theorem key_of_find {k : κ} {rows : List α} {x : α} (h : find key k rows = some x) : key x = k := by
  simpa using List.find?_some h

theorem mem_of_find {k : κ} {rows : List α} {x : α} (h : find key k rows = some x) : x ∈ rows :=
  List.mem_of_find?_eq_some h

theorem find_eq_none_iff {k : κ} {rows : List α} :
    find key k rows = none ↔ ∀ x ∈ rows, key x ≠ k := by
  simp [find]

theorem exists_find_iff {k : κ} {rows : List α} :
    (∃ x, find key k rows = some x) ↔ k ∈ rows.map key := by
  rw [List.mem_map, ← Option.ne_none_iff_exists', Ne, find_eq_none_iff]
  push Not
  rfl

omit [DecidableEq κ] in
/-- A foreign key is never the key of a new row. -/
theorem ne_of_fresh {j k : κ} {rows : List α} (hmem : j ∈ rows.map key)
    (hfresh : ∀ x ∈ rows, key x ≠ k) : j ≠ k := by
  obtain ⟨x, hx, rfl⟩ := List.mem_map.mp hmem
  exact hfresh x hx

/-- With unique keys the look-up finds the one row of its key. -/
theorem find_eq_some_iff {k : κ} {rows : List α} {x : α} (hnodup : (rows.map key).Nodup) :
    find key k rows = some x ↔ x ∈ rows ∧ key x = k := by
  constructor
  · exact fun h => ⟨mem_of_find h, key_of_find h⟩
  · rintro ⟨hx, rfl⟩
    cases hfind : find key (key x) rows with
    | none => exact absurd rfl (find_eq_none_iff.mp hfind x hx)
    | some y =>
      have hy : y = x :=
        List.inj_on_of_nodup_map hnodup (mem_of_find hfind) hx (key_of_find hfind)
      rw [hy]

theorem find_append (k : κ) (rows rows' : List α) :
    find key k (rows++rows') = (find key k rows).or (find key k rows') :=
  List.find?_append

/-- A change of every row that keeps the keys. -/
theorem find_map {f : α → α} (hf : ∀ x, key (f x) = key x) (k : κ) (rows : List α) :
    find key k (rows.map f) = (find key k rows).map f := by
  simp only [find, List.find?_map, Function.comp_def, hf]

theorem key_alter_row {f : α → α} {k : κ} (hf : ∀ x, key x = k → key (f x) = k) (x : α) :
    key (if key x = k then f x else x) = key x := by
  split_ifs with h
  · rw [hf x h, h]
  · rfl

theorem map_key_alter {f : α → α} {k : κ} (hf : ∀ x, key x = k → key (f x) = k)
    (rows : List α) : (alter key k f rows).map key = rows.map key := by
  rw [alter, List.map_map]
  exact List.map_congr_left fun x _ => key_alter_row hf x

theorem find_alter_self {f : α → α} {k : κ} (hf : ∀ x, key x = k → key (f x) = k)
    (rows : List α) : find key k (alter key k f rows) = (find key k rows).map f := by
  rw [alter, find_map (key_alter_row hf)]
  refine Option.map_congr fun x hx => ?_
  rw [if_pos (key_of_find hx)]

/-- A row that is written is found again. -/
theorem find_alter_const {k : κ} {rows : List α} {x y : α} (hy : y ∈ rows) (hkey : key y = k)
    (hx : key x = k) : find key k (alter key k (fun _ => x) rows) = some x := by
  have hmem : k ∈ rows.map key := hkey ▸ List.mem_map_of_mem hy
  obtain ⟨z, hz⟩ := exists_find_iff.mpr hmem
  rw [find_alter_self (fun _ _ => hx), hz, Option.map_some]

theorem find_alter_of_ne {f : α → α} {j k : κ} (hf : ∀ x, key x = k → key (f x) = k) (h : j ≠ k)
    (rows : List α) : find key j (alter key k f rows) = find key j rows := by
  rw [alter, find_map (key_alter_row hf)]
  cases hfind : find key j rows with
  | none => rfl
  | some x =>
    have hx : key x ≠ k := key_of_find hfind ▸ h
    rw [Option.map_some, if_neg hx]

/-- `INSERT`, refused for a key that is taken. -/
def insert (key : α → κ) (row : α) (rows : List α) : Option (List α) :=
  if (find key (key row) rows).isSome then none else some (rows++[row])

theorem insert_eq_some_iff {row : α} {rows rows' : List α} :
    insert key row rows = some rows' ↔ (∀ x ∈ rows, key x ≠ key row) ∧ rows' = rows++[row] := by
  rw [insert, ← find_eq_none_iff]
  cases find key (key row) rows with
  | none => simp [eq_comm]
  | some x => simp

theorem insert_of_notMem {row : α} {rows : List α} (h : key row ∉ rows.map key) :
    insert key row rows = some (rows++[row]) := by
  refine insert_eq_some_iff.mpr ⟨?_, rfl⟩
  intro x hx hsame
  exact h (hsame ▸ List.mem_map_of_mem hx)

omit [DecidableEq κ] in
theorem notMem_append_singleton {k : κ} {row : α} {rows : List α} (h : k ∉ rows.map key)
    (hne : k ≠ key row) : k ∉ (rows++[row]).map key := by
  rw [List.map_append, List.map_singleton, List.mem_append, List.mem_singleton, not_or]
  exact ⟨h, hne⟩

omit [DecidableEq κ] in
theorem nodup_append_singleton {row : α} {rows : List α} (hnodup : (rows.map key).Nodup)
    (hfresh : ∀ x ∈ rows, key x ≠ key row) : ((rows++[row]).map key).Nodup := by
  rw [List.map_append, List.map_singleton, List.nodup_append]
  refine ⟨hnodup, List.nodup_singleton _, ?_⟩
  intro k hk k' hk' heq
  obtain ⟨x, hx, rfl⟩ := List.mem_map.mp hk
  exact hfresh x hx (heq.trans (List.mem_singleton.mp hk'))

/-- `DELETE ... WHERE key = k` -/
def remove (key : α → κ) (k : κ) (rows : List α) : List α :=
  rows.filter (fun x => key x ≠ k)

theorem find_remove_of_ne {j k : κ} (h : j ≠ k) (rows : List α) :
    find key j (remove key k rows) = find key j rows := by
  rw [find, remove, List.find?_filter, find]
  congr 1
  funext x
  by_cases hx : key x = j
  · simp [hx, h]
  · simp [hx]

theorem nodup_remove {k : κ} {rows : List α} (h : (rows.map key).Nodup) :
    ((remove key k rows).map key).Nodup :=
  h.sublist (List.filter_sublist.map key)

theorem mem_map_remove {j k : κ} {rows : List α} (hmem : j ∈ rows.map key) (hne : j ≠ k) :
    j ∈ (remove key k rows).map key := by
  obtain ⟨x, hx, rfl⟩ := List.mem_map.mp hmem
  exact List.mem_map_of_mem (List.mem_filter.mpr ⟨hx, decide_eq_true hne⟩)

/-- Writing back the row that was found. -/
theorem alter_found {k : κ} {rows : List α} {x : α} (hnodup : (rows.map key).Nodup)
    (hfind : find key k rows = some x) : alter key k (fun _ => x) rows = rows := by
  conv_rhs => rw [← List.map_id rows]
  refine List.map_congr_left fun y hy => ?_
  split_ifs with hkey
  · have hxy : y = x := List.inj_on_of_nodup_map hnodup hy (mem_of_find hfind)
      (hkey.trans (key_of_find hfind).symm)
    rw [hxy, id]
  · rfl

/-- An update of a key that no row has. -/
theorem alter_of_not_found {k : κ} {rows : List α} {f : α → α} (h : find key k rows = none) :
    alter key k f rows = rows := by
  conv_rhs => rw [← List.map_id rows]
  refine List.map_congr_left fun x hx => ?_
  rw [if_neg (find_eq_none_iff.mp h x hx), id]

theorem mem_alter {f : α → α} {k : κ} {rows : List α} {y : α} :
    y ∈ alter key k f rows ↔ ∃ x ∈ rows, (if key x = k then f x else x) = y :=
  List.mem_map

/-- The row of a key, where keys are not repeated. -/
theorem filter_key_eq_singleton {rows : List α} {x : α} (hnodup : (rows.map key).Nodup)
    (hx : x ∈ rows) : rows.filter (fun y => key y = key x) = [x] := by
  induction rows with
  | nil => cases hx
  | cons y rows ih =>
    rw [List.map_cons, List.nodup_cons] at hnodup
    obtain ⟨hy, hnodup⟩ := hnodup
    rcases List.mem_cons.mp hx with rfl | hrest
    · have hnone : rows.filter (fun z => key z = key x) = [] := by
        rw [List.filter_eq_nil_iff]
        intro z hz heq
        exact hy (of_decide_eq_true heq ▸ List.mem_map_of_mem hz)
      rw [List.filter_cons_of_pos (by simp), hnone]
    · have hne : ¬key y = key x := fun heq => hy (heq ▸ List.mem_map_of_mem hrest)
      rw [List.filter_cons_of_neg (by simpa using hne), ih hnodup hrest]

/-- One row less, if a row is removed. -/
theorem length_remove {rows : List α} {x : α} (hnodup : (rows.map key).Nodup) (hx : x ∈ rows) :
    (remove key (key x) rows).length+1 = rows.length := by
  have hsplit := List.length_eq_length_filter_add (l := rows) (fun y => decide (key y = key x))
  rw [filter_key_eq_singleton hnodup hx, List.length_singleton] at hsplit
  have hremove : remove key (key x) rows = rows.filter fun y => !decide (key y = key x) :=
    List.filter_congr fun y _ => (decide_not (p := key y = key x))
  rw [hremove]
  omega

end LegalForge.Table
