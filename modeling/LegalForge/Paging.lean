import Mathlib

/-! A list that is read page by page, and rows that are checked one by one. -/
namespace LegalForge.Paging

universe u
variable {α β : Type u} {ε : Type*}

/-- `OFFSET i*size LIMIT size` -/
def page (size : ℕ) (rows : List α) (i : ℕ) : List α :=
  (rows.drop (i*size)).take size

theorem flatMap_page (size : ℕ) (rows : List α) (count : ℕ) :
    (List.range count).flatMap (page size rows) = rows.take (count*size) := by
  induction count with
  | zero => rw [Nat.zero_mul]; rfl
  | succ count ih =>
    rw [List.range_succ, List.flatMap_append, ih, Nat.succ_mul, List.take_add, List.flatMap_singleton,
      page]

/-- Enough pages show every row once. -/
theorem flatMap_page_eq {size : ℕ} {rows : List α} {count : ℕ} (h : rows.length ≤ count*size) :
    (List.range count).flatMap (page size rows) = rows := by
  rw [flatMap_page, List.take_of_length_le h]

/-- How many pages have a row. -/
theorem lt_pages_iff {size total i : ℕ} (hsize : 0 < size) :
    i < (total+size-1)/size ↔ i*size < total := by
  have hceil := Nat.ceilDiv_eq_add_pred_div total size
  rw [← hceil, ← not_le, ceilDiv_le_iff_le_mul hsize, not_le, Nat.mul_comm]

theorem page_ne_nil_iff {size : ℕ} (hsize : 0 < size) {rows : List α} {i : ℕ} :
    page size rows i ≠ [] ↔ i*size < rows.length := by
  rw [← List.length_pos_iff, page, List.length_take, List.length_drop]
  omega

/-- Two pages share no row. -/
theorem page_disjoint {size : ℕ} {rows : List α} (hrows : rows.Nodup) {i j : ℕ} (hij : i < j) :
    (page size rows i).Disjoint (page size rows j) := by
  have hle : (i+1)*size ≤ j*size := Nat.mul_le_mul_right size hij
  have hfirst : page size rows i = (rows.take ((i+1)*size)).drop (i*size) := by
    rw [List.drop_take, Nat.succ_mul, Nat.add_sub_cancel_left, page]
  intro x hx hx'
  rw [hfirst] at hx
  exact List.disjoint_take_drop hrows hle (List.mem_of_mem_drop hx) (List.mem_of_mem_take hx')

/-- How a query sorts the rows it found. Rows that tie come in any order. -/
structure Sorting (order : α → α → Bool) where
  arrange : List α → List α
  perm (rows : List α) : (arrange rows).Perm rows
  pairwise (rows : List α) : (arrange rows).Pairwise (fun x y => order x y = true)

/-- The rows that tie keep their order. -/
def Sorting.merge {order : α → α → Bool}
    (htrans : ∀ x y z, order x y = true → order y z = true → order x z = true)
    (htotal : ∀ x y, (order x y || order y x) = true) : Sorting order where
  arrange rows := rows.mergeSort order
  perm rows := List.mergeSort_perm rows order
  pairwise rows := List.pairwise_mergeSort htrans htotal rows

/-- No two rows tie. -/
def TotallyOrdered (order : α → α → Bool) (rows : List α) : Prop :=
  rows.Pairwise (fun x y => ¬(order x y = true ∧ order y x = true))

section
variable {order : α → α → Bool} {rows : List α}

theorem Sorting.length_arrange (s : Sorting order) (rows : List α) :
    (s.arrange rows).length = rows.length :=
  (s.perm rows).length_eq

theorem TotallyOrdered.nodup (h : TotallyOrdered order rows) (hrefl : ∀ x, order x x = true) :
    rows.Nodup := by
  apply h.imp
  rintro x _ hne rfl
  exact hne ⟨hrefl x, hrefl x⟩

theorem TotallyOrdered.eq_of_tie (h : TotallyOrdered order rows) {x y : α} (hx : x ∈ rows)
    (hy : y ∈ rows) (hxy : order x y = true) (hyx : order y x = true) : x = y := by
  by_contra hne
  have hsymm : Std.Symm fun x y => ¬(order x y = true ∧ order y x = true) :=
    ⟨fun _ _ hno htie => hno ⟨htie.2, htie.1⟩⟩
  exact h.forall hx hy hne ⟨hxy, hyx⟩

/-- Where no rows tie there is one way to sort them. -/
theorem Sorting.arrange_eq (s s' : Sorting order) (h : TotallyOrdered order rows) :
    s.arrange rows = s'.arrange rows := by
  apply List.Perm.eq_of_pairwise _ (s.pairwise rows) (s'.pairwise rows)
    ((s.perm rows).trans (s'.perm rows).symm)
  intro x y hx hy hxy hyx
  exact h.eq_of_tie ((s.perm rows).mem_iff.mp hx) ((s'.perm rows).mem_iff.mp hy) hxy hyx

end

theorem bind_eq_ok_iff {x : Except ε α} {f : α → Except ε β} {b : β} :
    (x >>= f) = .ok b ↔ ∃ a, x = .ok a ∧ f a = .ok b := by
  cases x with
  | error e => exact iff_of_false (by rintro ⟨⟩) (by rintro ⟨a, ⟨⟩, -⟩)
  | ok a =>
    constructor
    · exact fun h => ⟨a, rfl, h⟩
    · rintro ⟨a', ha, h⟩
      obtain rfl := Except.ok.inj ha
      exact h

/-- Every row passes the check, with its result. -/
theorem mapM_eq_ok_iff {f : α → Except ε β} {rows : List α} {results : List β} :
    rows.mapM f = .ok results ↔ List.Forall₂ (fun x y => f x = .ok y) rows results := by
  induction rows generalizing results with
  | nil =>
    rw [List.mapM_nil, List.forall₂_nil_left_iff]
    constructor
    · intro h
      exact (Except.ok.inj h).symm
    · rintro rfl
      rfl
  | cons x rows ih =>
    rw [List.mapM_cons, bind_eq_ok_iff, List.forall₂_cons_left_iff]
    constructor
    · rintro ⟨y, hx, h⟩
      obtain ⟨ys, hrest, h⟩ := bind_eq_ok_iff.mp h
      exact ⟨y, ys, hx, ih.mp hrest, (Except.ok.inj h).symm⟩
    · rintro ⟨y, ys, hx, hrest, rfl⟩
      exact ⟨y, hx, bind_eq_ok_iff.mpr ⟨ys, ih.mpr hrest, rfl⟩⟩

theorem mapM_eq_map {f : α → Except ε β} {g : α → β} {rows : List α}
    (h : ∀ x ∈ rows, f x = .ok (g x)) : rows.mapM f = .ok (rows.map g) := by
  apply mapM_eq_ok_iff.mpr
  rw [List.forall₂_map_right_iff]
  exact List.forall₂_same.mpr h

theorem mapM_ok (f : α → β) (rows : List α) :
    rows.mapM (fun x => (.ok (f x) : Except ε β)) = .ok (rows.map f) :=
  mapM_eq_map fun _ _ => rfl

/-- What every result shows of its row. -/
theorem map_eq_of_mapM {γ : Type*} {f : α → Except ε β} {g : β → γ} {h : α → γ}
    (hf : ∀ x y, f x = .ok y → g y = h x) {rows : List α} {results : List β}
    (hok : rows.mapM f = .ok results) : results.map g = rows.map h := by
  have hall := mapM_eq_ok_iff.mp hok
  clear hok
  induction hall with
  | nil => rfl
  | cons hx _ ih => rw [List.map_cons, List.map_cons, hf _ _ hx, ih]

theorem exists_mapM_iff {f : α → Except ε β} {rows : List α} :
    (∃ results, rows.mapM f = .ok results) ↔ ∀ x ∈ rows, ∃ y, f x = .ok y := by
  constructor
  · rintro ⟨results, h⟩
    have hall := mapM_eq_ok_iff.mp h
    clear h
    induction hall with
    | nil => exact fun x hx => absurd hx List.not_mem_nil
    | cons hx _ ih =>
      intro z hz
      rcases List.mem_cons.mp hz with rfl | hz
      · exact ⟨_, hx⟩
      · exact ih z hz
  · intro h
    induction rows with
    | nil => exact ⟨[], rfl⟩
    | cons x rows ih =>
      obtain ⟨y, hy⟩ := h x List.mem_cons_self
      obtain ⟨ys, hys⟩ := ih fun x hx => h x (List.mem_cons_of_mem _ hx)
      exact ⟨y :: ys, mapM_eq_ok_iff.mpr (.cons hy (mapM_eq_ok_iff.mp hys))⟩

end LegalForge.Paging
