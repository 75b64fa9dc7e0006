import LegalForge.KeyedTable
import LegalForge.UnitOfWork

/-! What one observer sees of a run of requests, and a part of the tables that decides it. -/
namespace LegalForge.Noninterference
open Transition UnitOfWork

variable {σ ρ ε α : Type*}

/-- The responses to the observer's own requests, in order. -/
def observed (handle : ρ → Handler σ ε α) (own : ρ → Bool) : σ → List ρ → List (Except ε α)
  | _, [] => []
  | s, r :: rs =>
    (if own r then [(handle r s).1] else [])++observed handle own (committed (handle r) s) rs

/-- The requests that meet `C` do to the view what they do to the tables, and the observer's
own ones are answered from the view. -/
structure Respects (handle : ρ → Handler σ ε α) (own : ρ → Bool) (view : σ → σ) (I : σ → Prop)
    (C : σ → ρ → Prop) : Prop where
  response : ∀ s r, I s → C s r → own r = true → (handle r (view s)).1 = (handle r s).1
  state : ∀ s r, I s → C s r → committed (handle r) (view s) = view (committed (handle r) s)
  keeps : ∀ s r, I s → C s r → I (committed (handle r) s)

variable {handle : ρ → Handler σ ε α} {own : ρ → Bool} {view : σ → σ} {I : σ → Prop}
  {C : σ → ρ → Prop}

theorem Respects.observed_view (h : Respects handle own view I C) {s : σ} {rs : List ρ} (hs : I s)
    (hrun : Along (serve handle) (fun s r _ => C s r) s rs) :
    observed handle own (view s) rs = observed handle own s rs := by
  induction rs generalizing s with
  | nil => rfl
  | cons r rs ih =>
    obtain ⟨hC, hrest⟩ := hrun _ rfl
    rw [observed, observed, h.state s r hs hC, ih (h.keeps s r hs hC) hrest]
    by_cases hown : own r = true
    · rw [if_pos hown, if_pos hown, h.response s r hs hC hown]
    · rw [if_neg hown, if_neg hown]

/-- Tables that show the observer the same answer a whole run in the same way. -/
theorem Respects.observed_eq (h : Respects handle own view I C) {s t : σ} {rs : List ρ} (hs : I s)
    (ht : I t) (hview : view s = view t) (hrun : Along (serve handle) (fun s r _ => C s r) s rs)
    (hrun' : Along (serve handle) (fun s r _ => C s r) t rs) :
    observed handle own s rs = observed handle own t rs := by
  rw [← h.observed_view hs hrun, hview, h.observed_view ht hrun']

/-- A request that is answered alike on the view and does the same to it. -/
theorem committed_view {h : Handler σ ε α} {s : σ} (heq : h (view s) = ((h s).1, view (h s).2)) :
    committed h (view s) = view (committed h s) := by
  unfold committed
  rw [heq]
  rcases h s with ⟨_ | a, t⟩
  · rfl
  · rfl

/-- A machine that answers from the view alone answers a whole run as the one on the tables. -/
theorem observed_of_simulates {τ ρ' : Type*} {handle' : ρ' → Handler τ ε α} {visible : ρ → ρ'}
    {view : σ → τ}
    (h : ∀ r s, handle' (visible r) (view s) = ((handle r s).1, view (handle r s).2)) (s : σ)
    (rs : List ρ) : observed handle' (fun _ => true) (view s) (rs.map visible) =
      observed handle (fun _ => true) s rs := by
  induction rs generalizing s with
  | nil => rfl
  | cons r rs ih =>
    have hcommitted : committed (handle' (visible r)) (view s) = view (committed (handle r) s) := by
      unfold committed
      rw [h]
      rcases handle r s with ⟨_ | a, t⟩
      · rfl
      · rfl
    rw [List.map_cons, observed, observed, hcommitted, ih, h]

section
variable {γ κ : Type*} [DecidableEq κ] {key : γ → κ} {p : γ → Bool} {k : κ} {rows : List γ}

/-- A row of the view is found in it, and a row that is not found is not there. -/
theorem find_filter (h : ∀ x, Table.find key k rows = some x → p x = true) :
    Table.find key k (rows.filter p) = Table.find key k rows := by
  induction rows with
  | nil => rfl
  | cons x rows ih =>
    unfold Table.find at h ih ⊢
    by_cases hkey : key x = k
    · have hp : p x = true := h x (by simp [hkey])
      simp [hp, hkey]
    · have hrest : ∀ y, rows.find? (fun x => key x = k) = some y → p y = true := by
        intro y hy
        exact h y (by simpa [hkey] using hy)
      by_cases hp : p x = true
      · simpa [hp, hkey] using ih hrest
      · simpa [hp, hkey] using ih hrest

/-- With unique keys a row outside the view is not found in it. -/
theorem find_filter_of_not (hnodup : (rows.map key).Nodup) {x : γ}
    (hfind : Table.find key k rows = some x) (hp : p x = false) :
    Table.find key k (rows.filter p) = none := by
  refine Table.find_eq_none_iff.mpr fun y hy hkey => ?_
  obtain ⟨hmem, hpy⟩ := List.mem_filter.mp hy
  have hxy : y = x := List.inj_on_of_nodup_map hnodup hmem (Table.mem_of_find hfind)
    (hkey.trans (Table.key_of_find hfind).symm)
  rw [hxy, hp] at hpy
  cases hpy

/-- An update that keeps rows in the view or out of it. -/
theorem filter_alter {f : γ → γ} (hf : ∀ x, p (f x) = p x) :
    (Table.alter key k f rows).filter p = Table.alter key k f (rows.filter p) := by
  rw [Table.alter, Table.alter, List.filter_map]
  congr 1
  refine List.filter_congr fun x _ => ?_
  rw [Function.comp_apply]
  split_ifs
  · exact hf x
  · rfl

/-- An update of rows of the view leaves the others. -/
theorem filter_not_alter {f : γ → γ} (hf : ∀ x, p (f x) = p x)
    (h : ∀ x ∈ rows, key x = k → p x = true) :
    (Table.alter key k f rows).filter (fun x => !p x) = rows.filter (fun x => !p x) := by
  rw [filter_alter fun x => by rw [hf x]]
  refine Table.alter_of_not_found (Table.find_eq_none_iff.mpr fun x hx hkey => ?_)
  obtain ⟨hmem, hnot⟩ := List.mem_filter.mp hx
  rw [h x hmem hkey] at hnot
  cases hnot

theorem insert_filter {row : γ} (hrow : p row = true)
    (h : ∀ x, Table.find key (key row) rows = some x → p x = true) :
    Table.insert key row (rows.filter p) = (Table.insert key row rows).map (List.filter p) := by
  unfold Table.insert
  rw [find_filter h]
  split_ifs
  · rfl
  · rw [Option.map_some, List.filter_append, List.filter_singleton, hrow]
    rfl

omit [DecidableEq κ] in
/-- Rows that a narrower condition takes are the same when those of the wider one are. -/
theorem filter_eq_of_imp {q : γ → Bool} {rows' : List γ} (h : ∀ x, q x = true → p x = true)
    (hrows : rows.filter p = rows'.filter p) : rows.filter q = rows'.filter q := by
  have hpart : ∀ l : List γ, l.filter q = (l.filter p).filter q := by
    intro l
    rw [List.filter_filter]
    refine List.filter_congr fun x _ => ?_
    by_cases hq : q x = true
    · rw [hq, h x hq]; rfl
    · rw [Bool.not_eq_true] at hq
      rw [hq, Bool.false_and]
  rw [hpart rows, hpart rows', hrows]

end

end LegalForge.Noninterference
