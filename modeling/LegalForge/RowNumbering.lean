import Mathlib

/-! Rows that are numbered one after the other, the next number being one more than the highest
there is. -/
namespace LegalForge.RowNumbering

variable {α : Type*} (number : α → Option ℤ) (base : ℤ)

/-- `coalesce(max(number), base)+1` -/
def next (rows : List α) : ℤ :=
  (rows.filterMap number).max?.getD base+1

/-- No number was assigned twice, and the rows that are left have one each. -/
structure Numbered (rows : List α) (log : List ℤ) : Prop where
  once : log.Nodup
  present : ∀ r ∈ rows, ∃ n ∈ log, number r = some n
  distinct : (rows.map number).Nodup

theorem lt_next {rows : List α} {r : α} {n : ℤ} (hr : r ∈ rows) (hn : number r = some n) :
    n < next number base rows := by
  have hmem : n ∈ rows.filterMap number := List.mem_filterMap.mpr ⟨r, hr, hn⟩
  unfold next
  cases hmax : (rows.filterMap number).max? with
  | none =>
    rw [List.max?_eq_none_iff] at hmax
    rw [hmax] at hmem
    exact absurd hmem List.not_mem_nil
  | some highest =>
    have hle := (List.max?_eq_some_iff.mp hmax).2 n hmem
    rw [Option.getD_some]
    omega

variable {number}

/-- A new row keeps the numbering exactly if its number was not assigned before. -/
theorem numbered_append_iff {rows : List α} {log : List ℤ} {r : α} (h : Numbered number rows log)
    (hr : number r = some (next number base rows)) :
    Numbered number (rows++[r]) (log++[next number base rows]) ↔ next number base rows ∉ log := by
  constructor
  · intro happend hold
    have hdisjoint := List.disjoint_of_nodup_append happend.once
    exact hdisjoint hold (List.mem_singleton_self _)
  · intro hnew
    refine ⟨?_, ?_, ?_⟩
    · rw [List.nodup_append_comm, List.singleton_append]
      exact List.nodup_cons.mpr ⟨hnew, h.once⟩
    · intro x hx
      rcases List.mem_append.mp hx with hx | hx
      · obtain ⟨n, hn, hnumber⟩ := h.present x hx
        exact ⟨n, List.mem_append_left _ hn, hnumber⟩
      · rw [List.mem_singleton.mp hx]
        exact ⟨_, List.mem_append_right _ (List.mem_singleton_self _), hr⟩
    · rw [List.map_append, List.nodup_append_comm, List.map_singleton, List.singleton_append]
      refine List.nodup_cons.mpr ⟨?_, h.distinct⟩
      intro hmem
      obtain ⟨x, hx, hsame⟩ := List.mem_map.mp hmem
      exact absurd (lt_next number base hx (hsame.trans hr)) (lt_irrefl _)

/-- Rows that go take no number away. -/
theorem Numbered.sublist {rows rows' : List α} {log : List ℤ} (h : Numbered number rows log)
    (hsub : rows'.Sublist rows) : Numbered number rows' log :=
  ⟨h.once, fun r hr => h.present r (hsub.subset hr), (hsub.map number).nodup h.distinct⟩

end LegalForge.RowNumbering
