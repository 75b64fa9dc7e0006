import Mathlib

/-! Ledgers that store their own running total. Each row carries an amount and a
copy of the sum of all amounts up to and including its own. -/
namespace LegalForge.RunningFold

variable {α M : Type*} [AddMonoid M] {amount running : α → M}

/-- Every stored total is the sum over the prefix that ends at its row. -/
def Running (amount running : α → M) (l : List α) : Prop :=
  ∀ pre x post, l = pre++x :: post → running x = ((pre++[x]).map amount).sum

theorem running_nil : Running amount running [] := by
  intro pre x post h
  exact absurd h.symm (by simp)

/-- Appending a row whose stored total extends the sum keeps every total right. -/
theorem Running.concat {l : List α} (h : Running amount running l) {x : α}
    (hx : running x = (l.map amount).sum+amount x) : Running amount running (l++[x]) := by
  intro pre y post hsplit
  rcases List.eq_nil_or_concat post with rfl | ⟨post, z, rfl⟩
  · obtain ⟨rfl, hy⟩ := List.append_inj' hsplit rfl
    obtain rfl := (List.cons.inj hy).1
    simpa using hx
  · rw [List.concat_eq_append, ← List.cons_append, ← List.append_assoc] at hsplit
    obtain ⟨hl, -⟩ := List.append_inj' hsplit rfl
    exact h pre y post hl

theorem Running.of_map {β : Type*} {f : β → α} {l : List β}
    (h : Running amount running (l.map f)) : Running (amount ∘ f) (running ∘ f) l := by
  intro pre x post hsplit
  have hmap := h (pre.map f) (f x) (post.map f) (by rw [hsplit, List.map_append, List.map_cons])
  rwa [← List.map_singleton, ← List.map_append, List.map_map] at hmap

theorem Running.getElem? {l : List α} (h : Running amount running l) {x : α} {i : ℕ}
    (hx : l[i]? = some x) : running x = ((l.take i).map amount).sum+amount x := by
  obtain ⟨hi, rfl⟩ := List.getElem?_eq_some_iff.mp hx
  have hsplit : l = l.take i++l[i] :: l.drop (i+1) := by
    rw [List.cons_getElem_drop_succ, List.take_append_drop]
  rw [h _ _ _ hsplit, List.map_append, List.sum_append, List.map_singleton, List.sum_singleton]

/-- A row of the ledger and its place in it. -/
theorem Running.of_mem_zipIdx {l : List α} (h : Running amount running l) {x : α × ℕ}
    (hx : x ∈ l.zipIdx) : running x.1 = ((l.take x.2).map amount).sum+amount x.1 ∧
      running x.1 = ((l.take (x.2+1)).map amount).sum := by
  have hget : l[x.2]? = some x.1 := List.mem_zipIdx_iff_getElem?.mp hx
  have hrunning := h.getElem? hget
  refine ⟨hrunning, ?_⟩
  rw [List.take_add_one, hget, hrunning]
  simp

/-- Rows in another order, the last first, with the places they have in the ledger. They read
as a running total exactly when nothing was added between two neighbours. -/
theorem Running.isChain_iff [IsRightCancelAdd M] {l : List α} (h : Running amount running l)
    {listing : List (α × ℕ)} (hmem : ∀ x ∈ listing, x ∈ l.zipIdx) :
    (listing.map Prod.fst).IsChain (fun newer older => running newer = running older+amount newer) ↔
      listing.IsChain (fun newer older =>
        ((l.take newer.2).map amount).sum = ((l.take (older.2+1)).map amount).sum) := by
  rw [List.isChain_map]
  induction listing with
  | nil => simp
  | cons newer listing ih =>
    cases listing with
    | nil => simp
    | cons older listing =>
      have hnewer := (h.of_mem_zipIdx (hmem newer List.mem_cons_self)).1
      have holder := (h.of_mem_zipIdx (hmem older (List.mem_cons_of_mem _ List.mem_cons_self))).2
      have hrest := ih fun x hx => hmem x (List.mem_cons_of_mem _ hx)
      rw [List.isChain_cons_cons, List.isChain_cons_cons, hrest, hnewer, holder, add_left_inj]

end LegalForge.RunningFold
