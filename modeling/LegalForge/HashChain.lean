import Mathlib

/-! Lists whose elements name the hash of the element before them. -/
namespace LegalForge.HashChain

variable {α H : Type*} {hash : α → H} {prev : α → Option H}

/-- Each element names its predecessor, the first one names `p`. -/
def Linked (hash : α → H) (prev : α → Option H) : Option H → List α → Prop
  | _, [] => True
  | p, x :: xs => prev x = p ∧ Linked hash prev (some (hash x)) xs

/-- What an element appended to the list has to name. -/
def tip (hash : α → H) : Option H → List α → Option H
  | p, [] => p
  | _, x :: xs => tip hash (some (hash x)) xs

theorem tip_concat (p : Option H) (xs : List α) (x : α) : tip hash p (xs++[x]) = some (hash x) := by
  induction xs generalizing p with
  | nil => rfl
  | cons y ys ih => exact ih (some (hash y))

theorem linked_append {p : Option H} {xs ys : List α} :
    Linked hash prev p (xs++ys) ↔ Linked hash prev p xs ∧ Linked hash prev (tip hash p xs) ys := by
  induction xs generalizing p with
  | nil => simp [Linked, tip]
  | cons x xs ih => simp [Linked, tip, ih, and_assoc]

/-- Appending to a chain takes nothing but naming its tip. -/
theorem linked_concat {p : Option H} {xs : List α} {x : α} :
    Linked hash prev p (xs++[x]) ↔ Linked hash prev p xs ∧ prev x = tip hash p xs := by
  rw [linked_append]
  simp [Linked]

theorem Linked.take {p : Option H} {xs : List α} (h : Linked hash prev p xs) (n : ℕ) :
    Linked hash prev p (xs.take n) := by
  rw [← List.take_append_drop n xs, linked_append] at h
  exact h.1

/-- Every element names `p` or the hash of an element of the chain. -/
theorem Linked.prev_mem {p : Option H} {xs : List α} (h : Linked hash prev p xs) {x : α}
    (hx : x ∈ xs) : prev x = p ∨ ∃ y ∈ xs, prev x = some (hash y) := by
  induction xs generalizing p with
  | nil => cases hx
  | cons z zs ih =>
    rcases List.mem_cons.mp hx with rfl | hx
    · exact Or.inl h.1
    · right
      rcases ih h.2 hx with heq | ⟨y, hy, heq⟩
      · exact ⟨z, List.mem_cons_self, heq⟩
      · exact ⟨y, List.mem_cons_of_mem z hy, heq⟩

/-- A part of a chain that is a chain itself is one of its prefixes: dropping an
element leaves its successor without the predecessor it names. -/
theorem Linked.prefix_of_sublist {p : Option H} {xs ys : List α} (hxs : Linked hash prev p xs)
    (hys : Linked hash prev p ys) (hsub : ys.Sublist xs) (hnodup : (xs.map hash).Nodup)
    (hp : ∀ x ∈ xs, p ≠ some (hash x)) : ys <+: xs := by
  induction xs generalizing p ys with
  | nil => exact List.sublist_nil.mp hsub ▸ List.nil_prefix
  | cons x xs ih =>
    obtain ⟨hx, hnodup'⟩ := List.nodup_cons.mp hnodup
    have hxne : ∀ y ∈ xs, some (hash x) ≠ some (hash y) := fun y hy h =>
      hx (List.mem_map.mpr ⟨y, hy, (Option.some.inj h).symm⟩)
    cases hsub with
    | cons_cons _ hsub =>
      have hrest := ih hxs.2 hys.2 hsub hnodup' hxne
      exact (List.prefix_cons_inj x).mpr hrest
    | cons _ hsub =>
      cases ys with
      | nil => exact List.nil_prefix
      | cons y ys =>
        -- `y` stands behind `x`, so it names an element of the chain and not `p`
        exfalso
        have hy : y ∈ xs := hsub.subset List.mem_cons_self
        rcases hxs.2.prev_mem hy with heq | ⟨z, hz, heq⟩
        · exact hp x List.mem_cons_self (hys.1.symm.trans heq)
        · exact hp z (List.mem_cons_of_mem x hz) (hys.1.symm.trans heq)

/-- No two elements of a chain name the same predecessor. -/
theorem Linked.nodup_prev {p : Option H} {xs : List α} (h : Linked hash prev p xs)
    (hnodup : (xs.map hash).Nodup) (hp : ∀ x ∈ xs, p ≠ some (hash x)) : (xs.map prev).Nodup := by
  induction xs generalizing p with
  | nil => exact List.nodup_nil
  | cons x xs ih =>
    obtain ⟨hx, hnodup'⟩ := List.nodup_cons.mp hnodup
    have hxne : ∀ y ∈ xs, some (hash x) ≠ some (hash y) := fun y hy h =>
      hx (List.mem_map.mpr ⟨y, hy, (Option.some.inj h).symm⟩)
    refine List.nodup_cons.mpr ⟨fun hmem => ?_, ih h.2 hnodup' hxne⟩
    obtain ⟨y, hy, heq⟩ := List.mem_map.mp hmem
    rw [h.1] at heq
    rcases h.2.prev_mem hy with hprev | ⟨z, hz, hprev⟩
    · exact hp x List.mem_cons_self (heq.symm.trans hprev)
    · exact hp z (List.mem_cons_of_mem x hz) (heq.symm.trans hprev)

end LegalForge.HashChain
