import Mathlib

/-! Families of a relation: the classes of its equivalence closure. What becomes of them when one
element is added that names at most one other, and families that are numbered from 1. -/
namespace LegalForge.Families
open Relation

variable {α : Type*} {R S : α → α → Prop} {r p x y : α}

/-- `S` is `R` with a new element `r` that names `p`, or names nobody else if `p` is `r`. -/
structure Grows (R S : α → α → Prop) (r p : α) : Prop where
  keeps : ∀ a b, R a b → S a b
  adds : ∀ a b, S a b → R a b ∨ a = r ∧ b = p
  names : p ≠ r → S r p
  fresh : ∀ a b, R a b → a ≠ r ∧ b ≠ r

/-- An element that nothing is related to is alone. -/
theorem eqvGen_fresh (h : ∀ a b, R a b → a ≠ r ∧ b ≠ r) (hxy : EqvGen R x y) : x = r ↔ y = r := by
  induction hxy with
  | rel a b hab =>
    obtain ⟨ha, hb⟩ := h a b hab
    exact iff_of_false ha hb
  | refl a => exact Iff.rfl
  | symm a b _ ih => exact ih.symm
  | trans a b c _ _ hab hbc => exact hab.trans hbc

/-- What the relation holds between, a function may bring closer together. -/
theorem eqvGen_map {f : α → α} (h : ∀ a b, S a b → EqvGen R (f a) (f b)) (hxy : EqvGen S x y) :
    EqvGen R (f x) (f y) := by
  induction hxy with
  | rel a b hab => exact h a b hab
  | refl a => exact .refl _
  | symm a b _ ih => exact .symm _ _ ih
  | trans a b c _ _ hab hbc => exact .trans _ _ _ hab hbc

section
variable [DecidableEq α]

/-- The new element goes to the one that it names. -/
def retract (r p x : α) : α := if x = r then p else x

@[simp] theorem retract_self (r p : α) : retract r p r = p := if_pos rfl

theorem retract_of_ne (p : α) (h : x ≠ r) : retract r p x = x := if_neg h

theorem retract_target (r p : α) : retract r p p = p := by
  unfold retract
  split_ifs <;> rfl

/-- The new families, by the old ones. -/
theorem Grows.eqvGen_iff (h : Grows R S r p) :
    EqvGen S x y ↔ EqvGen R (retract r p x) (retract r p y) := by
  have hnear : ∀ z, EqvGen S z (retract r p z) := by
    intro z
    by_cases hz : z = r
    · rw [hz, retract_self]
      by_cases hp : p = r
      · rw [hp]
        exact .refl _
      · exact .rel _ _ (h.names hp)
    · rw [retract_of_ne p hz]
      exact .refl _
  constructor
  · apply eqvGen_map
    intro a b hab
    rcases h.adds a b hab with hold | ⟨ha, hb⟩
    · obtain ⟨ha, hb⟩ := h.fresh a b hold
      rw [retract_of_ne p ha, retract_of_ne p hb]
      exact .rel _ _ hold
    · rw [ha, hb, retract_self, retract_target]
      exact .refl _
  · intro hxy
    have hold : EqvGen S (retract r p x) (retract r p y) := hxy.mono h.keeps
    exact .trans _ _ _ (.trans _ _ _ (hnear x) hold) (.symm _ _ (hnear y))

end

/-! Numbered families. -/

/-- The members have the numbers from 1 on, each one of them. -/
def Numbered (number : α → ℤ) (family : Set α) : Prop :=
  ∃ n : ℕ, Set.BijOn number family (Set.Icc 1 (n : ℤ))

variable {number : α → ℤ} {family : Set α}

theorem numbered_singleton (h : number x = 1) : Numbered number {x} := by
  refine ⟨1, ?_⟩
  rw [Nat.cast_one, Set.Icc_self, ← h]
  exact Set.bijOn_singleton.mpr rfl

theorem Icc_one_insert (n : ℕ) : Set.Icc 1 ((n+1 : ℕ) : ℤ) = insert ((n+1 : ℕ) : ℤ) (Set.Icc 1 (n : ℤ)) := by
  ext k
  simp only [Set.mem_Icc, Set.mem_insert_iff]
  omega

/-- The member with the highest number gets a successor. -/
theorem Numbered.insert (h : Numbered number family) (hx : x ∈ family)
    (htop : ∀ y ∈ family, number y ≠ number x+1) (hr : number r = number x+1) :
    Numbered number (insert r family) := by
  obtain ⟨n, hn⟩ := h
  obtain ⟨hone, hle⟩ := hn.mapsTo hx
  have hlast : number x = n := by
    by_contra hne
    have hnext : number x+1 ∈ Set.Icc 1 (n : ℤ) := ⟨by omega, by omega⟩
    obtain ⟨y, hy, hnumber⟩ := hn.surjOn hnext
    exact htop y hy hnumber
  have hnew : number r = ((n+1 : ℕ) : ℤ) := by
    rw [hr, hlast, Nat.cast_add, Nat.cast_one]
  refine ⟨n+1, ?_⟩
  rw [Icc_one_insert, ← hnew]
  apply hn.insert
  rw [hnew, Set.mem_Icc]
  omega

end LegalForge.Families
