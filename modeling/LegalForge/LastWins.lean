import Mathlib

/-! A map that is filled in order and keeps the last entry of each key, and links between
entries that are made through it. -/
namespace LegalForge.LastWins

variable {ι κ : Type*} [LinearOrder ι] (key : ι → κ)

/-- No later entry has the same key. -/
def IsLast (i : ι) : Prop :=
  ∀ k, key k = key i → k ≤ i

theorem IsLast.eq {i j : ι} (hi : IsLast key i) (hj : IsLast key j) (h : key i = key j) : i = j :=
  le_antisymm (hj i h) (hi j h.symm)

theorem exists_isLast [Finite ι] (i : ι) : ∃ l, key l = key i ∧ IsLast key l := by
  obtain ⟨l, hl, hmax⟩ := (Set.toFinite {k | key k = key i}).exists_maximal ⟨i, rfl⟩
  refine ⟨l, hl, fun k hk => ?_⟩
  rcases le_total k l with h | h
  · exact h
  · exact hmax (hk.trans hl) h

/-- What the map gives for the key of an entry. -/
noncomputable def lastOf [Finite ι] (i : ι) : ι :=
  (exists_isLast key i).choose

theorem key_lastOf [Finite ι] (i : ι) : key (lastOf key i) = key i :=
  (exists_isLast key i).choose_spec.1

theorem isLast_lastOf [Finite ι] (i : ι) : IsLast key (lastOf key i) :=
  (exists_isLast key i).choose_spec.2

variable (wants : ι → Option κ)

/-- Some entry under the key of `i` wants the key of `j`, and the map gives both for their keys. -/
def Linked (i j : ι) : Prop :=
  IsLast key i ∧ IsLast key j ∧ ∃ s, key s = key i ∧ wants s = some (key j)

/-- No link is made twice. -/
def LinksDistinct : Prop :=
  ∀ s s' j, key s = key s' → wants s = some (key j) → wants s' = some (key j) → s = s'

/-- Who wants the key of an entry is the last under its own key, and one entry has the key wanted. -/
def Determined : Prop :=
  ∀ i j, wants i = some (key j) → IsLast key i ∧ ∀ j', key j' = key j → j' = j

/-- The links are those wanted. -/
def LinksWanted : Prop :=
  ∀ i j, i ≠ j → (Linked key wants i j ↔ wants i = some (key j))

variable {key wants}

theorem Determined.linksDistinct (h : Determined key wants) : LinksDistinct key wants := by
  intro s s' j hsame hs hs'
  exact (h s j hs).1.eq key (h s' j hs').1 hsame

theorem Determined.linksWanted (h : Determined key wants) : LinksWanted key wants := by
  intro i j _
  constructor
  · rintro ⟨hi, -, s, hs, hwants⟩
    rw [← (h s j hwants).1.eq key hi hs]
    exact hwants
  · intro hwants
    obtain ⟨hi, hone⟩ := h i j hwants
    refine ⟨hi, ?_, i, rfl, hwants⟩
    intro k hk
    exact (hone k hk).le

theorem LinksWanted.determined [Finite ι] (h : LinksWanted key wants) : Determined key wants := by
  intro i j hwants
  have hlink : ∀ k, key k = key j → i ≠ k → Linked key wants i k := fun k hk hne =>
    (h i k hne).mpr (hk ▸ hwants)
  have hkey := key_lastOf key j
  have hlast : IsLast key i := by
    by_cases hself : i = lastOf key j
    · rw [hself]
      exact isLast_lastOf key j
    · exact (hlink _ hkey hself).1
  have hall : ∀ k, key k = key j → IsLast key k := by
    intro k hk
    by_cases hself : i = k
    · exact hself ▸ hlast
    · exact (hlink k hk hself).2.1
  exact ⟨hlast, fun k hk => (hall k hk).eq key (hall j rfl) hk⟩

end LegalForge.LastWins
