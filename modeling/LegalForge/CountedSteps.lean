import Mathlib

/-! Loops that step on until they have met so many elements of a kind. -/
namespace LegalForge.CountedSteps

variable {α : Type*} (p : α → Prop) [DecidablePred p] (next : α → α)

/-- Step on while some are still to be met, for `fuel` steps at most. -/
def countDown : (fuel remaining : ℕ) → α → Option α
  | _, 0, current => some current
  | 0, _+1, _ => none
  | fuel+1, remaining+1, current =>
    if p (next current) then countDown fuel remaining (next current)
    else countDown fuel (remaining+1) (next current)

/-- How many are met in the first steps from an element. -/
def met (a : α) (steps : ℕ) : ℕ :=
  Nat.count (fun i => p (next^[i+1] a)) steps

variable {p next}

theorem met_zero (a : α) : met p next a 0 = 0 :=
  Nat.count_zero _

theorem met_succ (a : α) (k : ℕ) :
    met p next a (k+1) = met p next a k+if p (next^[k+1] a) then 1 else 0 :=
  Nat.count_succ _ k

/-- The first step apart from the others. -/
theorem met_succ' (a : α) (k : ℕ) :
    met p next a (k+1) = met p next (next a) k+if p (next a) then 1 else 0 :=
  Nat.count_succ' _ k

theorem met_add (a : α) (j k : ℕ) :
    met p next a (j+k) = met p next a j+met p next (next^[j] a) k := by
  induction k with
  | zero => rw [met_zero, Nat.add_zero, Nat.add_zero]
  | succ k ih =>
    have hiter : next^[j+k+1] a = next^[k+1] (next^[j] a) := by
      rw [← Function.iterate_add_apply, show j+k+1 = k+1+j by omega]
    rw [← Nat.add_assoc, met_succ, met_succ, ih, hiter, Nat.add_assoc]

theorem met_mono (a : α) : Monotone (met p next a) :=
  Nat.count_monotone _

/-- After a first step the rest is still to be met. -/
theorem isLeast_succ_iff {a : α} {m n : ℕ} (hm : n+1 = m+if p (next a) then 1 else 0) (k : ℕ) :
    IsLeast {k | n+1 ≤ met p next a k} (k+1) ↔ IsLeast {k | m ≤ met p next (next a) k} k := by
  have hiff (j : ℕ) : n+1 ≤ met p next a (j+1) ↔ m ≤ met p next (next a) j := by
    rw [met_succ']
    omega
  constructor
  · intro h
    refine ⟨(hiff k).mp h.1, fun j hj => ?_⟩
    have hle := h.2 ((hiff j).mpr hj)
    omega
  · intro h
    refine ⟨(hiff k).mpr h.1, fun j hj => ?_⟩
    cases j with
    | zero =>
      rw [Set.mem_ofPred_eq, met_zero] at hj
      omega
    | succ j => exact Nat.succ_le_succ (h.2 ((hiff j).mp hj))

/-- The loop stops after the least number of steps that meets enough. -/
theorem countDown_eq_some_iff {fuel n : ℕ} {a b : α} : countDown p next fuel n a = some b ↔
    ∃ k ≤ fuel, IsLeast {k | n ≤ met p next a k} k ∧ next^[k] a = b := by
  induction fuel generalizing n a with
  | zero =>
    cases n with
    | zero => simp [countDown, IsLeast, lowerBounds]
    | succ n => simp [countDown, IsLeast, met_zero]
  | succ fuel ih =>
    cases n with
    | zero =>
      simp only [countDown, Option.some.injEq]
      constructor
      · intro h
        exact ⟨0, Nat.zero_le _, ⟨Nat.zero_le _, fun _ _ => Nat.zero_le _⟩, h⟩
      · intro h
        obtain ⟨k, -, hleast, hb⟩ := h
        have hk : k = 0 := Nat.le_zero.mp (hleast.2 (Nat.zero_le _))
        rw [← hb, hk, Function.iterate_zero, id_eq]
    | succ n =>
      have hstep (m : ℕ) (hm : n+1 = m+if p (next a) then 1 else 0) :
          countDown p next fuel m (next a) = some b ↔
            ∃ k ≤ fuel+1, IsLeast {k | n+1 ≤ met p next a k} k ∧ next^[k] a = b := by
        rw [ih]
        constructor
        · intro h
          obtain ⟨k, hk, hleast, hb⟩ := h
          exact ⟨k+1, by omega, (isLeast_succ_iff hm k).mpr hleast, hb⟩
        · intro h
          obtain ⟨k, hk, hleast, hb⟩ := h
          cases k with
          | zero =>
            -- nothing is met before the first step
            have hmet := hleast.1
            rw [Set.mem_ofPred_eq, met_zero] at hmet
            omega
          | succ k => exact ⟨k, by omega, (isLeast_succ_iff hm k).mp hleast, hb⟩
      rw [countDown]
      split_ifs with hp
      · exact hstep n (by rw [if_pos hp])
      · exact hstep (n+1) (by rw [if_neg hp])

variable {n k : ℕ} {a : α}

/-- The least number of steps meets no more than asked for. -/
theorem met_of_isLeast (h : IsLeast {k | n ≤ met p next a k} k) : met p next a k = n := by
  refine le_antisymm ?_ h.1
  cases k with
  | zero =>
    rw [met_zero]
    exact Nat.zero_le n
  | succ k =>
    have hless : ¬n ≤ met p next a k := fun hk => absurd (h.2 hk) (Nat.not_succ_le_self k)
    rw [met_succ]
    split_ifs <;> omega

/-- The last step meets one. -/
theorem last_of_isLeast (h : IsLeast {k | n ≤ met p next a k} k) (hn : 0 < n) :
    p (next^[k] a) := by
  have hmet := met_of_isLeast h
  cases k with
  | zero =>
    rw [met_zero] at hmet
    omega
  | succ k =>
    have hless : ¬n ≤ met p next a k := fun hk => absurd (h.2 hk) (Nat.not_succ_le_self k)
    rw [met_succ] at hmet
    split_ifs at hmet with hp
    · exact hp
    · omega

/-- If one is met in each row of so many steps, many steps meet many. -/
theorem le_met {gap : ℕ} (hgap : ∀ a, ∃ j < gap, p (next^[j+1] a)) (n : ℕ) (a : α) :
    n ≤ met p next a (gap*n) := by
  have hrow (a : α) : 1 ≤ met p next a gap := by
    obtain ⟨j, hj, hp⟩ := hgap a
    have hmet : 1 ≤ met p next a (j+1) := by
      rw [met_succ, if_pos hp]
      exact Nat.le_add_left 1 _
    exact hmet.trans (met_mono a hj)
  induction n generalizing a with
  | zero => exact Nat.zero_le _
  | succ n ih =>
    rw [Nat.mul_succ, Nat.add_comm (gap*n), met_add, Nat.add_comm n 1]
    exact Nat.add_le_add (hrow a) (ih _)

/-- Then the loop stops, and more fuel changes nothing. -/
theorem exists_countDown {gap : ℕ} (hgap : ∀ a, ∃ j < gap, p (next^[j+1] a)) (n : ℕ) (a : α) :
    ∃ b, ∀ fuel, gap*n ≤ fuel → countDown p next fuel n a = some b := by
  classical
  have hex : ∃ k, n ≤ met p next a k := ⟨gap*n, le_met hgap n a⟩
  have hleast : IsLeast {k | n ≤ met p next a k} (Nat.find hex) :=
    ⟨Nat.find_spec hex, fun k hk => Nat.find_min' hex hk⟩
  refine ⟨next^[Nat.find hex] a, fun fuel hfuel => ?_⟩
  exact countDown_eq_some_iff.mpr
    ⟨Nat.find hex, (hleast.2 (le_met hgap n a)).trans hfuel, hleast, rfl⟩

end LegalForge.CountedSteps
