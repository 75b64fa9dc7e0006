import LegalForge.KeyedTable

/-! A status with the time at which it became final, written by sessions that each write
only what they have changed. -/
namespace LegalForge.StampedStatus
open Table (assigned)

variable {S T : Type*} [DecidableEq S] [DecidableEq T] (final : S)

/-- There is a time exactly if the status is final. -/
def Stamped (status : S) (time : Option T) : Prop :=
  status = final ↔ time.isSome

variable {final}

omit [DecidableEq S] [DecidableEq T] in
theorem stamped_open {status : S} (h : status ≠ final) : Stamped final status (none : Option T) :=
  iff_of_false h Bool.false_ne_true

omit [DecidableEq S] [DecidableEq T] in
theorem stamped_final (time : T) : Stamped final final (some time) :=
  iff_of_true rfl rfl

/-- A write of what has changed since the load keeps status and time together, unless the
row has become final or open in between while the write leaves that as it was loaded. -/
theorem stamped_assigned_iff {loaded changed current : S} {loadedAt changedAt currentAt : Option T}
    (hloaded : Stamped final loaded loadedAt) (hchanged : Stamped final changed changedAt)
    (hcurrent : Stamped final current currentAt) :
    Stamped final (assigned loaded changed current) (assigned loadedAt changedAt currentAt) ↔
      ((loaded = final ↔ changed = final) → (loaded = final ↔ current = final) ∨
        (changed = loaded ∧ changedAt = loadedAt)) := by
  unfold Stamped at *
  by_cases hl : loaded = final
  · by_cases hc : changed = final
    · -- the status stays final, and only the time may be written
      subst hl
      rw [hc, Table.assigned_self]
      have hsome := hchanged.mp hc
      by_cases hsame : changedAt = loadedAt
      · subst hsame
        simp [hcurrent]
      · simp [assigned, hsame, hsome]
    · have hne : changed ≠ loaded := fun heq => hc (heq.trans hl)
      have hat : changedAt ≠ loadedAt := by
        rintro rfl
        exact hc (hchanged.mpr (hloaded.mp hl))
      rw [assigned, if_neg hne, assigned, if_neg hat]
      exact iff_of_true hchanged fun h => absurd (h.mp hl) hc
  · by_cases hc : changed = final
    · have hne : changed ≠ loaded := fun heq => hl (heq ▸ hc)
      have hat : changedAt ≠ loadedAt := by
        rintro rfl
        exact hl (hloaded.mpr (hchanged.mp hc))
      rw [assigned, if_neg hne, assigned, if_neg hat]
      exact iff_of_true hchanged fun h => absurd (h.mpr hc) hl
    · -- neither has a time, so only the status may be written
      have hnone : ∀ {at_ : Option T} {s : S}, s ≠ final → (s = final ↔ at_.isSome = true) →
          at_ = none := fun hs h => Option.not_isSome_iff_eq_none.mp fun hsome => hs (h.mpr hsome)
      rw [hnone hc hchanged, hnone hl hloaded, Table.assigned_self]
      by_cases hsame : changed = loaded
      · simp [hsame, hcurrent]
      · simp [assigned, hsame, hc, hl, ← hcurrent]

omit [DecidableEq S] [DecidableEq T] in
/-- After an UPDATE of one key a property holds of all rows exactly if it holds of the
row written. -/
theorem forall_alter_iff {α κ : Type*} [DecidableEq κ] {key : α → κ} {k : κ} {f : α → α}
    {P : α → Prop} {rows : List α} (hrows : ∀ r ∈ rows, P r) :
    (∀ r ∈ Table.alter key k f rows, P r) ↔ ∀ r ∈ rows, key r = k → P (f r) := by
  constructor
  · intro hafter r hr hkey
    apply hafter
    exact Table.mem_alter.mpr ⟨r, hr, if_pos hkey⟩
  · intro hwritten r hr
    obtain ⟨old, hold, rfl⟩ := Table.mem_alter.mp hr
    split_ifs with hkey
    · exact hwritten old hold hkey
    · exact hrows old hold

end LegalForge.StampedStatus
