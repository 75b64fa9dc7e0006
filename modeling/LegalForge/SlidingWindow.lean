import Mathlib

/-! A limit on the events of any period. The limiter stores when the events it admitted took
place, and forgets those that are too old. An event takes time: it is checked at one moment and
recorded at another one. -/
namespace LegalForge.SlidingWindow

variable {α β : Type*} [AddCommGroup α] [LinearOrder α]

/-- The times within the last `w`. -/
def recent (w now : α) (times : List α) : List α :=
  times.filter fun t => now-w < t

/-- What the limiter stores, and the events it has admitted. -/
structure State (α β : Type*) where
  times : List α
  admitted : List β

/-- When an event is checked, and when it is recorded. -/
structure Clock (α β : Type*) where
  check : β → α
  record : β → α

/-- An event is dated between its check and its record. -/
def Clock.Dates (clock : Clock α β) (date : β → α) (events : List β) : Prop :=
  ∀ b ∈ events, clock.check b ≤ date b ∧ date b ≤ clock.record b

/-- The events that are dated in the period of length `w` that ends at `until_`. -/
def datedIn (w : α) (date : β → α) (until_ : α) (events : List β) : List β :=
  events.filter fun b => until_-w < date b ∧ date b ≤ until_

/-- The events whose records are recent. -/
def onRecord (clock : Clock α β) (w now : α) (events : List β) : List β :=
  events.filter fun b => now-w < clock.record b

variable (clock : Clock α β) (limit : ℕ) (w : α)

def attempt (s : State α β) (b : β) : State α β :=
  let kept := recent w (clock.check b) s.times
  if limit ≤ kept.length then { s with times := kept }
  else ⟨kept++[clock.record b], s.admitted++[b]⟩

/-- The limiter is right up to a time: it has stored what it has admitted, as far as that is
recent, and no period has too many events. -/
structure Exact (now : α) (s : State α β) : Prop where
  past : ∀ b ∈ s.admitted, clock.record b ≤ now
  stored : ∀ later, now ≤ later →
    recent w later s.times = (onRecord clock w later s.admitted).map clock.record
  bounded : ∀ date, clock.Dates date s.admitted →
    ∀ until_, (datedIn w date until_ s.admitted).length ≤ limit

variable {clock limit w} {now later : α} {s : State α β} {b : β}

theorem Exact.empty (now : α) : Exact clock limit w now (⟨[], []⟩ : State α β) where
  past _ hb := absurd hb List.not_mem_nil
  stored _ _ := rfl
  bounded _ _ _ := Nat.zero_le limit

theorem Exact.weaken (h : Exact clock limit w now s) (hlater : now ≤ later) :
    Exact clock limit w later s where
  past b hb := (h.past b hb).trans hlater
  stored time htime := h.stored time (hlater.trans htime)
  bounded := h.bounded

/-- What is stored decides as if all admitted events were counted. -/
theorem Exact.full_iff (h : Exact clock limit w now s) (hlater : now ≤ later) :
    limit ≤ (recent w later s.times).length ↔ limit ≤ (onRecord clock w later s.admitted).length := by
  rw [h.stored later hlater, List.length_map]

variable [IsOrderedAddMonoid α]

/-- What is not recent does not become so again. -/
theorem recent_recent (h : now ≤ later) (times : List α) :
    recent w later (recent w now times) = recent w later times := by
  unfold recent
  rw [List.filter_filter]
  apply List.filter_congr
  intro t _
  have hcutoff : now-w ≤ later-w := sub_le_sub_right h w
  by_cases ht : later-w < t
  · simp [ht, hcutoff.trans_lt ht]
  · simp [ht]

/-- Events of a period that the check of a new one ends in are still on record then. -/
theorem length_datedIn_le {date : β → α} {until_ : α} (hdate : clock.Dates date s.admitted)
    (h : clock.check b ≤ until_) : (datedIn w date until_ s.admitted).length ≤
      (onRecord clock w (clock.check b) s.admitted).length := by
  unfold datedIn onRecord
  rw [← List.countP_eq_length_filter, ← List.countP_eq_length_filter]
  apply List.countP_mono_left
  intro a ha hperiod
  have hafter := (of_decide_eq_true hperiod).1
  have hcutoff : clock.check b-w ≤ until_-w := sub_le_sub_right h w
  exact decide_eq_true ((hcutoff.trans_lt hafter).trans_le (hdate a ha).2)

/-- The limiter stays right from the check of an event on. -/
theorem Exact.attempt (h : Exact clock limit w now s) (hcheck : now ≤ clock.check b)
    (hrecord : clock.check b ≤ clock.record b) :
    Exact clock limit w (clock.record b) (attempt clock limit w s b) := by
  have hpast : ∀ a ∈ s.admitted, clock.record a ≤ clock.record b :=
    fun a ha => (h.past a ha).trans (hcheck.trans hrecord)
  have hkept (later : α) (hlater : clock.record b ≤ later) :
      recent w later (recent w (clock.check b) s.times) =
        (onRecord clock w later s.admitted).map clock.record := by
    rw [recent_recent (hrecord.trans hlater)]
    exact h.stored later (hcheck.trans (hrecord.trans hlater))
  unfold SlidingWindow.attempt
  simp only
  split_ifs with hfull
  · -- rejected: only old times are forgotten
    exact ⟨hpast, hkept, h.bounded⟩
  · -- admitted: the new event is the last one on record
    refine ⟨?_, ?_, ?_⟩
    · intro a ha
      rcases List.mem_append.mp ha with hold | hnew
      · exact hpast a hold
      · rw [List.mem_singleton.mp hnew]
    · intro later hlater
      have hsplit : recent w later (recent w (clock.check b) s.times++[clock.record b]) =
          recent w later (recent w (clock.check b) s.times)++recent w later [clock.record b] :=
        List.filter_append ..
      rw [hsplit, hkept later hlater, onRecord, onRecord, List.filter_append, List.map_append]
      congr 1
      unfold recent
      by_cases hb : later-w < clock.record b <;> simp [hb]
    · intro date hdate until_
      have hold : clock.Dates date s.admitted :=
        fun a ha => hdate a (List.mem_append_left _ ha)
      have hsplit : datedIn w date until_ (s.admitted++[b]) =
          datedIn w date until_ s.admitted++datedIn w date until_ [b] := List.filter_append ..
      rw [hsplit, List.length_append]
      by_cases hb : until_-w < date b ∧ date b ≤ until_
      · -- the check of the new event found all the others of the period
        have hdated := hdate b (List.mem_append_right _ List.mem_cons_self)
        have hothers : (datedIn w date until_ s.admitted).length ≤
            (onRecord clock w (clock.check b) s.admitted).length :=
          length_datedIn_le hold (hdated.1.trans hb.2)
        rw [h.full_iff hcheck] at hfull
        have hone : (datedIn w date until_ [b]).length ≤ 1 := List.length_filter_le _ [b]
        omega
      · have hnone : datedIn w date until_ [b] = [] := by simp [datedIn, hb]
        rw [hnone, List.length_nil, Nat.add_zero]
        exact h.bounded date hold until_

end LegalForge.SlidingWindow
