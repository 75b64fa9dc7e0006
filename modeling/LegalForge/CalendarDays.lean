import Mathlib

/-! Calendar days as `datetime.date` counts them, and walks over working days. -/
namespace LegalForge

/-- A `date` by its `toordinal()`, from 1 January 1 to 31 December 9999. -/
structure Day where
  ordinal : ℕ
  one_le : 1 ≤ ordinal
  le_max : ordinal ≤ 3652059
  deriving DecidableEq

namespace Day

/-- `day+timedelta(days=days)`, nothing for an `OverflowError`. -/
def add (day : Day) (days : ℤ) : Option Day :=
  if h : 1 ≤ day.ordinal+days ∧ day.ordinal+days ≤ 3652059 then
    some ⟨(day.ordinal+days).toNat, by omega, by omega⟩
  else none

/-- `day.weekday()`: Monday is 0. -/
def weekday (day : Day) : ℕ :=
  (day.ordinal+6)%7

/-- Walk day by day in a direction until so many weekdays have passed. `room`
bounds the days walked. -/
def walk (direction : ℤ) : (room remaining : ℕ) → Day → Option Day
  | _, 0, current => some current
  | 0, _+1, _ => none
  | room+1, remaining+1, current =>
    match current.add direction with
    | none => none
    | some next =>
      if next.weekday < 5 then walk direction room remaining next
      else walk direction room (remaining+1) next

/-- The next Monday for a day of the weekend. -/
def toWeekday (day : Day) : Option Day :=
  if day.weekday = 5 then day.add 2
  else if day.weekday = 6 then day.add 1
  else some day

theorem add_eq_some_iff {day later : Day} {days : ℤ} :
    day.add days = some later ↔ (later.ordinal : ℤ) = day.ordinal+days := by
  obtain ⟨n, hn, hmax⟩ := later
  rw [add]
  constructor
  · intro h
    split_ifs at h with hrange
    have hord := congrArg Day.ordinal (Option.some.inj h)
    simp only at hord ⊢
    omega
  · intro h
    simp only at h
    rw [dif_pos (by omega)]
    simp only [Option.some.injEq, Day.mk.injEq]
    omega

theorem weekday_lt (day : Day) : day.weekday < 7 :=
  Nat.mod_lt _ (by decide)

/-- No deadline is left on a Saturday or a Sunday. -/
theorem weekday_of_toWeekday {day later : Day} (h : day.toWeekday = some later) :
    later.weekday < 5 := by
  have hlt := day.weekday_lt
  rw [toWeekday] at h
  split_ifs at h with hsat hsun
  · have hord := add_eq_some_iff.mp h
    simp only [weekday] at hsat ⊢
    omega
  · have hord := add_eq_some_iff.mp h
    simp only [weekday] at hsun ⊢
    omega
  · obtain rfl := Option.some.inj h
    omega

/-- A weekday is its own working day, and a weekend is over after two days. -/
theorem ordinal_toWeekday {day later : Day} (h : day.toWeekday = some later) :
    day.ordinal ≤ later.ordinal ∧ later.ordinal ≤ day.ordinal+2 := by
  rw [toWeekday] at h
  split_ifs at h with hsat hsun
  · have hord := add_eq_some_iff.mp h
    omega
  · have hord := add_eq_some_iff.mp h
    omega
  · obtain rfl := Option.some.inj h
    omega

/-- The days between a day and the end of the calendar in a direction. -/
def daysLeft (direction : ℤ) (day : Day) : ℕ :=
  if direction = 1 then 3652059-day.ordinal else day.ordinal-1

theorem daysLeft_le (direction : ℤ) (day : Day) : daysLeft direction day ≤ 3652059 := by
  have hmax := day.le_max
  unfold daysLeft
  split_ifs <;> omega

theorem daysLeft_add {direction : ℤ} (hdir : direction = 1 ∨ direction = -1) {day next : Day}
    (h : day.add direction = some next) : daysLeft direction day = daysLeft direction next+1 := by
  have hord := add_eq_some_iff.mp h
  have hnext := next.one_le
  have hmax := next.le_max
  unfold daysLeft
  rcases hdir with rfl | rfl
  · rw [if_pos rfl, if_pos rfl]
    omega
  · rw [if_neg (by decide), if_neg (by decide)]
    omega

/-- Only the end of the calendar stops a walk early: with room up to there more
room changes nothing. -/
theorem walk_room {direction : ℤ} (hdir : direction = 1 ∨ direction = -1) {room more : ℕ}
    (hmore : room ≤ more) {remaining : ℕ} {day : Day} (hroom : daysLeft direction day ≤ room) :
    walk direction more remaining day = walk direction room remaining day := by
  induction more generalizing room remaining day with
  | zero =>
    obtain rfl := Nat.le_zero.mp hmore
    rfl
  | succ more ih =>
    cases remaining with
    | zero => simp only [walk]
    | succ remaining =>
      cases hadd : day.add direction with
      | none =>
        cases room with
        | zero => simp only [walk, hadd]
        | succ room => simp only [walk, hadd]
      | some next =>
        have hleft := daysLeft_add hdir hadd
        cases room with
        | zero => omega
        | succ room =>
          have hwalk (n : ℕ) : walk direction more n next = walk direction room n next :=
            ih (by omega) (by omega)
          simp only [walk, hadd, hwalk]

/-- A walk ends on a weekday. -/
theorem weekday_of_walk {direction : ℤ} {room remaining : ℕ} {day last : Day}
    (h : walk direction room (remaining+1) day = some last) : last.weekday < 5 := by
  induction room generalizing remaining day with
  | zero => cases h
  | succ room ih =>
    rw [walk] at h
    split at h
    · cases h
    · split_ifs at h with hweekday
      · cases remaining with
        | zero =>
          simp only [walk, Option.some.injEq] at h
          exact h ▸ hweekday
        | succ remaining => exact ih h
      · exact ih h

end Day

end LegalForge
