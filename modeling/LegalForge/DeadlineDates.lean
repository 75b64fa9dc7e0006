import LegalForge.CountedSteps
import LegalForge.Deadlines

/-! The dates `compute_deadline_date` gives, with days that the calendar does not bound. -/
namespace LegalForge.DeadlineDates
open CountedSteps Deadlines

/-- `weekday()` of a day by its number: Monday is 0. -/
def weekday (day : ℤ) : ℤ :=
  (day+6)%7

def IsWeekday (day : ℤ) : Prop :=
  weekday day < 5

instance : DecidablePred IsWeekday :=
  fun day => inferInstanceAs (Decidable (weekday day < 5))

/-- What is computed before the rule for weekends. The loop over business days has `fuel`. -/
def computed (fuel : ℕ) (triggerDate offsetDays : ℤ) : OffsetType → Option ℤ
  | .calendarDays => some (triggerDate+offsetDays)
  | .businessDays =>
    let direction := if 0 ≤ offsetDays then 1 else -1
    countDown IsWeekday (fun current => current+direction) fuel offsetDays.natAbs triggerDate

/-- The next Monday for a day of the weekend. -/
def toWeekday (day : ℤ) : ℤ :=
  if weekday day = 5 then day+2
  else if weekday day = 6 then day+1
  else day

/-- `compute_deadline_date` -/
def computeDeadlineDate (fuel : ℕ) (triggerDate offsetDays : ℤ) (offsetType : OffsetType) :
    Option ℤ :=
  (computed fuel triggerDate offsetDays offsetType).map toWeekday

/-- The call terminates and returns the date. -/
def Returns (triggerDate offsetDays : ℤ) (offsetType : OffsetType) (date : ℤ) : Prop :=
  ∃ fuel, ∀ more, fuel ≤ more →
    computeDeadlineDate more triggerDate offsetDays offsetType = some date

/-! The rule for weekends. -/

theorem isWeekday_toWeekday (day : ℤ) : IsWeekday (toWeekday day) := by
  unfold IsWeekday toWeekday weekday
  split_ifs <;> omega

theorem le_toWeekday (day : ℤ) : day ≤ toWeekday day := by
  unfold toWeekday
  split_ifs <;> omega

/-- It gives the first weekday from a day on. -/
theorem isLeast_toWeekday (day : ℤ) : IsLeast {e | day ≤ e ∧ IsWeekday e} (toWeekday day) := by
  refine ⟨⟨le_toWeekday day, isWeekday_toWeekday day⟩, fun e he => ?_⟩
  obtain ⟨hle, hweekday⟩ := he
  unfold IsWeekday weekday at hweekday
  unfold toWeekday weekday
  split_ifs <;> omega

theorem toWeekday_of_isWeekday {day : ℤ} (h : IsWeekday day) : toWeekday day = day := by
  unfold IsWeekday at h
  unfold toWeekday
  rw [if_neg (by omega), if_neg (by omega)]

theorem toWeekday_mono : Monotone toWeekday := by
  intro a b hab
  exact (isLeast_toWeekday a).2 ⟨hab.trans (le_toWeekday b), isWeekday_toWeekday b⟩

/-! The days between the trigger and the deadline. -/

/-- The weekdays after a day, up to and including another. -/
noncomputable def weekdaysAfter (trigger date : ℤ) : ℕ :=
  ((Finset.Ioc trigger date).filter IsWeekday).card

/-- The weekdays before a day, down to and including another. -/
noncomputable def weekdaysBefore (trigger date : ℤ) : ℕ :=
  ((Finset.Ico date trigger).filter IsWeekday).card

theorem iterate_add (direction trigger : ℤ) (k : ℕ) :
    (fun current => current+direction)^[k] trigger = trigger+k*direction := by
  induction k with
  | zero => simp
  | succ k ih =>
    rw [Function.iterate_succ_apply', ih]
    push_cast
    ring

/-- A day more counts once, if it is a weekday. -/
theorem card_weekdays_insert {days : Finset ℤ} {day : ℤ} (h : day ∉ days) :
    ((insert day days).filter IsWeekday).card =
      (days.filter IsWeekday).card+if IsWeekday day then 1 else 0 := by
  have hnew : day ∉ days.filter IsWeekday := fun hmem => h (Finset.mem_filter.mp hmem).1
  rw [Finset.filter_insert]
  split_ifs
  · rw [Finset.card_insert_of_notMem hnew]
  · rfl

theorem card_weekdays_lt {days more : Finset ℤ} {day : ℤ} (hsub : days ⊆ more) (hmem : day ∈ more)
    (hweekday : IsWeekday day) (hnot : day ∉ days) :
    (days.filter IsWeekday).card < (more.filter IsWeekday).card := by
  apply Finset.card_lt_card
  apply (Finset.ssubset_iff_of_subset (Finset.filter_subset_filter _ hsub)).mpr
  exact ⟨day, Finset.mem_filter.mpr ⟨hmem, hweekday⟩, fun h => hnot (Finset.mem_filter.mp h).1⟩

theorem met_forward (trigger : ℤ) (k : ℕ) :
    met IsWeekday (fun current => current+1) trigger k = weekdaysAfter trigger (trigger+k) := by
  induction k with
  | zero => simp [met_zero, weekdaysAfter]
  | succ k ih =>
    have hinsert : Finset.Ioc trigger (trigger+(k+1 : ℕ)) =
        insert (trigger+(k+1 : ℕ)) (Finset.Ioc trigger (trigger+k)) := by
      ext e
      simp only [Finset.mem_insert, Finset.mem_Ioc]
      omega
    have hnew : trigger+(k+1 : ℕ) ∉ Finset.Ioc trigger (trigger+k) := by
      rw [Finset.mem_Ioc]
      omega
    rw [met_succ, ih, iterate_add, mul_one, weekdaysAfter, weekdaysAfter, hinsert,
      card_weekdays_insert hnew]

theorem met_backward (trigger : ℤ) (k : ℕ) :
    met IsWeekday (fun current => current+ -1) trigger k = weekdaysBefore trigger (trigger-k) := by
  induction k with
  | zero => simp [met_zero, weekdaysBefore]
  | succ k ih =>
    have hinsert : Finset.Ico (trigger-(k+1 : ℕ)) trigger =
        insert (trigger-(k+1 : ℕ)) (Finset.Ico (trigger-k) trigger) := by
      ext e
      simp only [Finset.mem_insert, Finset.mem_Ico]
      omega
    have hnew : trigger-(k+1 : ℕ) ∉ Finset.Ico (trigger-k) trigger := by
      rw [Finset.mem_Ico]
      omega
    rw [met_succ, ih, iterate_add, mul_neg_one, ← sub_eq_add_neg, weekdaysBefore, weekdaysBefore,
      hinsert, card_weekdays_insert hnew]

/-- The first of three days, or one of the next two, is a weekday. -/
theorem exists_weekday {direction : ℤ} (hdir : direction = 1 ∨ direction = -1) (day : ℤ) :
    ∃ j < 3, IsWeekday ((fun current => current+direction)^[j+1] day) := by
  simp only [iterate_add]
  unfold IsWeekday weekday
  by_contra hnone
  push Not at hnone
  have h0 := hnone 0 (by omega)
  have h1 := hnone 1 (by omega)
  have h2 := hnone 2 (by omega)
  rcases hdir with rfl | rfl
  · push_cast at h0 h1 h2
    omega
  · push_cast at h0 h1 h2
    omega

theorem direction_cases (offsetDays : ℤ) : (if 0 ≤ offsetDays then (1 : ℤ) else -1) = 1 ∨
    (if 0 ≤ offsetDays then (1 : ℤ) else -1) = -1 := by
  split_ifs
  · exact Or.inl rfl
  · exact Or.inr rfl

/-- Three days for each business day are enough. -/
theorem exists_returns (triggerDate offsetDays : ℤ) (offsetType : OffsetType) :
    ∃ date, Returns triggerDate offsetDays offsetType date := by
  cases offsetType with
  | calendarDays => exact ⟨toWeekday (triggerDate+offsetDays), 0, fun _ _ => rfl⟩
  | businessDays =>
    obtain ⟨last, hlast⟩ := exists_countDown (exists_weekday (direction_cases offsetDays))
      offsetDays.natAbs triggerDate
    refine ⟨toWeekday last, 3*offsetDays.natAbs, fun more hmore => ?_⟩
    rw [computeDeadlineDate, computed, hlast more hmore, Option.map_some]

theorem Returns.unique {triggerDate offsetDays date date' : ℤ} {offsetType : OffsetType}
    (h : Returns triggerDate offsetDays offsetType date)
    (h' : Returns triggerDate offsetDays offsetType date') : date = date' := by
  obtain ⟨fuel, hfuel⟩ := h
  obtain ⟨fuel', hfuel'⟩ := h'
  have hboth := (hfuel (max fuel fuel') (le_max_left _ _)).symm.trans
    (hfuel' (max fuel fuel') (le_max_right _ _))
  exact Option.some.inj hboth

theorem isWeekday_of_returns {triggerDate offsetDays date : ℤ} {offsetType : OffsetType}
    (h : Returns triggerDate offsetDays offsetType date) : IsWeekday date := by
  obtain ⟨fuel, hfuel⟩ := h
  obtain ⟨day, -, rfl⟩ := Option.map_eq_some_iff.mp (hfuel fuel le_rfl)
  exact isWeekday_toWeekday day

theorem returns_calendarDays {triggerDate offsetDays date : ℤ} :
    Returns triggerDate offsetDays .calendarDays date ↔ date = toWeekday (triggerDate+offsetDays) := by
  constructor
  · intro h
    exact h.unique ⟨0, fun _ _ => rfl⟩
  · intro h
    exact ⟨0, fun _ _ => congrArg some h.symm⟩

/-- A loop that has met business days ends on the last of them, and stays there. -/
theorem returns_businessDays {triggerDate offsetDays date : ℤ} (hoffset : offsetDays ≠ 0)
    (h : Returns triggerDate offsetDays .businessDays date) :
    ∃ k : ℕ, date = triggerDate+k*(if 0 ≤ offsetDays then 1 else -1) ∧
      met IsWeekday (fun current => current+if 0 ≤ offsetDays then 1 else -1) triggerDate k =
        offsetDays.natAbs := by
  obtain ⟨fuel, hfuel⟩ := h
  obtain ⟨day, hday, rfl⟩ := Option.map_eq_some_iff.mp (hfuel fuel le_rfl)
  obtain ⟨k, -, hleast, rfl⟩ := countDown_eq_some_iff.mp hday
  have hlast := last_of_isLeast hleast (Int.natAbs_pos.mpr hoffset)
  refine ⟨k, ?_, met_of_isLeast hleast⟩
  rw [toWeekday_of_isWeekday hlast, iterate_add]

theorem weekdaysAfter_of_returns {triggerDate offsetDays date : ℤ} (hoffset : 0 < offsetDays)
    (h : Returns triggerDate offsetDays .businessDays date) :
    (weekdaysAfter triggerDate date : ℤ) = offsetDays := by
  obtain ⟨k, rfl, hmet⟩ := returns_businessDays hoffset.ne' h
  simp only [if_pos hoffset.le] at hmet ⊢
  rw [mul_one, ← met_forward, hmet]
  omega

theorem weekdaysBefore_of_returns {triggerDate offsetDays date : ℤ} (hoffset : offsetDays < 0)
    (h : Returns triggerDate offsetDays .businessDays date) :
    (weekdaysBefore triggerDate date : ℤ) = -offsetDays := by
  obtain ⟨k, rfl, hmet⟩ := returns_businessDays hoffset.ne h
  simp only [if_neg (not_le.mpr hoffset)] at hmet ⊢
  rw [mul_neg_one, ← sub_eq_add_neg, ← met_backward, hmet]
  omega

theorem returns_zero {triggerDate date : ℤ} (h : Returns triggerDate 0 .businessDays date) :
    date = toWeekday triggerDate := by
  obtain ⟨fuel, hfuel⟩ := h
  have hdate := hfuel (fuel+1) (Nat.le_succ fuel)
  exact (Option.some.inj hdate).symm

/-! Counts of weekdays tell weekdays apart. -/

theorem lt_of_weekdaysAfter {trigger date : ℤ} (h : 0 < weekdaysAfter trigger date) :
    trigger < date := by
  obtain ⟨e, he⟩ := Finset.card_pos.mp h
  have hmem := Finset.mem_Ioc.mp (Finset.mem_filter.mp he).1
  omega

theorem lt_of_weekdaysBefore {trigger date : ℤ} (h : 0 < weekdaysBefore trigger date) :
    date < trigger := by
  obtain ⟨e, he⟩ := Finset.card_pos.mp h
  have hmem := Finset.mem_Ico.mp (Finset.mem_filter.mp he).1
  omega

/-- From a later day on, at least as many weekdays lead at least as far. -/
theorem le_of_weekdaysAfter {trigger trigger' date date' : ℤ} (hdate : IsWeekday date)
    (htrigger : trigger ≤ trigger') (hpos : 0 < weekdaysAfter trigger date)
    (hcount : weekdaysAfter trigger date ≤ weekdaysAfter trigger' date') : date ≤ date' := by
  by_contra hlt
  have hafter := lt_of_weekdaysAfter hpos
  have hmore : weekdaysAfter trigger' date' < weekdaysAfter trigger date :=
    card_weekdays_lt (Finset.Ioc_subset_Ioc htrigger (not_le.mp hlt).le)
      (Finset.mem_Ioc.mpr ⟨hafter, le_rfl⟩) hdate fun hmem => hlt (Finset.mem_Ioc.mp hmem).2
  omega

/-- Back from an earlier day, at least as many weekdays lead at least as far. -/
theorem le_of_weekdaysBefore {trigger trigger' date date' : ℤ} (hdate' : IsWeekday date')
    (htrigger : trigger ≤ trigger') (hpos : 0 < weekdaysBefore trigger' date')
    (hcount : weekdaysBefore trigger' date' ≤ weekdaysBefore trigger date) : date ≤ date' := by
  by_contra hlt
  have hbefore := lt_of_weekdaysBefore hpos
  have hmore : weekdaysBefore trigger date < weekdaysBefore trigger' date' :=
    card_weekdays_lt (Finset.Ico_subset_Ico (not_le.mp hlt).le htrigger)
      (Finset.mem_Ico.mpr ⟨le_rfl, hbefore⟩) hdate' fun hmem => hlt (Finset.mem_Ico.mp hmem).1
  omega

theorem eq_of_weekdaysAfter {trigger date date' : ℤ} (hdate : IsWeekday date)
    (hdate' : IsWeekday date') (hpos : 0 < weekdaysAfter trigger date)
    (hcount : weekdaysAfter trigger date = weekdaysAfter trigger date') : date = date' := by
  apply le_antisymm
  · exact le_of_weekdaysAfter hdate le_rfl hpos hcount.le
  · exact le_of_weekdaysAfter hdate' le_rfl (hcount ▸ hpos) hcount.ge

theorem eq_of_weekdaysBefore {trigger date date' : ℤ} (hdate : IsWeekday date)
    (hdate' : IsWeekday date') (hpos : 0 < weekdaysBefore trigger date)
    (hcount : weekdaysBefore trigger date = weekdaysBefore trigger date') : date = date' := by
  apply le_antisymm
  · exact le_of_weekdaysBefore hdate' le_rfl (hcount ▸ hpos) hcount.ge
  · exact le_of_weekdaysBefore hdate le_rfl hpos hcount.le

/-- The call terminates with a weekday: from so many calendar days on the first one, and for
business days the one that so many weekdays lead to. -/
theorem computeDeadlineDate_spec (triggerDate offsetDays : ℤ) (offsetType : OffsetType) :
    ∃ date, Returns triggerDate offsetDays offsetType date ∧ IsWeekday date ∧
      (offsetType = .calendarDays →
        IsLeast {e | triggerDate+offsetDays ≤ e ∧ IsWeekday e} date) ∧
      (offsetType = .businessDays → 0 < offsetDays → ∀ e, e = date ↔
        IsWeekday e ∧ (weekdaysAfter triggerDate e : ℤ) = offsetDays) ∧
      (offsetType = .businessDays → offsetDays < 0 → ∀ e, e = date ↔
        IsWeekday e ∧ (weekdaysBefore triggerDate e : ℤ) = -offsetDays) := by
  obtain ⟨date, hdate⟩ := exists_returns triggerDate offsetDays offsetType
  have hweekday := isWeekday_of_returns hdate
  refine ⟨date, hdate, hweekday, ?_, ?_, ?_⟩
  · intro htype
    subst htype
    rw [returns_calendarDays.mp hdate]
    exact isLeast_toWeekday (triggerDate+offsetDays)
  · intro htype hoffset e
    subst htype
    have hcount := weekdaysAfter_of_returns hoffset hdate
    constructor
    · intro he
      subst he
      exact ⟨hweekday, hcount⟩
    · intro he
      obtain ⟨hweekday', hcount'⟩ := he
      have hsame : weekdaysAfter triggerDate e = weekdaysAfter triggerDate date := by omega
      exact eq_of_weekdaysAfter hweekday' hweekday (by omega) hsame
  · intro htype hoffset e
    subst htype
    have hcount := weekdaysBefore_of_returns hoffset hdate
    constructor
    · intro he
      subst he
      exact ⟨hweekday, hcount⟩
    · intro he
      obtain ⟨hweekday', hcount'⟩ := he
      have hsame : weekdaysBefore triggerDate e = weekdaysBefore triggerDate date := by omega
      exact eq_of_weekdaysBefore hweekday' hweekday (by omega) hsame

/-! The order of the dates. -/

theorem Returns.le_of_trigger_le {offsetType : OffsetType} {triggerDate triggerDate' offsetDays
    date date' : ℤ} (htrigger : triggerDate ≤ triggerDate')
    (h : Returns triggerDate offsetDays offsetType date)
    (h' : Returns triggerDate' offsetDays offsetType date') : date ≤ date' := by
  cases offsetType with
  | calendarDays =>
    rw [returns_calendarDays.mp h, returns_calendarDays.mp h']
    exact toWeekday_mono (by omega)
  | businessDays =>
    have hweekday := isWeekday_of_returns h
    have hweekday' := isWeekday_of_returns h'
    rcases lt_trichotomy offsetDays 0 with hneg | rfl | hpos
    · have hcount := weekdaysBefore_of_returns hneg h
      have hcount' := weekdaysBefore_of_returns hneg h'
      exact le_of_weekdaysBefore hweekday' htrigger (by omega) (by omega)
    · rw [returns_zero h, returns_zero h']
      exact toWeekday_mono htrigger
    · have hcount := weekdaysAfter_of_returns hpos h
      have hcount' := weekdaysAfter_of_returns hpos h'
      exact le_of_weekdaysAfter hweekday htrigger (by omega) (by omega)

/-- Business days back lie before the trigger, and business days ahead not before the next
weekday from the trigger on. -/
theorem Returns.side {triggerDate offsetDays date : ℤ}
    (h : Returns triggerDate offsetDays .businessDays date) :
    (offsetDays < 0 → date < triggerDate) ∧ (0 ≤ offsetDays → toWeekday triggerDate ≤ date) := by
  constructor
  · intro hneg
    have hcount := weekdaysBefore_of_returns hneg h
    exact lt_of_weekdaysBefore (by omega)
  · intro hnonneg
    rcases eq_or_lt_of_le hnonneg with rfl | hpos
    · exact (returns_zero h).ge
    · have hcount := weekdaysAfter_of_returns hpos h
      have hlt : triggerDate < date := lt_of_weekdaysAfter (by omega)
      exact (isLeast_toWeekday triggerDate).2 ⟨hlt.le, isWeekday_of_returns h⟩

theorem Returns.le_of_offset_le {offsetType : OffsetType} {triggerDate offsetDays offsetDays'
    date date' : ℤ} (hoffset : offsetDays ≤ offsetDays')
    (h : Returns triggerDate offsetDays offsetType date)
    (h' : Returns triggerDate offsetDays' offsetType date') : date ≤ date' := by
  cases offsetType with
  | calendarDays =>
    rw [returns_calendarDays.mp h, returns_calendarDays.mp h']
    exact toWeekday_mono (by omega)
  | businessDays =>
    have hweekday := isWeekday_of_returns h
    have hweekday' := isWeekday_of_returns h'
    by_cases hneg : offsetDays < 0
    · by_cases hneg' : offsetDays' < 0
      · have hcount := weekdaysBefore_of_returns hneg h
        have hcount' := weekdaysBefore_of_returns hneg' h'
        have hfewer : weekdaysBefore triggerDate date' ≤ weekdaysBefore triggerDate date := by omega
        exact le_of_weekdaysBefore hweekday' le_rfl (by omega) hfewer
      · -- the trigger lies between the dates
        have hbefore := h.side.1 hneg
        have hafter := h'.side.2 (not_lt.mp hneg')
        have htrigger := le_toWeekday triggerDate
        omega
    · rcases eq_or_lt_of_le (not_lt.mp hneg) with rfl | hpos
      · rw [returns_zero h]
        exact h'.side.2 hoffset
      · have hcount := weekdaysAfter_of_returns hpos h
        have hcount' := weekdaysAfter_of_returns (hpos.trans_le hoffset) h'
        have hfewer : weekdaysAfter triggerDate date ≤ weekdaysAfter triggerDate date' := by omega
        exact le_of_weekdaysAfter hweekday le_rfl (by omega) hfewer

/-- For each type of offset the dates are in the order of the triggers and of the offsets. -/
theorem computeDeadlineDate_mono (offsetType : OffsetType) :
    ∃ deadline : ℤ → ℤ → ℤ,
      (∀ triggerDate offsetDays,
        Returns triggerDate offsetDays offsetType (deadline triggerDate offsetDays)) ∧
      (∀ offsetDays, Monotone fun triggerDate => deadline triggerDate offsetDays) ∧
      ∀ triggerDate, Monotone (deadline triggerDate) := by
  choose deadline hdeadline using fun triggerDate offsetDays =>
    exists_returns triggerDate offsetDays offsetType
  refine ⟨deadline, hdeadline, ?_, ?_⟩
  · intro offsetDays triggerDate triggerDate' htrigger
    exact (hdeadline triggerDate offsetDays).le_of_trigger_le htrigger (hdeadline _ _)
  · intro triggerDate offsetDays offsetDays' hoffset
    exact (hdeadline triggerDate offsetDays).le_of_offset_le hoffset (hdeadline _ _)

/-! Deadlines that are counted back. -/

/-- The weekend before the trigger swallows one or two calendar days. -/
def WeekendBetween (triggerDate offsetDays : ℤ) : Prop :=
  (offsetDays = -1 ∧ (weekday triggerDate = 6 ∨ weekday triggerDate = 0)) ∨
    (offsetDays = -2 ∧ weekday triggerDate = 0)

theorem toWeekday_lt_iff {triggerDate offsetDays : ℤ} (hoffset : offsetDays < 0) :
    toWeekday (triggerDate+offsetDays) < triggerDate ↔ ¬WeekendBetween triggerDate offsetDays := by
  unfold toWeekday WeekendBetween weekday
  split_ifs <;> omega

theorem Returns.lt_iff {triggerDate offsetDays date : ℤ} {offsetType : OffsetType}
    (hoffset : offsetDays < 0) (h : Returns triggerDate offsetDays offsetType date) :
    date < triggerDate ↔
      ¬(offsetType = .calendarDays ∧ WeekendBetween triggerDate offsetDays) := by
  cases offsetType with
  | calendarDays =>
    rw [returns_calendarDays.mp h, toWeekday_lt_iff hoffset]
    simp
  | businessDays =>
    have hlt := h.side.1 hoffset
    simp [hlt]

/-- No rule of `FEDERAL_CIVIL_RULES` is caught by it. -/
theorem federalLookBack_lt {name triggerEvent : String} {offsetDays triggerDate date : ℤ}
    (hrule : (name, triggerEvent, offsetDays) ∈ federalCivilRules) (hoffset : offsetDays < 0)
    (h : Returns triggerDate offsetDays .calendarDays date) : date < triggerDate := by
  have hfar : ∀ rule ∈ federalCivilRules, rule.2.2 < 0 → rule.2.2 < -2 := by decide
  have hback := hfar _ hrule hoffset
  refine (h.lt_iff hoffset).mpr fun hweekend => ?_
  obtain ⟨-, hweekend⟩ := hweekend
  unfold WeekendBetween at hweekend
  simp only at hback
  omega

/-! The days of the calendar. -/

theorem isWeekday_ordinal (day : Day) : IsWeekday day.ordinal ↔ day.weekday < 5 := by
  unfold IsWeekday weekday Day.weekday
  omega

theorem ordinal_inj {day day' : Day} : day.ordinal = day'.ordinal ↔ day = day' := by
  cases day
  cases day'
  simp

/-- Within the calendar the loop walks the same days. -/
theorem walk_eq_some_iff {direction : ℤ} (hdir : direction = 1 ∨ direction = -1) {room n : ℕ}
    {day last : Day} : Day.walk direction room n day = some last ↔
      countDown IsWeekday (fun current => current+direction) room n (day.ordinal : ℤ) =
        some (last.ordinal : ℤ) := by
  induction room generalizing n day with
  | zero =>
    cases n with
    | zero => simp [Day.walk, countDown, ← ordinal_inj]
    | succ n => simp [Day.walk, countDown]
  | succ room ih =>
    cases n with
    | zero => simp [Day.walk, countDown, ← ordinal_inj]
    | succ n =>
      cases hadd : day.add direction with
      | none =>
        -- there is no way back into the calendar
        have hout (m : ℕ) :
            countDown IsWeekday (fun current => current+direction) room m
              (day.ordinal+direction) ≠ some (last.ordinal : ℤ) := by
          intro hlast
          obtain ⟨k, -, -, hk⟩ := countDown_eq_some_iff.mp hlast
          rw [iterate_add] at hk
          have hone := day.one_le
          have hmax := day.le_max
          have hone' := last.one_le
          have hmax' := last.le_max
          have hin : 1 ≤ day.ordinal+direction ∧ day.ordinal+direction ≤ 3652059 := by
            rcases hdir with rfl | rfl <;> constructor <;> omega
          rw [Day.add, dif_pos hin] at hadd
          cases hadd
        simp only [Day.walk, hadd, countDown]
        split_ifs
        · exact iff_of_false id (hout n)
        · exact iff_of_false id (hout (n+1))
      | some next =>
        have hord := Day.add_eq_some_iff.mp hadd
        simp only [Day.walk, hadd, countDown, ← hord, isWeekday_ordinal]
        split_ifs
        · exact ih
        · exact ih

theorem toWeekday_eq_some_iff {day date : Day} :
    day.toWeekday = some date ↔ toWeekday day.ordinal = date.ordinal := by
  have hsaturday : weekday day.ordinal = 5 ↔ day.weekday = 5 := by
    unfold weekday Day.weekday
    omega
  have hsunday : weekday day.ordinal = 6 ↔ day.weekday = 6 := by
    unfold weekday Day.weekday
    omega
  simp only [Day.toWeekday, toWeekday, hsaturday, hsunday]
  split_ifs
  · rw [Day.add_eq_some_iff, eq_comm]
  · rw [Day.add_eq_some_iff, eq_comm]
  · simp [← ordinal_inj]

theorem computed_more {fuel more : ℕ} (hmore : fuel ≤ more) {triggerDate offsetDays day : ℤ}
    {offsetType : OffsetType} (h : computed fuel triggerDate offsetDays offsetType = some day) :
    computed more triggerDate offsetDays offsetType = some day := by
  cases offsetType with
  | calendarDays => exact h
  | businessDays =>
    obtain ⟨k, hk, hrest⟩ := countDown_eq_some_iff.mp h
    exact countDown_eq_some_iff.mpr ⟨k, hk.trans hmore, hrest⟩

/-- A loop that ends in the calendar takes no more steps than there are days. -/
theorem walk_of_countDown {direction : ℤ} (hdir : direction = 1 ∨ direction = -1) {fuel n : ℕ}
    {day last : Day} (h : countDown IsWeekday (fun current => current+direction) fuel n
      (day.ordinal : ℤ) = some (last.ordinal : ℤ)) :
    Day.walk direction 3652059 n day = some last := by
  obtain ⟨k, -, hleast, hlast⟩ := countDown_eq_some_iff.mp h
  have hk : k ≤ 3652059 := by
    have hone := day.one_le
    have hmax := day.le_max
    have hone' := last.one_le
    have hmax' := last.le_max
    rw [iterate_add] at hlast
    rcases hdir with rfl | rfl <;> omega
  exact (walk_eq_some_iff hdir).mpr (countDown_eq_some_iff.mpr ⟨k, hk, hleast, hlast⟩)

/-- In the calendar a date is given exactly if the day before the rule for weekends is in it,
and it is the same date. -/
theorem computeDeadlineDate_eq_some_iff {triggerDate date : Day} {offsetDays : ℤ}
    {offsetType : OffsetType} :
    Deadlines.computeDeadlineDate triggerDate offsetDays offsetType = some date ↔
      Returns triggerDate.ordinal offsetDays offsetType date.ordinal ∧
        ∃ (fuel : ℕ) (day : Day),
          computed fuel triggerDate.ordinal offsetDays offsetType = some (day.ordinal : ℤ) := by
  constructor
  · intro h
    obtain ⟨day, hday, hdate⟩ := Option.bind_eq_some_iff.mp h
    have hcomputed : computed 3652059 triggerDate.ordinal offsetDays offsetType =
        some (day.ordinal : ℤ) := by
      cases offsetType with
      | calendarDays => exact congrArg some (Day.add_eq_some_iff.mp hday).symm
      | businessDays => exact (walk_eq_some_iff (direction_cases offsetDays)).mp hday
    refine ⟨⟨3652059, fun more hmore => ?_⟩, 3652059, day, hcomputed⟩
    rw [computeDeadlineDate, computed_more hmore hcomputed, Option.map_some,
      toWeekday_eq_some_iff.mp hdate]
  · intro h
    obtain ⟨hreturns, fuel, day, hcomputed⟩ := h
    have hdate : Returns triggerDate.ordinal offsetDays offsetType (toWeekday day.ordinal) := by
      refine ⟨fuel, fun more hmore => ?_⟩
      rw [computeDeadlineDate, computed_more hmore hcomputed, Option.map_some]
    refine Option.bind_eq_some_iff.mpr ⟨day, ?_, toWeekday_eq_some_iff.mpr (hdate.unique hreturns)⟩
    cases offsetType with
    | calendarDays => exact Day.add_eq_some_iff.mpr (Option.some.inj hcomputed).symm
    | businessDays => exact walk_of_countDown (direction_cases offsetDays) hcomputed

end LegalForge.DeadlineDates
