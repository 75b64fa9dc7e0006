import LegalForge.AgedReceivables
import LegalForge.DoubleMonotone
import LegalForge.GroupedTotals

/-! The utilization report and the report by practice area beside the dashboard: what the rows of
a period have in sum, and where the rate of the firm lies among those of its users. -/
namespace LegalForge.Reports
open Billing Rows

/-- A database whose entries are of at least a minute, and of a matter that it has. -/
structure WorkedDb extends ReportDb where
  minutesPos : ∀ e ∈ timeEntries, 1 ≤ e.durationMinutes
  entryMatter : ∀ e ∈ timeEntries, e.matterId ∈ matters.map Matters.Matter.id

structure UtilizationReport where
  userId : Uuid
  userName : String
  totalHours : ℚ
  billableHours : ℚ
  nonBillableHours : ℚ
  utilizationRate : ℚ

/-- A row of the query, before its minutes become hours. -/
structure UtilizationRow where
  userId : Uuid
  userName : String
  totalMinutes : ℤ
  billableMinutes : ℤ
  nonBillableMinutes : ℤ

/-- An entry with its user. -/
abbrev WorkedRow := TimeEntry × Auth.User

/-- `case((condition, duration_minutes), else_=0)` -/
def minutesIf (condition : Bool) (e : TimeEntry) : ℤ :=
  if condition then e.durationMinutes else 0

variable (db : ReportDb) (startDate endDate : Date)

def workedRows : List WorkedRow :=
  (join (fun e u => e.userId = u.id) db.timeEntries db.users).filter
    fun r => within startDate endDate (some r.1.date)

/-- `GROUP BY time_entries.user_id, users.first_name, users.last_name` -/
def workedKey (r : WorkedRow) : Uuid × String × String :=
  (r.1.userId, r.2.firstName, r.2.lastName)

def utilizationRow (g : (Uuid × String × String) × List WorkedRow) : UtilizationRow where
  userId := g.1.1
  userName := g.1.2.1++" "++g.1.2.2
  totalMinutes := total (fun r => r.1.durationMinutes) g.2
  billableMinutes := total (fun r => minutesIf r.1.billable r.1) g.2
  nonBillableMinutes := total (fun r => minutesIf (!r.1.billable) r.1) g.2

/-- The most minutes first. The order of equal rows is left to the database. -/
def utilizationRows (tie : Uuid → ℕ) : List UtilizationRow :=
  ((groupBy workedKey (workedRows db startDate endDate)).map utilizationRow).mergeSort fun r r' =>
    if r.totalMinutes = r'.totalMinutes then tie r.userId ≤ tie r'.userId
    else r'.totalMinutes ≤ r.totalMinutes

def UtilizationRow.report (r : UtilizationRow) : UtilizationReport where
  userId := r.userId
  userName := r.userName
  totalHours := roundedHours r.totalMinutes
  billableHours := roundedHours r.billableMinutes
  nonBillableHours := roundedHours r.nonBillableMinutes
  utilizationRate := percentage r.billableMinutes r.totalMinutes

/-- `get_utilization_report` -/
def getUtilizationReport (tie : Uuid → ℕ) : List UtilizationReport :=
  (utilizationRows db startDate endDate tie).map UtilizationRow.report

structure BillableHoursSummary where
  userId : Uuid
  userName : String
  practiceArea : String
  billableHours : ℚ
  billableAmountCents : ℤ

structure AreaRow where
  userId : Uuid
  userName : String
  practiceArea : Matters.LitigationType
  billableMinutes : ℤ
  billableAmountCents : ℚ

def areaRows : List (WorkedRow × Matters.Matter) :=
  (join (fun r m => r.1.matterId = m.id)
    (join (fun e u => e.userId = u.id) db.timeEntries db.users) db.matters).filter fun r =>
      within startDate endDate (some r.1.1.date) && r.1.1.billable

/-- `GROUP BY time_entries.user_id, users.first_name, users.last_name, matters.litigation_type` -/
def areaKey (r : WorkedRow × Matters.Matter) : (Uuid × String × String) × Matters.LitigationType :=
  (workedKey r.1, r.2.litigationType)

def areaRow (g : ((Uuid × String × String) × Matters.LitigationType) ×
    List (WorkedRow × Matters.Matter)) : AreaRow where
  userId := g.1.1.1
  userName := g.1.1.2.1++" "++g.1.1.2.2
  practiceArea := g.1.2
  billableMinutes := total (fun r => r.1.1.durationMinutes) g.2
  billableAmountCents := billedValue (g.2.map fun r => r.1.1)

def billableAreaRows (tie : Uuid → Matters.LitigationType → ℕ) : List AreaRow :=
  ((groupBy areaKey (areaRows db startDate endDate)).map areaRow).mergeSort fun r r' =>
    if r.billableMinutes = r'.billableMinutes then
      tie r.userId r.practiceArea ≤ tie r'.userId r'.practiceArea
    else r'.billableMinutes ≤ r.billableMinutes

def AreaRow.report (r : AreaRow) : BillableHoursSummary where
  userId := r.userId
  userName := r.userName
  practiceArea := r.practiceArea.value
  billableHours := roundedHours r.billableMinutes
  billableAmountCents := Double.trunc r.billableAmountCents

/-- `get_billable_hours_by_area` -/
def getBillableHoursByArea (tie : Uuid → Matters.LitigationType → ℕ) : List BillableHoursSummary :=
  (billableAreaRows db startDate endDate tie).map AreaRow.report

/-! Rates. -/

theorem tenths_mono {x y : ℚ} (h : x ≤ y) : tenths x ≤ tenths y := by
  have hunits : (Double.roundEven (10*x):ℚ) ≤ Double.roundEven (10*y) := by
    exact_mod_cast Double.roundEven_mono (by linarith)
  exact Double.div_mono_left (by norm_num) hunits

/-- A larger share is not reported as a smaller rate, through all three roundings. -/
theorem percentage_mono {part whole part' whole' : ℤ} (hwhole : 0 < whole) (hwhole' : 0 < whole')
    (h : (part:ℚ)/whole ≤ part'/whole') : percentage part whole ≤ percentage part' whole' := by
  rw [percentage, percentage, if_pos hwhole, if_pos hwhole']
  apply tenths_mono
  apply Double.round_mono
  have hquotient : Double.div part whole ≤ Double.div part' whole' := Double.round_mono h
  linarith

theorem percentage_zero (whole : ℤ) : percentage 0 whole = 0 := by
  have hzero : Double.round 0 = 0 := if_pos rfl
  have heven : Double.roundEven 0 = 0 := by
    have hint := Double.roundEven_intCast 0
    rwa [Int.cast_zero] at hint
  unfold percentage tenths Double.mul Double.div
  split_ifs
  · rw [Int.cast_zero, zero_div, hzero, zero_mul, hzero, mul_zero, heven, Int.cast_zero, zero_div, hzero]
  · rfl

theorem percentage_self {whole : ℤ} (h : 0 < whole) : percentage whole whole = 100 := by
  have hone : Double.round 1 = 1 := by
    have hint := Double.round_intCast (n := 1) (by norm_num)
    rwa [Int.cast_one] at hint
  have hhundred : Double.round 100 = 100 := by
    have hint := Double.round_intCast (n := 100) (by norm_num)
    exact_mod_cast hint
  have htenths : Double.roundEven (10*100) = 1000 := by
    have hint := Double.roundEven_intCast 1000
    rw [← hint]
    norm_num
  have hne : (whole:ℚ) ≠ 0 := by exact_mod_cast h.ne'
  have hlast : ((1000 : ℤ) : ℚ)/10 = 100 := by norm_num
  rw [percentage, if_pos h, tenths, Double.mul, Double.div, Double.div, div_self hne, hone, one_mul,
    hhundred, htenths, hlast, hhundred]

/-- A rate of some of the minutes is one of 0 to 100 percent. -/
theorem percentage_mem {part whole : ℤ} (hpart : 0 ≤ part) (hle : part ≤ whole) :
    0 ≤ percentage part whole ∧ percentage part whole ≤ 100 := by
  rcases hpart.eq_or_lt with rfl | hpos
  · rw [percentage_zero]
    norm_num
  · have hwhole : 0 < whole := hpos.trans_le hle
    have hcast : (0:ℚ) < whole := by exact_mod_cast hwhole
    have hlow : ((0 : ℤ) : ℚ)/whole ≤ part/whole := by
      gcongr
    have hhigh : (part:ℚ)/whole ≤ whole/whole := by
      gcongr
    constructor
    · rw [← percentage_zero whole]
      exact percentage_mono hwhole hwhole hlow
    · rw [← percentage_self hwhole]
      exact percentage_mono hwhole hwhole hhigh

/-! Rows. -/

section
variable {db : ReportDb} {startDate endDate : Date}

/-- The entries of the period. -/
def workedEntries (db : ReportDb) (startDate endDate : Date) : List TimeEntry :=
  db.timeEntries.filter fun e => within startDate endDate (some e.date)

theorem mem_workedRows {r : WorkedRow} : r ∈ workedRows db startDate endDate ↔
    r.1 ∈ workedEntries db startDate endDate ∧ r.2 ∈ db.users ∧ r.1.userId = r.2.id := by
  rw [workedRows, workedEntries, List.mem_filter, mem_join, List.mem_filter, decide_eq_true_iff]
  constructor
  · rintro ⟨⟨he, hu, huser⟩, hdate⟩
    exact ⟨⟨he, hdate⟩, hu, huser⟩
  · rintro ⟨⟨he, hdate⟩, hu, huser⟩
    exact ⟨⟨he, hu, huser⟩, hdate⟩

/-- The join with the users counts every entry once. -/
theorem total_workedRows (f : TimeEntry → ℤ) :
    total (fun r : WorkedRow => f r.1) (workedRows db startDate endDate) =
      total f (workedEntries db startDate endDate) := by
  rw [workedRows, workedEntries, total_filter, total_filter]
  exact total_join_key (f := fun e => if within startDate endDate (some e.date) then f e else 0)
    db.userKeys db.entryUser

/-- The user of a row has one name, so that names do not split a user. -/
theorem workedKey_inj {r r' : WorkedRow} (hr : r ∈ workedRows db startDate endDate)
    (hr' : r' ∈ workedRows db startDate endDate) (h : r.1.userId = r'.1.userId) :
    workedKey r = workedKey r' := by
  obtain ⟨-, hu, huser⟩ := mem_workedRows.mp hr
  obtain ⟨-, hu', huser'⟩ := mem_workedRows.mp hr'
  have hsame : r.2 = r'.2 :=
    List.inj_on_of_nodup_map db.userKeys hu hu' (huser.symm.trans (h.trans huser'))
  rw [workedKey, workedKey, h, hsame]

theorem utilizationRows_perm (db : ReportDb) (startDate endDate : Date) (tie : Uuid → ℕ) :
    (utilizationRows db startDate endDate tie).Perm
      ((groupBy workedKey (workedRows db startDate endDate)).map utilizationRow) :=
  List.mergeSort_perm ..

/-- One row for each user. -/
theorem nodup_utilizationRows (db : ReportDb) (startDate endDate : Date) (tie : Uuid → ℕ) :
    ((utilizationRows db startDate endDate tie).map UtilizationRow.userId).Nodup := by
  have hperm := (utilizationRows_perm db startDate endDate tie).map UtilizationRow.userId
  refine hperm.nodup_iff.mpr ?_
  rw [List.map_map, groupBy, List.map_map]
  refine List.Nodup.map_on ?_ (List.nodup_dedup _)
  intro k hk k' hk' hsame
  obtain ⟨r, hr, rfl⟩ := List.mem_map.mp (List.mem_dedup.mp hk)
  obtain ⟨r', hr', rfl⟩ := List.mem_map.mp (List.mem_dedup.mp hk')
  exact workedKey_inj hr hr' hsame

/-- A row counts the entries of its user. -/
theorem utilizationRow_of_mem {tie : Uuid → ℕ} {row : UtilizationRow}
    (h : row ∈ utilizationRows db startDate endDate tie) :
    ∃ rows : List WorkedRow, rows ≠ [] ∧
      rows = (workedRows db startDate endDate).filter (fun r => r.1.userId = row.userId) ∧
      row.totalMinutes = total (fun r => r.1.durationMinutes) rows ∧
      row.billableMinutes = total (fun r => minutesIf r.1.billable r.1) rows ∧
      row.nonBillableMinutes = total (fun r => minutesIf (!r.1.billable) r.1) rows := by
  obtain ⟨g, hg, rfl⟩ := List.mem_map.mp ((utilizationRows_perm db startDate endDate tie).mem_iff.mp h)
  obtain ⟨hkey, hrows⟩ := mem_groupBy.mp hg
  obtain ⟨r, hr, hrkey⟩ := List.mem_map.mp hkey
  refine ⟨g.2, ?_, ?_, rfl, rfl, rfl⟩
  · rw [hrows]
    exact List.ne_nil_of_mem (List.mem_filter.mpr ⟨hr, decide_eq_true hrkey⟩)
  · rw [hrows]
    refine List.filter_congr fun r' hr' => ?_
    have hiff : workedKey r' = g.1 ↔ r'.1.userId = (utilizationRow g).userId := by
      constructor
      · exact fun hk => congrArg Prod.fst hk
      · intro hid
        rw [← hrkey]
        refine workedKey_inj hr' hr (hid.trans ?_)
        exact (congrArg Prod.fst hrkey).symm
    exact decide_eq_decide.mpr hiff

/-- The join with the matters keeps the billable entries, each once. -/
theorem total_areaRows (db : WorkedDb) (startDate endDate : Date) (f : WorkedRow → ℤ) :
    total (fun r => f r.1) (areaRows db.toReportDb startDate endDate) =
      total (fun r => if r.1.billable then f r else 0) (workedRows db.toReportDb startDate endDate) := by
  have hforeign : ∀ r ∈ join (fun e u => e.userId = u.id) db.timeEntries db.users,
      r.1.matterId ∈ db.matters.map Matters.Matter.id :=
    fun r hr => db.entryMatter r.1 (mem_join.mp hr).1
  rw [areaRows, workedRows, total_filter, total_filter]
  refine (total_join_key (f := fun r : WorkedRow =>
    if within startDate endDate (some r.1.date) && r.1.billable then f r else 0)
    db.matterKeys hforeign).trans ?_
  apply total_congr
  intro r _
  cases within startDate endDate (some r.1.date) with
  | true => rfl
  | false => rfl

/-- The areas of a user have the billable minutes of the user in sum. -/
theorem total_billableAreaRows (db : WorkedDb) (startDate endDate : Date)
    (tie : Uuid → Matters.LitigationType → ℕ) (u : Uuid) :
    total AreaRow.billableMinutes
        ((billableAreaRows db.toReportDb startDate endDate tie).filter fun a => a.userId = u) =
      total (fun r => minutesIf r.1.billable r.1)
        ((workedRows db.toReportDb startDate endDate).filter fun r => r.1.userId = u) := by
  have hperm : (billableAreaRows db.toReportDb startDate endDate tie).Perm
      ((groupBy areaKey (areaRows db.toReportDb startDate endDate)).map areaRow) :=
    List.mergeSort_perm ..
  have hgroups : total AreaRow.billableMinutes
      (((groupBy areaKey (areaRows db.toReportDb startDate endDate)).map areaRow).filter
        fun a => a.userId = u) =
      total (fun r => r.1.1.durationMinutes)
        ((areaRows db.toReportDb startDate endDate).filter fun r => r.1.1.userId = u) := by
    rw [List.filter_map, total_map]
    exact total_groupBy_filter (fun r : WorkedRow × Matters.Matter => r.1.1.durationMinutes) areaKey
      (fun k => k.1.1 = u) _
  rw [total_perm (hperm.filter _), hgroups, total_filter, total_filter]
  refine (total_areaRows db startDate endDate fun r =>
    if decide (r.1.userId = u) = true then r.1.durationMinutes else 0).trans ?_
  apply total_congr
  intro r _
  rw [minutesIf]
  split_ifs <;> rfl

theorem minutesIf_add (e : TimeEntry) :
    minutesIf e.billable e+minutesIf (!e.billable) e = e.durationMinutes := by
  unfold minutesIf
  cases e.billable with
  | true => exact add_zero _
  | false => exact zero_add _

/-- What a row of the report has to satisfy. -/
structure UtilizationRow.Sound (row : UtilizationRow) : Prop where
  split : row.billableMinutes+row.nonBillableMinutes = row.totalMinutes
  billable : 0 ≤ row.billableMinutes
  nonBillable : 0 ≤ row.nonBillableMinutes
  total : 0 < row.totalMinutes

theorem WorkedDb.sound_row {db : WorkedDb} {tie : Uuid → ℕ} {row : UtilizationRow}
    (h : row ∈ utilizationRows db.toReportDb startDate endDate tie) : row.Sound := by
  obtain ⟨rows, hne, hrows, htotal, hbillable, hnonBillable⟩ := utilizationRow_of_mem h
  -- every entry that a row counts has a positive duration
  have hpos : ∀ r ∈ rows, 0 < r.1.durationMinutes := by
    intro r hr
    rw [hrows] at hr
    have hentry := (mem_workedRows.mp (List.mem_filter.mp hr).1).1
    have hminutes := db.minutesPos r.1 (List.mem_filter.mp hentry).1
    omega
  have hnonneg : ∀ (b : TimeEntry → Bool), 0 ≤ total (fun r : WorkedRow => minutesIf (b r.1) r.1) rows := by
    intro b
    apply List.sum_nonneg
    intro x hx
    obtain ⟨r, hr, rfl⟩ := List.mem_map.mp hx
    have hminutes := hpos r hr
    unfold minutesIf
    split_ifs
    · exact hminutes.le
    · exact le_rfl
  refine ⟨?_, ?_, ?_, ?_⟩
  · rw [hbillable, hnonBillable, htotal, ← total_add]
    exact total_congr fun r _ => minutesIf_add r.1
  · rw [hbillable]
    exact hnonneg fun e => e.billable
  · rw [hnonBillable]
    exact hnonneg fun e => !e.billable
  · rw [htotal]
    apply List.sum_pos
    · intro x hx
      obtain ⟨r, hr, rfl⟩ := List.mem_map.mp hx
      exact hpos r hr
    · exact fun hnil => hne (List.map_eq_nil_iff.mp hnil)

/-- The rows of the report have the minutes of the dashboard in sum. -/
theorem total_utilizationRows (db : ReportDb) (startDate endDate : Date) (tie : Uuid → ℕ) :
    total UtilizationRow.totalMinutes (utilizationRows db startDate endDate tie) =
        total TimeEntry.durationMinutes (workedEntries db startDate endDate) ∧
      total UtilizationRow.billableMinutes (utilizationRows db startDate endDate tie) =
        total (fun e => minutesIf e.billable e) (workedEntries db startDate endDate) := by
  have hperm := utilizationRows_perm db startDate endDate tie
  have hgroups : ∀ (column : UtilizationRow → ℤ) (f : TimeEntry → ℤ),
      (∀ g, column (utilizationRow g) = total (fun r => f r.1) g.2) →
      total column (utilizationRows db startDate endDate tie) =
        total f (workedEntries db startDate endDate) := by
    intro column f hcolumn
    rw [total_perm hperm, total_map, ← total_workedRows,
      ← total_groupBy (fun r : WorkedRow => f r.1) workedKey]
    exact total_congr fun g _ => hcolumn g
  exact ⟨hgroups _ _ fun _ => rfl, hgroups _ (fun e => minutesIf e.billable e) fun _ => rfl⟩

theorem utilizationRate_dashboard (db : ReportDb) (startDate endDate : Date) (tie : Uuid → ℕ) :
    (getDashboardSummary db startDate endDate).utilizationRate =
      percentage (total UtilizationRow.billableMinutes (utilizationRows db startDate endDate tie))
        (total UtilizationRow.totalMinutes (utilizationRows db startDate endDate tie)) := by
  obtain ⟨htotal, hbillable⟩ := total_utilizationRows db startDate endDate tie
  rw [htotal, hbillable]
  rfl

/-- The rate of the firm lies between those of two of its users. -/
theorem exists_rates_around {db : WorkedDb} {tie : Uuid → ℕ}
    (hne : utilizationRows db.toReportDb startDate endDate tie ≠ []) :
    (∃ low ∈ getUtilizationReport db.toReportDb startDate endDate tie,
      low.utilizationRate ≤ (getDashboardSummary db.toReportDb startDate endDate).utilizationRate) ∧
    ∃ high ∈ getUtilizationReport db.toReportDb startDate endDate tie,
      (getDashboardSummary db.toReportDb startDate endDate).utilizationRate ≤ high.utilizationRate := by
  have hsound : ∀ r ∈ utilizationRows db.toReportDb startDate endDate tie, 0 < r.totalMinutes :=
    fun r hr => (WorkedDb.sound_row hr).total
  have hpos : ∀ r ∈ utilizationRows db.toReportDb startDate endDate tie, (0:ℚ) < r.totalMinutes :=
    fun r hr => Int.cast_pos.mpr (hsound r hr)
  have hwhole : 0 < total UtilizationRow.totalMinutes
      (utilizationRows db.toReportDb startDate endDate tie) := by
    have hcast := total_pos hpos hne
    rw [← intCast_total] at hcast
    exact_mod_cast hcast
  rw [utilizationRate_dashboard db.toReportDb startDate endDate tie]
  let billable (r : UtilizationRow) : ℚ := r.billableMinutes
  constructor
  · obtain ⟨r, hr, hle⟩ := (exists_share_le hpos hne : ∃ r ∈ _, billable r/_ ≤ total billable _/_)
    rw [← intCast_total, ← intCast_total] at hle
    exact ⟨r.report, List.mem_map_of_mem hr, percentage_mono (hsound r hr) hwhole hle⟩
  · obtain ⟨r, hr, hle⟩ := (exists_le_share hpos hne : ∃ r ∈ _, total billable _/_ ≤ billable r/_)
    rw [← intCast_total, ← intCast_total] at hle
    exact ⟨r.report, List.mem_map_of_mem hr, percentage_mono hwhole (hsound r hr) hle⟩

theorem mem_userIds_utilizationRows {tie : Uuid → ℕ} {u : Uuid} :
    u ∈ (utilizationRows db startDate endDate tie).map UtilizationRow.userId ↔
      ∃ e ∈ workedEntries db startDate endDate, e.userId = u := by
  constructor
  · intro h
    obtain ⟨row, hrow, rfl⟩ := List.mem_map.mp h
    obtain ⟨rows, hne, hrows, -⟩ := utilizationRow_of_mem hrow
    obtain ⟨r, hr⟩ := List.exists_mem_of_ne_nil rows hne
    rw [hrows] at hr
    obtain ⟨hr, huser⟩ := List.mem_filter.mp hr
    exact ⟨r.1, (mem_workedRows.mp hr).1, of_decide_eq_true huser⟩
  · rintro ⟨e, he, rfl⟩
    obtain ⟨user, huser, hid⟩ := List.mem_map.mp (db.entryUser e (List.mem_filter.mp he).1)
    have hr : (e, user) ∈ workedRows db startDate endDate :=
      mem_workedRows.mpr ⟨he, huser, hid.symm⟩
    have hg : (workedKey (e, user), (workedRows db startDate endDate).filter fun r =>
        workedKey r = workedKey (e, user)) ∈ groupBy workedKey (workedRows db startDate endDate) :=
      mem_groupBy.mpr ⟨List.mem_map_of_mem hr, rfl⟩
    have hrow := (utilizationRows_perm db startDate endDate tie).mem_iff.mpr (List.mem_map_of_mem hg)
    exact List.mem_map_of_mem (f := UtilizationRow.userId) hrow

theorem totalMinutes_of_mem {tie : Uuid → ℕ} {row : UtilizationRow}
    (h : row ∈ utilizationRows db startDate endDate tie) :
    row.totalMinutes = total TimeEntry.durationMinutes
      ((workedEntries db startDate endDate).filter fun e => e.userId = row.userId) := by
  obtain ⟨rows, -, hrows, htotal, -⟩ := utilizationRow_of_mem h
  rw [htotal, hrows, total_filter, total_filter, ← total_workedRows]

end

end LegalForge.Reports
