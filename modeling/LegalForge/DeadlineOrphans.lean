import LegalForge.DeadlineTables

/-! Generated calendar events and the deadlines that refer to them. Deleting a rule
takes its deadlines along by a foreign key, and leaves their calendar events. -/
namespace LegalForge.Deadlines
open Transition

/-- Generated events still in the calendar have a deadline, and deadlines have
their event. -/
structure NoOrphans (s : State) : Prop where
  event : ∀ e ∈ s.db.events, e.id ∈ s.created → ∃ d ∈ s.db.deadlines, d.calendarEventId = e.id
  deadline : ∀ d ∈ s.db.deadlines, ∃ e ∈ s.db.events, e.id = d.calendarEventId

/-- All deadlines come from the generation. -/
structure Recorded (s : State) : Prop where
  valid : Valid s.db
  created : ∀ d ∈ s.db.deadlines, d.calendarEventId ∈ s.created

/-- No rule with generated deadlines is deleted. -/
def KeepsEvents (db : Db) (r : Request) : Prop :=
  match r.call with
  | .deleteDeadlineRule ruleId => ∀ d ∈ db.deadlines, d.deadlineRuleId ≠ ruleId
  | _ => True

theorem keepsEvents_of_ne {db : Db} {r : Request}
    (h : ∀ ruleId, r.call ≠ .deleteDeadlineRule ruleId) : KeepsEvents db r := by
  unfold KeepsEvents
  split
  · rename_i ruleId hcall
    exact absurd hcall (h ruleId)
  · trivial

theorem noOrphans_deleteDeadlineRule_iff {s : State} {rule : DeadlineRule} (hs : Recorded s)
    (hno : NoOrphans s) :
    NoOrphans ⟨deleteDeadlineRule s.db rule, s.created⟩ ↔
      ∀ d ∈ s.db.deadlines, d.deadlineRuleId ≠ rule.id := by
  constructor
  · intro h d hd hrule
    obtain ⟨e, he, hid⟩ := hno.deadline d hd
    obtain ⟨other, hother, hevent⟩ := h.event e he (hid ▸ hs.created d hd)
    obtain ⟨hmem, hne⟩ := List.mem_filter.mp hother
    have hsame : other = d :=
      List.inj_on_of_nodup_map hs.valid.deadline_events hmem hd (hevent.trans hid)
    exact of_decide_eq_true hne (hsame ▸ hrule)
  · intro h
    have hkept : (deleteDeadlineRule s.db rule).deadlines = s.db.deadlines :=
      List.filter_eq_self.mpr fun d hd => decide_eq_true (h d hd)
    constructor
    · intro e he hcreated
      rw [hkept]
      exact hno.event e he hcreated
    · intro d hd
      rw [hkept] at hd
      exact hno.deadline d hd

/-- A trigger event takes along the events of its deadlines, and its new deadlines
come with their events. -/
theorem noOrphans_regenerated {s : State} {db' : Db} {triggerId : Uuid}
    {generated : List GeneratedDeadline} {events : List CalendarEvent} (hno : NoOrphans s)
    (hv' : Valid db')
    (hdeadlines : db'.deadlines =
      s.db.deadlines.filter (fun d => d.triggerEventId ≠ triggerId)++generated)
    (hevents : db'.events = s.db.events.filter (fun e => e.id ∉ eventIdsOf s.db triggerId)++events)
    (hids : events.map CalendarEvent.id = generated.map GeneratedDeadline.calendarEventId) :
    NoOrphans ⟨db', s.created++generated.map GeneratedDeadline.calendarEventId⟩ := by
  have hnew : ∀ eventId ∈ generated.map GeneratedDeadline.calendarEventId,
      ∃ d ∈ db'.deadlines, d.calendarEventId = eventId := by
    intro eventId hmem
    obtain ⟨d, hd, hid⟩ := List.mem_map.mp hmem
    rw [hdeadlines]
    exact ⟨d, List.mem_append_right _ hd, hid⟩
  constructor
  · intro e he hcreated
    simp only [hevents] at he
    rcases List.mem_append.mp he with he | he
    · obtain ⟨hmem, hkept⟩ := List.mem_filter.mp he
      rcases List.mem_append.mp hcreated with hcreated | hcreated
      · obtain ⟨d, hd, hid⟩ := hno.event e hmem hcreated
        have hother : d.triggerEventId ≠ triggerId := by
          intro htrigger
          exact of_decide_eq_true hkept (mem_eventIdsOf.mpr ⟨d, hd, htrigger, hid⟩)
        refine ⟨d, ?_, hid⟩
        simp only [hdeadlines]
        exact List.mem_append_left _ (List.mem_filter.mpr ⟨hd, decide_eq_true hother⟩)
      · exact hnew e.id hcreated
    · exact hnew e.id (hids ▸ List.mem_map_of_mem he)
  · intro d hd
    exact List.mem_map.mp (hv'.deadline_event d hd)

theorem Recorded.serve {s : State} (hs : Recorded s) (r : Request) : Recorded (serve s r) := by
  refine ⟨hs.valid.serve r, ?_⟩
  rcases serve_cases s r with ⟨error, -, hserve⟩ | ⟨generated, db', heffect, hserve⟩
  · exact hserve.symm ▸ hs.created
  · rw [hserve]
    intro d hd
    rcases effect_tables hs.valid heffect with ⟨-, hdeadlines, -⟩ | hrest
    · exact List.mem_append_left _ (hs.created d (hdeadlines ▸ hd))
    · rcases hrest with ⟨rule, ruleId, -, -, -, -, rfl⟩ | ⟨triggerId, events, hdeadlines, -⟩
      · exact List.mem_append_left _ (hs.created d (List.mem_of_mem_filter hd))
      · simp only [hdeadlines] at hd
        rcases List.mem_append.mp hd with hd | hd
        · exact List.mem_append_left _ (hs.created d (List.mem_of_mem_filter hd))
        · exact List.mem_append_right _ (List.mem_map_of_mem hd)

/-- A rule that is not there has no deadlines. -/
theorem keepsEvents_of_error {db : Db} {r : Request} {error : HttpError} (hv : Valid db)
    (h : respond db r = .error error) : KeepsEvents db r := by
  unfold KeepsEvents
  split
  · rename_i ruleId hcall
    intro d hd hrule
    have hnone : getDeadlineRule db ruleId = none := by
      simp only [respond, hcall] at h
      split at h
      · assumption
      · cases h
    exact Table.ne_of_fresh (hv.deadline_rule d hd) (Table.find_eq_none_iff.mp hnone) hrule
  · trivial

theorem noOrphans_serve_iff {s : State} {r : Request} (hs : Recorded s) (hno : NoOrphans s) :
    NoOrphans (serve s r) ↔ KeepsEvents s.db r := by
  rcases serve_cases s r with ⟨error, herror, hserve⟩ | ⟨generated, db', heffect, hserve⟩
  · rw [hserve]
    exact iff_of_true hno (keepsEvents_of_error hs.valid herror)
  · rw [hserve]
    rcases effect_tables hs.valid heffect with ⟨rfl, hdeadlines, hevents, hcall⟩ | hrest
    · refine iff_of_true ?_ (keepsEvents_of_ne hcall)
      rw [List.map_nil, List.append_nil]
      constructor
      · simpa only [hdeadlines, hevents] using hno.event
      · simpa only [hdeadlines, hevents] using hno.deadline
    · rcases hrest with
        ⟨rule, ruleId, hcall, -, rfl, rfl, rfl⟩ | ⟨triggerId, events, hdeadlines, hevents, hids, -, hcall⟩
      · rw [List.map_nil, List.append_nil, KeepsEvents, hcall]
        exact noOrphans_deleteDeadlineRule_iff hs hno
      · exact iff_of_true
          (noOrphans_regenerated hno (hs.valid.effect heffect) hdeadlines hevents hids)
          (keepsEvents_of_ne hcall)

/-- Generated events and deadlines stay paired throughout a run exactly when no rule
with generated deadlines is deleted. -/
theorem noOrphans_throughout_iff {s : State} (hs : Recorded s) (rs : List Request) :
    Throughout step NoOrphans s rs ↔
      NoOrphans s ∧ Along step (fun s r _ => KeepsEvents s.db r) s rs := by
  refine throughout_iff_along (I := Recorded) ?_ ?_ hs rs
  · intro s r t hrecorded hstep
    obtain rfl := Option.some.inj hstep
    exact hrecorded.serve r
  · intro s r t hrecorded hno hstep
    obtain rfl := Option.some.inj hstep
    exact noOrphans_serve_iff hrecorded hno

theorem recorded_emptyDb : Recorded ⟨emptyDb, []⟩ :=
  ⟨valid_emptyDb, by decide⟩

/-- A rule that has given a trigger event its deadline is deleted. -/
def deletedRule : List Request :=
  [⟨.createRuleSet stateRules, 7, drawsFrom 10⟩,
   ⟨.applyRules 1 10, 7, drawsFrom 20⟩,
   ⟨.addDeadlineRule 10 discoveryCutoff, 7, drawsFrom 30⟩,
   ⟨.createTrigger 1 trialDate, 7, drawsFrom 40⟩,
   ⟨.deleteDeadlineRule 30, 7, drawsFrom 50⟩]

theorem noOrphans_throughout_deletedRule :
    Throughout step NoOrphans ⟨emptyDb, []⟩ deletedRule ↔
      NoOrphans ⟨emptyDb, []⟩ ∧
        Along step (fun s r _ => KeepsEvents s.db r) ⟨emptyDb, []⟩ deletedRule :=
  noOrphans_throughout_iff recorded_emptyDb deletedRule

theorem exec_deletedRule :
    (exec step ⟨emptyDb, []⟩ deletedRule).map (fun s =>
        (s.db.deadlines, s.db.events.map CalendarEvent.id, s.created)) =
      some ([], [41], [41]) := by
  decide +kernel

/-- The deadline is gone and its entry stays in the calendar. -/
theorem not_noOrphans_deletedRule : ¬Throughout step NoOrphans ⟨emptyDb, []⟩ deletedRule := by
  intro h
  obtain ⟨s, hrun, hs⟩ := Option.map_eq_some_iff.mp exec_deletedRule
  obtain ⟨hnone, hrest⟩ := Prod.mk.inj hs
  obtain ⟨hevents, hcreated⟩ := Prod.mk.inj hrest
  obtain ⟨e, he, hid⟩ := List.mem_map.mp (hevents ▸ List.mem_singleton_self (41 : Uuid))
  have hmem : e.id ∈ s.created := by
    rw [hid, hcreated]
    exact List.mem_singleton_self 41
  obtain ⟨d, hd, -⟩ := (h.final hrun).event e he hmem
  rw [hnone] at hd
  cases hd

end LegalForge.Deadlines
