import LegalForge.Deadlines

/-! What the operations on deadlines do to the tables, and the integrity they keep. -/
namespace LegalForge.Deadlines
open Auth Transition

/-- Keys are unique, references point to rows, a matter is linked to a rule set at
most once, and no two deadlines share a calendar event. -/
structure Valid (db : Db) : Prop where
  ruleSet_ids : (db.ruleSets.map CourtRuleSet.id).Nodup
  rule_ids : (db.rules.map DeadlineRule.id).Nodup
  links : (db.configs.map (fun c => (c.matterId, c.ruleSetId))).Nodup
  trigger_ids : (db.triggers.map TriggerEvent.id).Nodup
  deadline_ids : (db.deadlines.map GeneratedDeadline.id).Nodup
  deadline_events : (db.deadlines.map GeneratedDeadline.calendarEventId).Nodup
  rule_ruleSet : ∀ r ∈ db.rules, r.ruleSetId ∈ db.ruleSets.map CourtRuleSet.id
  config_ruleSet : ∀ c ∈ db.configs, c.ruleSetId ∈ db.ruleSets.map CourtRuleSet.id
  trigger_matter : ∀ t ∈ db.triggers, t.matterId ∈ db.matters.map Matter.id
  deadline_trigger : ∀ d ∈ db.deadlines, d.triggerEventId ∈ db.triggers.map TriggerEvent.id
  deadline_rule : ∀ d ∈ db.deadlines, d.deadlineRuleId ∈ db.rules.map DeadlineRule.id
  deadline_event : ∀ d ∈ db.deadlines, d.calendarEventId ∈ db.events.map CalendarEvent.id

theorem insertRuleSet_eq_some {db db' : Db} {ruleSet : CourtRuleSet}
    (h : insertRuleSet db ruleSet = some db') :
    (∀ s ∈ db.ruleSets, s.id ≠ ruleSet.id) ∧
      db' = { db with ruleSets := db.ruleSets++[ruleSet] } := by
  obtain ⟨ruleSets, hinsert, hdb⟩ := Option.bind_eq_some_iff.mp h
  obtain ⟨hfresh, rfl⟩ := Table.insert_eq_some_iff.mp hinsert
  exact ⟨hfresh, (Option.some.inj hdb).symm⟩

theorem insertRule_eq_some {db db' : Db} {rule : DeadlineRule} (h : insertRule db rule = some db') :
    rule.ruleSetId ∈ db.ruleSets.map CourtRuleSet.id ∧ (∀ r ∈ db.rules, r.id ≠ rule.id) ∧
      db' = { db with rules := db.rules++[rule] } := by
  obtain ⟨ruleSet, hset, h⟩ := Option.bind_eq_some_iff.mp h
  obtain ⟨rules, hinsert, hdb⟩ := Option.bind_eq_some_iff.mp h
  obtain ⟨hfresh, rfl⟩ := Table.insert_eq_some_iff.mp hinsert
  exact ⟨Table.exists_find_iff.mp ⟨ruleSet, hset⟩, hfresh, (Option.some.inj hdb).symm⟩

theorem insertConfig_eq_some {db db' : Db} {config : MatterDeadlineConfig}
    (h : insertConfig db config = some db') :
    config.ruleSetId ∈ db.ruleSets.map CourtRuleSet.id ∧ (∀ c ∈ db.configs, c.id ≠ config.id) ∧
      db' = { db with configs := db.configs++[config] } := by
  obtain ⟨matter, -, h⟩ := Option.bind_eq_some_iff.mp h
  obtain ⟨ruleSet, hset, h⟩ := Option.bind_eq_some_iff.mp h
  obtain ⟨configs, hinsert, hdb⟩ := Option.bind_eq_some_iff.mp h
  obtain ⟨hfresh, rfl⟩ := Table.insert_eq_some_iff.mp hinsert
  exact ⟨Table.exists_find_iff.mp ⟨ruleSet, hset⟩, hfresh, (Option.some.inj hdb).symm⟩

theorem insertTrigger_eq_some {db db' : Db} {trigger : TriggerEvent}
    (h : insertTrigger db trigger = some db') :
    trigger.matterId ∈ db.matters.map Matter.id ∧ (∀ t ∈ db.triggers, t.id ≠ trigger.id) ∧
      db' = { db with triggers := db.triggers++[trigger] } := by
  obtain ⟨matter, hmatter, h⟩ := Option.bind_eq_some_iff.mp h
  obtain ⟨triggers, hinsert, hdb⟩ := Option.bind_eq_some_iff.mp h
  obtain ⟨hfresh, rfl⟩ := Table.insert_eq_some_iff.mp hinsert
  exact ⟨Table.exists_find_iff.mp ⟨matter, hmatter⟩, hfresh, (Option.some.inj hdb).symm⟩

theorem Valid.insertRuleSet {db db' : Db} {ruleSet : CourtRuleSet} (hv : Valid db)
    (h : insertRuleSet db ruleSet = some db') : Valid db' := by
  obtain ⟨hfresh, rfl⟩ := insertRuleSet_eq_some h
  have hgrow : ∀ id ∈ db.ruleSets.map CourtRuleSet.id,
      id ∈ (db.ruleSets++[ruleSet]).map CourtRuleSet.id := by
    intro id hid
    rw [List.map_append]
    exact List.mem_append_left _ hid
  exact { hv with
    ruleSet_ids := Table.nodup_append_singleton hv.ruleSet_ids hfresh
    rule_ruleSet := fun r hr => hgrow _ (hv.rule_ruleSet r hr)
    config_ruleSet := fun c hc => hgrow _ (hv.config_ruleSet c hc) }

theorem Valid.insertRule {db db' : Db} {rule : DeadlineRule} (hv : Valid db)
    (h : insertRule db rule = some db') : Valid db' := by
  obtain ⟨hset, hfresh, rfl⟩ := insertRule_eq_some h
  refine { hv with
    rule_ids := Table.nodup_append_singleton hv.rule_ids hfresh
    rule_ruleSet := ?_
    deadline_rule := ?_ }
  · exact List.forall_mem_append.mpr ⟨hv.rule_ruleSet, List.forall_mem_singleton.mpr hset⟩
  · intro d hd
    rw [List.map_append]
    exact List.mem_append_left _ (hv.deadline_rule d hd)

/-- A matter that is not linked to the rule set yet. -/
theorem Valid.insertConfig {db db' : Db} {config : MatterDeadlineConfig} (hv : Valid db)
    (hnew : ∀ c ∈ db.configs, ¬(c.matterId = config.matterId ∧ c.ruleSetId = config.ruleSetId))
    (h : insertConfig db config = some db') : Valid db' := by
  obtain ⟨hset, -, rfl⟩ := insertConfig_eq_some h
  refine { hv with
    links := Table.nodup_append_singleton hv.links ?_
    config_ruleSet := ?_ }
  · intro c hc heq
    exact hnew c hc (Prod.mk.inj heq)
  · exact List.forall_mem_append.mpr ⟨hv.config_ruleSet, List.forall_mem_singleton.mpr hset⟩

theorem Valid.insertTrigger {db db' : Db} {trigger : TriggerEvent} (hv : Valid db)
    (h : insertTrigger db trigger = some db') : Valid db' := by
  obtain ⟨hmatter, hfresh, rfl⟩ := insertTrigger_eq_some h
  refine { hv with
    trigger_ids := Table.nodup_append_singleton hv.trigger_ids hfresh
    trigger_matter := ?_
    deadline_trigger := ?_ }
  · exact List.forall_mem_append.mpr ⟨hv.trigger_matter, List.forall_mem_singleton.mpr hmatter⟩
  · intro d hd
    rw [List.map_append]
    exact List.mem_append_left _ (hv.deadline_trigger d hd)

/-- An update sets neither the key of a rule nor its rule set. -/
theorem changedRule_eq_some {rule changed : DeadlineRule} {data : DeadlineRuleUpdate}
    (h : changedRule rule data = some changed) :
    changed.id = rule.id ∧ changed.ruleSetId = rule.ruleSetId := by
  simp only [changedRule, Option.bind_eq_bind, Option.bind_eq_some_iff, Option.some.injEq] at h
  obtain ⟨_, -, _, -, _, -, _, -, _, -, _, -, _, -, _, -, rfl⟩ := h
  exact ⟨rfl, rfl⟩

theorem updateDeadlineRule_eq_some {db db' : Db} {rule changed : DeadlineRule}
    {data : DeadlineRuleUpdate} (h : updateDeadlineRule db rule data = some (changed, db')) :
    changedRule rule data = some changed ∧
      db' = { db with rules := Table.alter DeadlineRule.id rule.id (fun _ => changed) db.rules } := by
  obtain ⟨row, hrow, hdb⟩ := Option.bind_eq_some_iff.mp h
  obtain ⟨rfl, rfl⟩ := Prod.mk.inj (Option.some.inj hdb)
  exact ⟨hrow, rfl⟩

theorem Valid.alterRule {db : Db} {rule changed : DeadlineRule} (hv : Valid db)
    (hrule : rule ∈ db.rules) (hid : changed.id = rule.id)
    (hset : changed.ruleSetId = rule.ruleSetId) :
    Valid { db with rules := Table.alter DeadlineRule.id rule.id (fun _ => changed) db.rules } := by
  have hids : (Table.alter DeadlineRule.id rule.id (fun _ => changed) db.rules).map DeadlineRule.id =
      db.rules.map DeadlineRule.id :=
    Table.map_key_alter (fun _ _ => hid) db.rules
  refine { hv with
    rule_ids := ?_
    rule_ruleSet := ?_
    deadline_rule := ?_ }
  · exact hids.symm ▸ hv.rule_ids
  · intro r hr
    obtain ⟨old, hold, rfl⟩ := Table.mem_alter.mp hr
    split_ifs
    · exact hset ▸ hv.rule_ruleSet rule hrule
    · exact hv.rule_ruleSet old hold
  · intro d hd
    exact hids.symm ▸ hv.deadline_rule d hd

theorem Valid.filterDeadlines {db : Db} (hv : Valid db) (p : GeneratedDeadline → Bool) :
    Valid { db with deadlines := db.deadlines.filter p } where
  ruleSet_ids := hv.ruleSet_ids
  rule_ids := hv.rule_ids
  links := hv.links
  trigger_ids := hv.trigger_ids
  deadline_ids := hv.deadline_ids.sublist (List.filter_sublist.map _)
  deadline_events := hv.deadline_events.sublist (List.filter_sublist.map _)
  rule_ruleSet := hv.rule_ruleSet
  config_ruleSet := hv.config_ruleSet
  trigger_matter := hv.trigger_matter
  deadline_trigger := fun d hd => hv.deadline_trigger d (List.mem_of_mem_filter hd)
  deadline_rule := fun d hd => hv.deadline_rule d (List.mem_of_mem_filter hd)
  deadline_event := fun d hd => hv.deadline_event d (List.mem_of_mem_filter hd)

theorem Valid.deleteDeadlineRule {db : Db} (hv : Valid db) (rule : DeadlineRule) :
    Valid (deleteDeadlineRule db rule) := by
  have hrest := hv.filterDeadlines (fun d => d.deadlineRuleId ≠ rule.id)
  refine { hrest with
    rule_ids := Table.nodup_remove hv.rule_ids
    rule_ruleSet := fun r hr => hv.rule_ruleSet r (List.mem_of_mem_filter hr)
    deadline_rule := ?_ }
  intro d hd
  obtain ⟨hmem, hne⟩ := List.mem_filter.mp hd
  exact Table.mem_map_remove (hv.deadline_rule d hmem) (of_decide_eq_true hne)

theorem Valid.removeTrigger {db : Db} (hv : Valid db) (triggerId : Uuid) :
    Valid { db with
      triggers := Table.remove TriggerEvent.id triggerId db.triggers
      deadlines := db.deadlines.filter (fun d => d.triggerEventId ≠ triggerId) } := by
  have hrest := hv.filterDeadlines (fun d => d.triggerEventId ≠ triggerId)
  refine { hrest with
    trigger_ids := Table.nodup_remove hv.trigger_ids
    trigger_matter := fun t ht => hv.trigger_matter t (List.mem_of_mem_filter ht)
    deadline_trigger := ?_ }
  intro d hd
  obtain ⟨hmem, hne⟩ := List.mem_filter.mp hd
  exact Table.mem_map_remove (hv.deadline_trigger d hmem) (of_decide_eq_true hne)

/-- A new date or new notes. -/
theorem Valid.alterTrigger {db : Db} {old trigger : TriggerEvent} (hv : Valid db)
    (hold : old ∈ db.triggers) (hmatter : trigger.matterId = old.matterId) :
    Valid (setTrigger db trigger) := by
  have hids : (setTrigger db trigger).triggers.map TriggerEvent.id =
      db.triggers.map TriggerEvent.id :=
    Table.map_key_alter (fun _ _ => rfl) db.triggers
  refine { hv with
    trigger_ids := ?_
    trigger_matter := ?_
    deadline_trigger := ?_ }
  · exact hids.symm ▸ hv.trigger_ids
  · intro t ht
    obtain ⟨row, hrow, rfl⟩ := Table.mem_alter.mp ht
    split_ifs
    · exact hmatter ▸ hv.trigger_matter old hold
    · exact hv.trigger_matter row hrow
  · intro d hd
    exact hids.symm ▸ hv.deadline_trigger d hd

theorem mem_eventIdsOf {db : Db} {triggerEventId eventId : Uuid} :
    eventId ∈ eventIdsOf db triggerEventId ↔
      ∃ d ∈ db.deadlines, d.triggerEventId = triggerEventId ∧ d.calendarEventId = eventId := by
  simp only [eventIdsOf, List.mem_map, List.mem_filter, decide_eq_true_eq, and_assoc]

/-- The events of a trigger belong to its deadlines alone. -/
theorem Valid.not_mem_eventIdsOf {db : Db} (hv : Valid db) {d : GeneratedDeadline}
    (hd : d ∈ db.deadlines) {triggerEventId : Uuid} (hne : d.triggerEventId ≠ triggerEventId) :
    d.calendarEventId ∉ eventIdsOf db triggerEventId := by
  intro hmem
  obtain ⟨other, hother, htrigger, hevent⟩ := mem_eventIdsOf.mp hmem
  have hsame : other = d := List.inj_on_of_nodup_map hv.deadline_events hother hd hevent
  exact hne (hsame ▸ htrigger)

/-- Deleting the events of a trigger takes no other deadline along. -/
theorem deleteGeneratedDeadlinesForTrigger_eq {db : Db} (hv : Valid db) (triggerEventId : Uuid) :
    deleteGeneratedDeadlinesForTrigger db triggerEventId =
      { db with
        deadlines := db.deadlines.filter (fun d => d.triggerEventId ≠ triggerEventId)
        events := db.events.filter (fun e => e.id ∉ eventIdsOf db triggerEventId) } := by
  unfold deleteGeneratedDeadlinesForTrigger
  simp only []
  split_ifs with hnone
  · have hother : ∀ d ∈ db.deadlines, d.triggerEventId ≠ triggerEventId := by
      intro d hd heq
      have hmem := mem_eventIdsOf.mpr ⟨d, hd, heq, rfl⟩
      rw [hnone] at hmem
      cases hmem
    rw [hnone, List.filter_eq_self.mpr (fun d hd => decide_eq_true (hother d hd))]
    simp
  · have hkept : ∀ d ∈ db.deadlines.filter (fun d => d.triggerEventId ≠ triggerEventId),
        d.calendarEventId ∉ eventIdsOf db triggerEventId := by
      intro d hd
      obtain ⟨hmem, hne⟩ := List.mem_filter.mp hd
      exact hv.not_mem_eventIdsOf hmem (of_decide_eq_true hne)
    have hcontains : ∀ id, (!(eventIdsOf db triggerEventId).contains id) =
        decide (id ∉ eventIdsOf db triggerEventId) := by simp
    simp only [deleteEvents, hcontains]
    rw [List.filter_eq_self.mpr (fun d hd => decide_eq_true (hkept d hd))]

theorem Valid.deleteGenerated {db : Db} (hv : Valid db) (triggerEventId : Uuid) :
    Valid (deleteGeneratedDeadlinesForTrigger db triggerEventId) := by
  rw [deleteGeneratedDeadlinesForTrigger_eq hv]
  have hrest := hv.filterDeadlines (fun d => d.triggerEventId ≠ triggerEventId)
  refine { hrest with deadline_event := ?_ }
  intro d hd
  obtain ⟨hmem, hne⟩ := List.mem_filter.mp hd
  obtain ⟨e, he, heq⟩ := List.mem_map.mp (hv.deadline_event d hmem)
  have hkept := hv.not_mem_eventIdsOf hmem (of_decide_eq_true hne)
  rw [← heq] at hkept
  exact List.mem_map.mpr ⟨e, List.mem_filter.mpr ⟨he, decide_eq_true hkept⟩, heq⟩

/-- The deadline that a rule gives a trigger event. -/
structure Generates (trigger : TriggerEvent) (rule : DeadlineRule) (gen : GeneratedDeadline) :
    Prop where
  trigger_id : gen.triggerEventId = trigger.id
  rule_id : gen.deadlineRuleId = rule.id
  date : computeDeadlineDate trigger.triggerDate rule.offsetDays rule.offsetType =
    some gen.computedDate

/-- A deadline and its calendar event come together, both under new ids. -/
theorem generateDeadline_eq_some {db db' : Db} {trigger : TriggerEvent} {matterLabel : String}
    {createdBy eventId id : Uuid} {rule : DeadlineRule} {gen : GeneratedDeadline}
    (h : generateDeadline db trigger matterLabel createdBy rule eventId id = some (gen, db')) :
    Generates trigger rule gen ∧ (∀ d ∈ db.deadlines, d.id ≠ gen.id) ∧
      ∃ event : CalendarEvent, event.id = gen.calendarEventId ∧
        (∀ e ∈ db.events, e.id ≠ event.id) ∧
        db' = { db with events := db.events++[event], deadlines := db.deadlines++[gen] } := by
  obtain ⟨computed, hcomputed, h⟩ := Option.bind_eq_some_iff.mp h
  obtain ⟨title, -, h⟩ := Option.bind_eq_some_iff.mp h
  obtain ⟨db₁, hevent, h⟩ := Option.bind_eq_some_iff.mp h
  obtain ⟨db₂, hdeadline, h⟩ := Option.bind_eq_some_iff.mp h
  obtain ⟨events, hevent, hdb₁⟩ := Option.bind_eq_some_iff.mp hevent
  obtain ⟨deadlines, hdeadline, hdb₂⟩ := Option.bind_eq_some_iff.mp hdeadline
  obtain ⟨heventId, rfl⟩ := Table.insert_eq_some_iff.mp hevent
  obtain ⟨hid, rfl⟩ := Table.insert_eq_some_iff.mp hdeadline
  obtain rfl := Option.some.inj hdb₁
  obtain rfl := Option.some.inj hdb₂
  obtain ⟨rfl, rfl⟩ := Prod.mk.inj (Option.some.inj h)
  exact ⟨⟨rfl, rfl, hcomputed⟩, hid, _, rfl, heventId, rfl⟩

theorem Valid.generateDeadline {db db' : Db} {trigger : TriggerEvent} {matterLabel : String}
    {createdBy eventId id : Uuid} {rule : DeadlineRule} {gen : GeneratedDeadline} (hv : Valid db)
    (htrigger : trigger.id ∈ db.triggers.map TriggerEvent.id)
    (hrule : rule.id ∈ db.rules.map DeadlineRule.id)
    (h : generateDeadline db trigger matterLabel createdBy rule eventId id = some (gen, db')) :
    Valid db' := by
  obtain ⟨hgen, hid, event, hevent, hfresh, rfl⟩ := generateDeadline_eq_some h
  refine { hv with
    deadline_ids := Table.nodup_append_singleton hv.deadline_ids hid
    deadline_events := Table.nodup_append_singleton hv.deadline_events ?_
    deadline_trigger := ?_
    deadline_rule := ?_
    deadline_event := ?_ }
  · -- an older deadline has an older event
    intro d hd
    exact hevent ▸ Table.ne_of_fresh (hv.deadline_event d hd) hfresh
  · refine List.forall_mem_append.mpr ⟨hv.deadline_trigger, List.forall_mem_singleton.mpr ?_⟩
    rw [hgen.trigger_id]
    exact htrigger
  · refine List.forall_mem_append.mpr ⟨hv.deadline_rule, List.forall_mem_singleton.mpr ?_⟩
    rw [hgen.rule_id]
    exact hrule
  · rw [List.map_append]
    refine List.forall_mem_append.mpr ⟨?_, List.forall_mem_singleton.mpr ?_⟩
    · exact fun d hd => List.mem_append_left _ (hv.deadline_event d hd)
    · exact hevent ▸ List.mem_append_right _ (List.mem_singleton_self _)

/-- The rows that a run through the rules adds: for every rule one deadline, in
their order, each with its event. -/
theorem generateDeadlines_eq_some {trigger : TriggerEvent} {matterLabel : String}
    {createdBy : Uuid} {rules : List DeadlineRule} {draws : ℕ → Uuid} {db db' : Db}
    {generated : List GeneratedDeadline}
    (h : generateDeadlines trigger matterLabel createdBy rules draws db = some (generated, db')) :
    List.Forall₂ (Generates trigger) rules generated ∧
      ∃ events : List CalendarEvent,
        events.map CalendarEvent.id = generated.map GeneratedDeadline.calendarEventId ∧
        db' = { db with
          events := db.events++events
          deadlines := db.deadlines++generated } := by
  induction rules generalizing draws db generated with
  | nil =>
    obtain ⟨rfl, rfl⟩ := Prod.mk.inj (Option.some.inj h)
    exact ⟨.nil, [], rfl, by simp⟩
  | cons rule rules ih =>
    obtain ⟨⟨gen, db₁⟩, hgen, h⟩ := Option.bind_eq_some_iff.mp h
    obtain ⟨⟨rest, db₂⟩, hrest, h⟩ := Option.bind_eq_some_iff.mp h
    obtain ⟨rfl, rfl⟩ := Prod.mk.inj (Option.some.inj h)
    obtain ⟨hone, -, event, hevent, -, rfl⟩ := generateDeadline_eq_some hgen
    obtain ⟨hall, events, hevents, rfl⟩ := ih hrest
    refine ⟨.cons hone hall, event :: events, ?_, ?_⟩
    · rw [List.map_cons, List.map_cons, hevent, hevents]
    · simp only [List.append_assoc, List.singleton_append]

theorem Valid.generateDeadlines {trigger : TriggerEvent} {matterLabel : String}
    {createdBy : Uuid} {rules : List DeadlineRule} {draws : ℕ → Uuid} {db db' : Db}
    {generated : List GeneratedDeadline} (hv : Valid db)
    (htrigger : trigger.id ∈ db.triggers.map TriggerEvent.id)
    (hrules : ∀ r ∈ rules, r.id ∈ db.rules.map DeadlineRule.id)
    (h : generateDeadlines trigger matterLabel createdBy rules draws db = some (generated, db')) :
    Valid db' := by
  induction rules generalizing draws db generated with
  | nil =>
    obtain ⟨-, rfl⟩ := Prod.mk.inj (Option.some.inj h)
    exact hv
  | cons rule rules ih =>
    obtain ⟨⟨gen, db₁⟩, hgen, h⟩ := Option.bind_eq_some_iff.mp h
    obtain ⟨⟨rest, db₂⟩, hrest, h⟩ := Option.bind_eq_some_iff.mp h
    obtain ⟨-, rfl⟩ := Prod.mk.inj (Option.some.inj h)
    have hv₁ := hv.generateDeadline htrigger (hrules rule List.mem_cons_self) hgen
    obtain ⟨-, -, event, -, -, rfl⟩ := generateDeadline_eq_some hgen
    exact ih hv₁ htrigger (fun r hr => hrules r (List.mem_cons_of_mem _ hr)) hrest

theorem mem_getRulesForTrigger {db : Db} {matterId : Uuid} {triggerName : String}
    {rule : DeadlineRule} (h : rule ∈ getRulesForTrigger db matterId triggerName) :
    rule ∈ db.rules := by
  rw [getRulesForTrigger, List.mem_insertionSort, List.mem_flatMap] at h
  obtain ⟨r, hr, hjoin⟩ := h
  simp only [List.mem_flatMap, List.mem_map] at hjoin
  obtain ⟨_, _, _, _, rfl⟩ := hjoin
  exact List.mem_of_mem_filter hr

theorem Valid.generateDeadlinesForTrigger {db db' : Db} {trigger : TriggerEvent}
    {createdBy : Uuid} {draws : ℕ → Uuid} {generated : List GeneratedDeadline} (hv : Valid db)
    (htrigger : trigger ∈ db.triggers)
    (h : generateDeadlinesForTrigger db trigger createdBy draws = some (generated, db')) :
    Valid db' :=
  hv.generateDeadlines (List.mem_map_of_mem htrigger)
    (fun _ hr => List.mem_map_of_mem (mem_getRulesForTrigger hr)) h

/-- A trigger event that is new, or that lost its old deadlines, before the
deadlines are generated. -/
inductive Prepares (db : Db) (trigger : TriggerEvent) : Db → Prop where
  | inserted {base : Db} (hinsert : insertTrigger db trigger = some base) :
      Prepares db trigger base
  | reset {old : TriggerEvent} (hold : old ∈ db.triggers) (hid : trigger.id = old.id)
      (hmatter : trigger.matterId = old.matterId) :
      Prepares db trigger (setTrigger (deleteGeneratedDeadlinesForTrigger db trigger.id) trigger)

/-- What the generation starts from. Other triggers have their rows as before. -/
structure Prepared (db : Db) (trigger : TriggerEvent) (base : Db) : Prop where
  valid : Valid base
  trigger_mem : trigger ∈ base.triggers
  other_trigger : ∀ t ∈ base.triggers, t.id ≠ trigger.id → t ∈ db.triggers
  ruleSets : base.ruleSets = db.ruleSets
  rules : base.rules = db.rules
  configs : base.configs = db.configs
  deadlines : base.deadlines = db.deadlines.filter (fun d => d.triggerEventId ≠ trigger.id)
  events : base.events = db.events.filter (fun e => e.id ∉ eventIdsOf db trigger.id)

theorem Prepares.prepared {db base : Db} {trigger : TriggerEvent} (hv : Valid db)
    (h : Prepares db trigger base) : Prepared db trigger base := by
  cases h with
  | inserted hinsert =>
    have hbase := hv.insertTrigger hinsert
    obtain ⟨-, hfresh, rfl⟩ := insertTrigger_eq_some hinsert
    -- so there is nothing to be deleted
    have hnone : ∀ d ∈ db.deadlines, d.triggerEventId ≠ trigger.id :=
      fun d hd => Table.ne_of_fresh (hv.deadline_trigger d hd) hfresh
    refine ⟨hbase, List.mem_append_right _ (List.mem_singleton_self _), ?_, rfl, rfl, rfl, ?_, ?_⟩
    · intro t ht hne
      rcases List.mem_append.mp ht with ht | ht
      · exact ht
      · exact absurd (congrArg TriggerEvent.id (List.mem_singleton.mp ht)) hne
    · exact (List.filter_eq_self.mpr fun d hd => decide_eq_true (hnone d hd)).symm
    · refine (List.filter_eq_self.mpr fun e he => decide_eq_true ?_).symm
      intro hmem
      obtain ⟨d, hd, htrigger, -⟩ := mem_eventIdsOf.mp hmem
      exact hnone d hd htrigger
  | reset hold hid hmatter =>
    have hdeleted := hv.deleteGenerated trigger.id
    rw [deleteGeneratedDeadlinesForTrigger_eq hv] at hdeleted ⊢
    refine ⟨hdeleted.alterTrigger hold hmatter, ?_, ?_, rfl, rfl, rfl, rfl, rfl⟩
    · exact Table.mem_alter.mpr ⟨_, hold, if_pos hid.symm⟩
    · intro t ht hne
      obtain ⟨row, hrow, rfl⟩ := Table.mem_alter.mp ht
      split_ifs at hne ⊢
      · exact absurd rfl hne
      · exact hrow

/-- The one row a query finds. -/
theorem mem_of_filter_eq_singleton {α : Type} {p : α → Bool} {rows : List α} {x : α}
    (h : rows.filter p = [x]) : x ∈ rows ∧ p x = true := by
  have hmem : x ∈ rows.filter p := h ▸ List.mem_singleton_self x
  exact List.mem_filter.mp hmem

theorem setTriggerEvent_eq_some {db db' : Db} {matterId createdBy : Uuid} {triggerName : String}
    {triggerDate : Day} {notes : Option String} {draws : ℕ → Uuid} {trigger : TriggerEvent}
    {generated : List GeneratedDeadline}
    (h : setTriggerEvent db matterId triggerName triggerDate createdBy notes draws =
      some (trigger, generated, db')) :
    ∃ base, Prepares db trigger base ∧
      generateDeadlinesForTrigger base trigger createdBy (fun n => draws (n+1)) =
        some (generated, db') := by
  obtain ⟨name, -, h⟩ := Option.bind_eq_some_iff.mp h
  obtain ⟨notes, -, h⟩ := Option.bind_eq_some_iff.mp h
  split at h
  · obtain ⟨base, hinsert, h⟩ := Option.bind_eq_some_iff.mp h
    obtain ⟨⟨gens, last⟩, hgen, h⟩ := Option.bind_eq_some_iff.mp h
    obtain ⟨rfl, hrest⟩ := Prod.mk.inj (Option.some.inj h)
    obtain ⟨rfl, rfl⟩ := Prod.mk.inj hrest
    exact ⟨base, .inserted hinsert, hgen⟩
  · rename_i existing hexisting
    obtain ⟨⟨gens, last⟩, hgen, h⟩ := Option.bind_eq_some_iff.mp h
    obtain ⟨rfl, hrest⟩ := Prod.mk.inj (Option.some.inj h)
    obtain ⟨rfl, rfl⟩ := Prod.mk.inj hrest
    exact ⟨_, .reset (mem_of_filter_eq_singleton hexisting).1 rfl rfl, hgen⟩
  · cases h

theorem updateTriggerEvent_eq_some {db db' : Db} {old trigger : TriggerEvent} {createdBy : Uuid}
    {data : TriggerEventUpdate} {draws : ℕ → Uuid} {generated : List GeneratedDeadline}
    (hold : old ∈ db.triggers)
    (h : updateTriggerEvent db old data createdBy draws = some (trigger, generated, db')) :
    ∃ base, Prepares db trigger base ∧
      generateDeadlinesForTrigger base trigger createdBy draws = some (generated, db') := by
  obtain ⟨notes, -, h⟩ := Option.bind_eq_some_iff.mp h
  obtain ⟨⟨gens, last⟩, hgen, h⟩ := Option.bind_eq_some_iff.mp h
  obtain ⟨rfl, hrest⟩ := Prod.mk.inj (Option.some.inj h)
  obtain ⟨rfl, rfl⟩ := Prod.mk.inj hrest
  exact ⟨_, .reset hold rfl rfl, hgen⟩

theorem deleteTriggerEvent_eq {db : Db} (hv : Valid db) {trigger : TriggerEvent}
    {triggerId : Uuid} (h : getTriggerEvent db triggerId = some trigger) :
    deleteTriggerEvent db triggerId =
      { db with
        triggers := Table.remove TriggerEvent.id triggerId db.triggers
        deadlines := db.deadlines.filter (fun d => d.triggerEventId ≠ triggerId)
        events := db.events.filter (fun e => e.id ∉ eventIdsOf db triggerId) } := by
  have hid : trigger.id = triggerId := Table.key_of_find h
  have hfind : getTriggerEvent (deleteGeneratedDeadlinesForTrigger db triggerId) triggerId =
      some trigger := by
    rw [deleteGeneratedDeadlinesForTrigger_eq hv]
    exact h
  simp only [deleteTriggerEvent, hfind]
  rw [deleteGeneratedDeadlinesForTrigger_eq hv, hid]
  simp only [List.filter_filter, Bool.and_self]

theorem Valid.deleteTriggerEvent {db : Db} (hv : Valid db) {trigger : TriggerEvent}
    {triggerId : Uuid} (h : getTriggerEvent db triggerId = some trigger) :
    Valid (deleteTriggerEvent db triggerId) := by
  rw [deleteTriggerEvent_eq hv h]
  have hdeleted := hv.deleteGenerated triggerId
  rw [deleteGeneratedDeadlinesForTrigger_eq hv] at hdeleted
  have hremoved := hdeleted.removeTrigger triggerId
  simpa only [List.filter_filter, Bool.and_self] using hremoved

/-- The rules of a seed are all in its rule set. -/
theorem seedRules_eq_some {ruleSetId : Uuid} {entries : List (String × String × ℤ)} {idx : ℕ}
    {draws : ℕ → Uuid} {db db' : Db} (hv : Valid db)
    (h : seedRules ruleSetId entries idx draws db = some db') :
    Valid db' ∧ ∃ rules : List DeadlineRule, (∀ r ∈ rules, r.ruleSetId = ruleSetId) ∧
      db' = { db with rules := db.rules++rules } := by
  induction entries generalizing idx db with
  | nil =>
    obtain rfl := Option.some.inj h
    exact ⟨hv, [], by simp, by simp⟩
  | cons entry rest ih =>
    obtain ⟨db₁, hinsert, h⟩ := Option.bind_eq_some_iff.mp h
    have hv₁ := hv.insertRule hinsert
    obtain ⟨-, -, rfl⟩ := insertRule_eq_some hinsert
    obtain ⟨hv', rules, hrules, rfl⟩ := ih hv₁ h
    refine ⟨hv', _ :: rules, ?_, by simp only [List.append_assoc, List.singleton_append]; rfl⟩
    exact List.forall_mem_cons.mpr ⟨rfl, hrules⟩

def Linked (db : Db) (matterId ruleSetId : Uuid) : Prop :=
  ∃ c ∈ db.configs, c.matterId = matterId ∧ c.ruleSetId = ruleSetId

/-- What a request that does not raise does to the tables. -/
inductive Effect (db : Db) (r : Request) : List GeneratedDeadline → Db → Prop where
  | ruleSet {data : CourtRuleSetCreate} {ruleSet : CourtRuleSet} {db' : Db}
      (hcall : r.call = .createRuleSet data) (hinsert : insertRuleSet db ruleSet = some db') :
      Effect db r [] db'
  | seeded (hcall : r.call = .seedFederal) : Effect db r [] db
  | seed {ruleSet : CourtRuleSet} {entries : List (String × String × ℤ)} {draws : ℕ → Uuid}
      {db₁ db' : Db} (hcall : r.call = .seedFederal)
      (hinsert : insertRuleSet db ruleSet = some db₁)
      (hseed : seedRules ruleSet.id entries 0 draws db₁ = some db') : Effect db r [] db'
  | rule {ruleSetId : Uuid} {data : DeadlineRuleCreate} {rule : DeadlineRule} {db' : Db}
      (hcall : r.call = .addDeadlineRule ruleSetId data)
      (hrow : newRule (r.draws 0) ruleSetId data = some rule)
      (hinsert : insertRule db rule = some db') : Effect db r [] db'
  | changed {ruleId : Uuid} {data : DeadlineRuleUpdate} {rule changed : DeadlineRule}
      (hcall : r.call = .updateDeadlineRule ruleId data)
      (hrule : getDeadlineRule db ruleId = some rule)
      (hrow : changedRule rule data = some changed) :
      Effect db r [] { db with
        rules := Table.alter DeadlineRule.id rule.id (fun _ => changed) db.rules }
  | deleted {ruleId : Uuid} {rule : DeadlineRule} (hcall : r.call = .deleteDeadlineRule ruleId)
      (hrule : getDeadlineRule db ruleId = some rule) : Effect db r [] (deleteDeadlineRule db rule)
  | linked {matterId ruleSetId : Uuid} (hcall : r.call = .applyRules matterId ruleSetId)
      (hlinked : Linked db matterId ruleSetId) : Effect db r [] db
  | link {matterId ruleSetId : Uuid} {config : MatterDeadlineConfig} {db' : Db}
      (hcall : r.call = .applyRules matterId ruleSetId) (hnew : ¬Linked db matterId ruleSetId)
      (hmatter : config.matterId = matterId) (hset : config.ruleSetId = ruleSetId)
      (hid : config.id = r.draws 0) (hinsert : insertConfig db config = some db') :
      Effect db r [] db'
  | generated {trigger : TriggerEvent} {createdBy : Uuid} {draws : ℕ → Uuid} {base db' : Db}
      {generated : List GeneratedDeadline}
      (hcall : (∃ matterId data, r.call = .createTrigger matterId data) ∨
        ∃ triggerId data, r.call = .updateTrigger triggerId data)
      (hbase : Prepares db trigger base)
      (hgen : generateDeadlinesForTrigger base trigger createdBy draws = some (generated, db')) :
      Effect db r generated db'
  | removed {triggerId : Uuid} {trigger : TriggerEvent} (hcall : r.call = .deleteTrigger triggerId)
      (htrigger : getTriggerEvent db triggerId = some trigger) :
      Effect db r [] (deleteTriggerEvent db triggerId)

theorem orInternal_eq_ok {α : Type} {x : Option α} {a : α} : orInternal x = .ok a ↔ x = some a := by
  cases x <;> simp [orInternal]

theorem applyRuleSetToMatter_eq_some {db db' : Db} {id matterId ruleSetId createdBy : Uuid}
    {config : MatterDeadlineConfig}
    (h : applyRuleSetToMatter db id matterId ruleSetId createdBy = some (config, db')) :
    Linked db matterId ruleSetId ∧ db' = db ∨
      ¬Linked db matterId ruleSetId ∧ config.matterId = matterId ∧ config.ruleSetId = ruleSetId ∧
        config.id = id ∧ insertConfig db config = some db' := by
  unfold applyRuleSetToMatter at h
  split at h
  · rename_i hnone
    right
    obtain ⟨db₁, hinsert, h⟩ := Option.bind_eq_some_iff.mp h
    obtain ⟨rfl, rfl⟩ := Prod.mk.inj (Option.some.inj h)
    refine ⟨?_, rfl, rfl, rfl, hinsert⟩
    rintro ⟨c, hc, hlink⟩
    exact List.filter_eq_nil_iff.mp hnone c hc (decide_eq_true hlink)
  · rename_i existing hone
    left
    obtain ⟨rfl, rfl⟩ := Prod.mk.inj (Option.some.inj h)
    obtain ⟨hc, hlink⟩ := mem_of_filter_eq_singleton hone
    exact ⟨⟨existing, hc, of_decide_eq_true hlink⟩, rfl⟩
  · cases h

theorem seedFederalRules_eq_some {db db' : Db} {draws : ℕ → Uuid} {ruleSet : CourtRuleSet}
    (h : seedFederalRules db draws = some (ruleSet, db')) :
    db' = db ∨ ∃ db₁, insertRuleSet db ruleSet = some db₁ ∧
      seedRules ruleSet.id federalCivilRules 0 (fun n => draws (n+1)) db₁ = some db' := by
  unfold seedFederalRules at h
  split at h
  · right
    obtain ⟨db₁, hinsert, h⟩ := Option.bind_eq_some_iff.mp h
    obtain ⟨db₂, hseed, h⟩ := Option.bind_eq_some_iff.mp h
    obtain ⟨rfl, rfl⟩ := Prod.mk.inj (Option.some.inj h)
    exact ⟨db₁, hinsert, hseed⟩
  · left
    obtain ⟨-, rfl⟩ := Prod.mk.inj (Option.some.inj h)
    rfl
  · cases h

theorem orInternal_map_eq_ok {α β : Type} {x : Option α} {f : α → β} {b : β} :
    orInternal (x.map f) = .ok b ↔ ∃ a, x = some a ∧ f a = b := by
  rw [orInternal_eq_ok, Option.map_eq_some_iff]

theorem createRuleSet_eq_some {db db' : Db} {id : Uuid} {data : CourtRuleSetCreate}
    {ruleSet : CourtRuleSet} (h : createRuleSet db id data = some (ruleSet, db')) :
    insertRuleSet db ruleSet = some db' := by
  simp only [createRuleSet, Option.bind_eq_bind, Option.bind_eq_some_iff] at h
  obtain ⟨_, -, _, -, _, -, db₁, hinsert, hlast⟩ := h
  obtain ⟨rfl, rfl⟩ := Prod.mk.inj (Option.some.inj hlast)
  exact hinsert

theorem createDeadlineRule_eq_some {db db' : Db} {id ruleSetId : Uuid} {data : DeadlineRuleCreate}
    {rule : DeadlineRule} (h : createDeadlineRule db id ruleSetId data = some (rule, db')) :
    newRule id ruleSetId data = some rule ∧ insertRule db rule = some db' := by
  obtain ⟨row, hrow, h⟩ := Option.bind_eq_some_iff.mp h
  obtain ⟨db₁, hinsert, hlast⟩ := Option.bind_eq_some_iff.mp h
  obtain ⟨rfl, rfl⟩ := Prod.mk.inj (Option.some.inj hlast)
  exact ⟨hrow, hinsert⟩

/-- Each route does what its functions do to the tables. -/
theorem effect_of_respond {db db' : Db} {r : Request} {generated : List GeneratedDeadline}
    (h : respond db r = .ok (generated, db')) : Effect db r generated db' := by
  unfold respond at h
  split at h
  case h_1 data hcall =>
    obtain ⟨⟨ruleSet, db₁⟩, hcreate, heq⟩ := orInternal_map_eq_ok.mp h
    obtain ⟨rfl, rfl⟩ := Prod.mk.inj heq
    exact .ruleSet hcall (createRuleSet_eq_some hcreate)
  case h_2 hcall =>
    obtain ⟨⟨ruleSet, db₁⟩, hseed, heq⟩ := orInternal_map_eq_ok.mp h
    obtain ⟨rfl, rfl⟩ := Prod.mk.inj heq
    -- a second seed finds the rule set and changes nothing
    rcases seedFederalRules_eq_some hseed with rfl | ⟨db₁, hinsert, hrules⟩
    · exact .seeded hcall
    · exact .seed hcall hinsert hrules
  case h_3 ruleSetId data hcall =>
    split at h
    · cases h
    · obtain ⟨⟨rule, db₁⟩, hcreate, heq⟩ := orInternal_map_eq_ok.mp h
      obtain ⟨rfl, rfl⟩ := Prod.mk.inj heq
      obtain ⟨hrow, hinsert⟩ := createDeadlineRule_eq_some hcreate
      exact .rule hcall hrow hinsert
  case h_4 ruleId data hcall =>
    split at h
    · cases h
    · rename_i rule hrule
      obtain ⟨⟨changed, db₁⟩, hupdate, heq⟩ := orInternal_map_eq_ok.mp h
      obtain ⟨rfl, rfl⟩ := Prod.mk.inj heq
      obtain ⟨hrow, rfl⟩ := updateDeadlineRule_eq_some hupdate
      exact .changed hcall hrule hrow
  case h_5 ruleId hcall =>
    split at h
    · cases h
    · rename_i rule hrule
      obtain ⟨rfl, rfl⟩ := Prod.mk.inj (Except.ok.inj h)
      exact .deleted hcall hrule
  case h_6 matterId ruleSetId hcall =>
    obtain ⟨⟨config, db₁⟩, happly, heq⟩ := orInternal_map_eq_ok.mp h
    obtain ⟨rfl, rfl⟩ := Prod.mk.inj heq
    rcases applyRuleSetToMatter_eq_some happly with ⟨hlinked, rfl⟩ | hlink
    · exact .linked hcall hlinked
    · obtain ⟨hnew, hmatter, hset, hid, hinsert⟩ := hlink
      exact .link hcall hnew hmatter hset hid hinsert
  case h_7 matterId data hcall =>
    obtain ⟨⟨trigger, gens, db₁⟩, hset, heq⟩ := orInternal_map_eq_ok.mp h
    obtain ⟨rfl, rfl⟩ := Prod.mk.inj heq
    obtain ⟨base, hbase, hgen⟩ := setTriggerEvent_eq_some hset
    exact .generated (.inl ⟨matterId, data, hcall⟩) hbase hgen
  case h_8 triggerId data hcall =>
    split at h
    · cases h
    · rename_i old hold
      obtain ⟨⟨trigger, gens, db₁⟩, hset, heq⟩ := orInternal_map_eq_ok.mp h
      obtain ⟨rfl, rfl⟩ := Prod.mk.inj heq
      obtain ⟨base, hbase, hgen⟩ := updateTriggerEvent_eq_some (Table.mem_of_find hold) hset
      exact .generated (.inr ⟨triggerId, data, hcall⟩) hbase hgen
  case h_9 triggerId hcall =>
    split at h
    · cases h
    · rename_i trigger htrigger
      obtain ⟨rfl, rfl⟩ := Prod.mk.inj (Except.ok.inj h)
      exact .removed hcall htrigger

theorem Valid.effect {db db' : Db} {r : Request} {generated : List GeneratedDeadline}
    (hv : Valid db) (h : Effect db r generated db') : Valid db' := by
  cases h with
  | ruleSet _ hinsert => exact hv.insertRuleSet hinsert
  | seeded _ => exact hv
  | seed _ hinsert hseed => exact (seedRules_eq_some (hv.insertRuleSet hinsert) hseed).1
  | rule _ _ hinsert => exact hv.insertRule hinsert
  | changed _ hrule hrow =>
    obtain ⟨hid, hset⟩ := changedRule_eq_some hrow
    exact hv.alterRule (Table.mem_of_find hrule) hid hset
  | deleted _ _ => exact hv.deleteDeadlineRule _
  | linked _ _ => exact hv
  | link _ hnew hmatter hset _ hinsert =>
    refine hv.insertConfig ?_ hinsert
    intro c hc hlink
    exact hnew ⟨c, hc, hlink.1.trans hmatter, hlink.2.trans hset⟩
  | generated _ hbase hgen =>
    have hprepared := hbase.prepared hv
    exact hprepared.valid.generateDeadlinesForTrigger hprepared.trigger_mem hgen
  | removed _ htrigger => exact hv.deleteTriggerEvent htrigger

/-- A request takes effect, or leaves everything as it was. -/
theorem serve_cases (s : State) (r : Request) :
    (∃ error, respond s.db r = .error error ∧ serve s r = s) ∨
      ∃ generated db', Effect s.db r generated db' ∧
        serve s r = ⟨db', s.created++generated.map GeneratedDeadline.calendarEventId⟩ := by
  unfold serve
  cases h : respond s.db r with
  | error error => exact .inl ⟨error, rfl, rfl⟩
  | ok result => exact .inr ⟨result.1, result.2, effect_of_respond h, rfl⟩

theorem Valid.serve {s : State} (hv : Valid s.db) (r : Request) : Valid (serve s r).db := by
  rcases serve_cases s r with ⟨error, -, hserve⟩ | ⟨generated, db', heffect, hserve⟩
  · exact hserve.symm ▸ hv
  · exact hserve.symm ▸ hv.effect heffect

/-- The tables of deadlines and events once a request has returned. -/
theorem effect_tables {db db' : Db} {r : Request} {generated : List GeneratedDeadline}
    (hv : Valid db) (h : Effect db r generated db') :
    (generated = [] ∧ db'.deadlines = db.deadlines ∧ db'.events = db.events ∧
        ∀ ruleId, r.call ≠ .deleteDeadlineRule ruleId) ∨
      (∃ rule ruleId, r.call = .deleteDeadlineRule ruleId ∧ rule ∈ db.rules ∧ rule.id = ruleId ∧
        generated = [] ∧ db' = deleteDeadlineRule db rule) ∨
      (∃ triggerId events,
        db'.deadlines = db.deadlines.filter (fun d => d.triggerEventId ≠ triggerId)++generated ∧
        db'.events = db.events.filter (fun e => e.id ∉ eventIdsOf db triggerId)++events ∧
        events.map CalendarEvent.id = generated.map GeneratedDeadline.calendarEventId ∧
        (∃ trigger rules, List.Forall₂ (Generates trigger) rules generated) ∧
        ∀ ruleId, r.call ≠ .deleteDeadlineRule ruleId) := by
  cases h with
  | ruleSet hcall hinsert =>
    obtain ⟨-, rfl⟩ := insertRuleSet_eq_some hinsert
    exact .inl ⟨rfl, rfl, rfl, by simp [hcall]⟩
  | seeded hcall => exact .inl ⟨rfl, rfl, rfl, by simp [hcall]⟩
  | seed hcall hinsert hseed =>
    obtain ⟨-, rules, -, rfl⟩ := seedRules_eq_some (hv.insertRuleSet hinsert) hseed
    obtain ⟨-, rfl⟩ := insertRuleSet_eq_some hinsert
    exact .inl ⟨rfl, rfl, rfl, by simp [hcall]⟩
  | rule hcall _ hinsert =>
    obtain ⟨-, -, rfl⟩ := insertRule_eq_some hinsert
    exact .inl ⟨rfl, rfl, rfl, by simp [hcall]⟩
  | changed hcall _ _ => exact .inl ⟨rfl, rfl, rfl, by simp [hcall]⟩
  | deleted hcall hrule =>
    exact .inr (.inl ⟨_, _, hcall, Table.mem_of_find hrule, Table.key_of_find hrule, rfl, rfl⟩)
  | linked hcall _ => exact .inl ⟨rfl, rfl, rfl, by simp [hcall]⟩
  | link hcall _ _ _ _ hinsert =>
    obtain ⟨-, -, rfl⟩ := insertConfig_eq_some hinsert
    exact .inl ⟨rfl, rfl, rfl, by simp [hcall]⟩
  | @generated trigger _ _ base _ _ hcall hbase hgen =>
    have hprepared := hbase.prepared hv
    obtain ⟨hall, events, hids, rfl⟩ := generateDeadlines_eq_some hgen
    refine .inr (.inr ⟨trigger.id, events, ?_, ?_, hids, ⟨trigger, _, hall⟩, ?_⟩)
    · simp only [hprepared.deadlines]
    · simp only [hprepared.events]
    · rcases hcall with ⟨_, _, hcall⟩ | ⟨_, _, hcall⟩
      · simp [hcall]
      · simp [hcall]
  | @removed triggerId trigger hcall htrigger =>
    refine .inr (.inr ⟨triggerId, [], ?_, ?_, rfl, ⟨trigger, [], .nil⟩, by simp [hcall]⟩)
    · rw [deleteTriggerEvent_eq hv htrigger, List.append_nil]
    · rw [deleteTriggerEvent_eq hv htrigger, List.append_nil]

theorem weekdays_of_generates {t : TriggerEvent} {rules : List DeadlineRule}
    {generated : List GeneratedDeadline} (h : List.Forall₂ (Generates t) rules generated) :
    ∀ d ∈ generated, d.computedDate.weekday < 5 := by
  induction h with
  | nil => simp
  | cons hgen _ ih =>
    exact List.forall_mem_cons.mpr ⟨weekday_of_computeDeadlineDate hgen.date, ih⟩

/-- Whatever happens to the rules, no deadline is ever stored for a weekend. -/
theorem weekdays_exec {s t : State} {rs : List Request} (hv : Valid s.db)
    (hs : ∀ d ∈ s.db.deadlines, d.computedDate.weekday < 5) (hrun : exec step s rs = some t) :
    ∀ d ∈ t.db.deadlines, d.computedDate.weekday < 5 := by
  have hinv := exec_invariant
    (I := fun s => Valid s.db ∧ ∀ d ∈ s.db.deadlines, d.computedDate.weekday < 5) ?_ ⟨hv, hs⟩ hrun
  · exact hinv.2
  · rintro s r t ⟨hv, hs⟩ hstep
    obtain rfl := Option.some.inj hstep
    refine ⟨hv.serve r, ?_⟩
    rcases serve_cases s r with ⟨error, -, hserve⟩ | ⟨generated, db', heffect, hserve⟩
    · exact hserve.symm ▸ hs
    · rw [hserve]
      intro d hd
      rcases effect_tables hv heffect with ⟨-, hdeadlines, -⟩ | hrest
      · exact hs d (hdeadlines ▸ hd)
      · rcases hrest with ⟨_, _, _, _, _, _, rfl⟩ | ⟨_, _, hdeadlines, _, _, ⟨_, _, hall⟩, _⟩
        · exact hs d (List.mem_of_mem_filter hd)
        · simp only [hdeadlines] at hd
          rcases List.mem_append.mp hd with hd | hd
          · exact hs d (List.mem_of_mem_filter hd)
          · exact weekdays_of_generates hall d hd

/-- One matter, and no rules yet. -/
def emptyDb : Db :=
  { matters := [{ id := 1, title := "Ray v. Orr" }]
    ruleSets := []
    rules := []
    configs := []
    triggers := []
    deadlines := []
    events := [] }

/-- `uuid4()` in the requests below, each starting at its own number. -/
def drawsFrom (n : ℕ) (k : ℕ) : Uuid :=
  BitVec.ofNat 128 (n+k)

def stateRules : CourtRuleSetCreate where
  name := ⟨"State rules", by decide⟩
  jurisdiction := ⟨"State", by decide⟩

def discoveryCutoff : DeadlineRuleCreate where
  name := ⟨"Discovery Cutoff", by decide⟩
  triggerEvent := ⟨"trial_date", by decide⟩
  offsetDays := -30

def trialDate : TriggerEventCreate where
  triggerName := ⟨"trial_date", by decide⟩
  triggerDate := ⟨739000, by decide, by decide⟩

theorem valid_emptyDb : Valid emptyDb where
  ruleSet_ids := by decide
  rule_ids := by decide
  links := by decide
  trigger_ids := by decide
  deadline_ids := by decide
  deadline_events := by decide
  rule_ruleSet := by decide
  config_ruleSet := by decide
  trigger_matter := by decide
  deadline_trigger := by decide
  deadline_rule := by decide
  deadline_event := by decide

end LegalForge.Deadlines
