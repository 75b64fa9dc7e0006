import LegalForge.DeadlineSync

/-! Only the operations on trigger events regenerate deadlines. A rule that is
created or updated, and a rule set that is linked, leave the deadlines of trigger
events that are already there. -/
namespace LegalForge.Deadlines
open Transition

/-- The request makes no rule due, and moves no date, for a trigger event that is
already there. -/
def KeepsDue (db : Db) (r : Request) : Prop :=
  match r.call with
  | .addDeadlineRule ruleSetId data =>
    ∀ rule, newRule (r.draws 0) ruleSetId data = some rule →
      (∀ r ∈ db.rules, r.id ≠ rule.id) → ∀ t ∈ db.triggers, ¬IsDue db t rule
  | .updateDeadlineRule ruleId data =>
    ∀ rule changed, getDeadlineRule db ruleId = some rule → changedRule rule data = some changed →
      ∀ t ∈ db.triggers, dueDates db t changed = dueDates db t rule
  | .applyRules matterId ruleSetId =>
    ¬Linked db matterId ruleSetId → (∀ c ∈ db.configs, c.id ≠ r.draws 0) →
      ∀ t ∈ db.triggers, t.matterId = matterId →
        ∀ rule ∈ db.rules, rule.ruleSetId = ruleSetId → ¬Matches db t rule
  | _ => True

/-- A new rule set changes nothing for the rules there are. -/
theorem isDue_insertRuleSet {db db' : Db} {ruleSet : CourtRuleSet} (hv : Valid db)
    (h : insertRuleSet db ruleSet = some db') {t : TriggerEvent} {rule : DeadlineRule} :
    IsDue db' t rule ↔ IsDue db t rule := by
  obtain ⟨hfresh, rfl⟩ := insertRuleSet_eq_some h
  refine and_congr_left fun hlinked => and_congr_right fun _ => and_congr_right fun _ => ?_
  obtain ⟨c, hc, -, hset⟩ := hlinked
  -- a rule set that is linked was there before
  have hold : rule.ruleSetId ≠ ruleSet.id :=
    hset ▸ Table.ne_of_fresh (hv.config_ruleSet c hc) hfresh
  constructor
  · rintro ⟨s, hs, hid, hactive⟩
    rcases List.mem_append.mp hs with hs | hs
    · exact ⟨s, hs, hid, hactive⟩
    · rw [List.mem_singleton.mp hs] at hid
      exact absurd hid.symm hold
  · rintro ⟨s, hs, hid, hactive⟩
    exact ⟨s, List.mem_append_left _ hs, hid, hactive⟩

/-- Rows of other pairs do not count. -/
theorem deadlinesOf_filter {db db' : Db} {p : GeneratedDeadline → Bool} {triggerId ruleId : Uuid}
    (hdb : db'.deadlines = db.deadlines.filter p)
    (hp : ∀ d, d.triggerEventId = triggerId → d.deadlineRuleId = ruleId → p d = true) :
    deadlinesOf db' triggerId ruleId = deadlinesOf db triggerId ruleId := by
  rw [deadlinesOf, hdb, List.filter_filter, deadlinesOf]
  refine List.filter_congr fun d _ => ?_
  by_cases hpair : d.triggerEventId = triggerId ∧ d.deadlineRuleId = ruleId
  · simp [hpair, hp d hpair.1 hpair.2]
  · simp [hpair]

theorem allAgree_insertRuleSet {db db' : Db} {ruleSet : CourtRuleSet} (hv : Valid db)
    (hall : AllAgree db) (h : insertRuleSet db ruleSet = some db') : AllAgree db' := by
  have hdue (t : TriggerEvent) (rule : DeadlineRule) : dueDates db' t rule = dueDates db t rule :=
    dueDates_congr (isDue_insertRuleSet hv h)
  obtain ⟨-, rfl⟩ := insertRuleSet_eq_some h
  intro t ht rule hrule
  exact (hall t ht rule hrule).trans (hdue t rule).symm

/-- A new rule has no deadlines yet, so nothing may be due. -/
theorem allAgree_addRules_iff {db : Db} {rules : List DeadlineRule} (hv : Valid db)
    (hall : AllAgree db) (hnew : ∀ rule ∈ rules, ∀ r ∈ db.rules, r.id ≠ rule.id) :
    AllAgree { db with rules := db.rules++rules } ↔
      ∀ t ∈ db.triggers, ∀ rule ∈ rules, ¬IsDue db t rule := by
  refine forall_congr' fun t => imp_congr_right fun ht => ?_
  have hold : ∀ rule ∈ db.rules, Agrees { db with rules := db.rules++rules } t rule :=
    hall t ht
  rw [List.forall_mem_append, and_iff_right hold]
  refine forall_congr' fun rule => imp_congr_right fun hrule => ?_
  rw [← dueDates_eq_nil_iff]
  change (deadlinesOf db t.id rule.id).map _ = dueDates db t rule ↔ _
  rw [hv.deadlinesOf_new (hnew rule hrule), List.map_nil, eq_comm]

/-- An updated rule keeps its deadlines, so its dates must not move. -/
theorem allAgree_alterRule_iff {db : Db} {rule changed : DeadlineRule} (hall : AllAgree db)
    (hrule : rule ∈ db.rules) (hid : changed.id = rule.id) :
    AllAgree { db with rules := Table.alter DeadlineRule.id rule.id (fun _ => changed) db.rules } ↔
      ∀ t ∈ db.triggers, dueDates db t changed = dueDates db t rule := by
  refine forall_congr' fun t => imp_congr_right fun ht => ?_
  have hstored : (deadlinesOf db t.id changed.id).map (fun d => some d.computedDate) =
      dueDates db t rule := by
    rw [hid]
    exact hall t ht rule hrule
  constructor
  · intro h
    have hmem : changed ∈ Table.alter DeadlineRule.id rule.id (fun _ => changed) db.rules :=
      Table.mem_alter.mpr ⟨rule, hrule, if_pos rfl⟩
    exact (h changed hmem).symm.trans hstored
  · intro h r hr
    obtain ⟨old, hold, rfl⟩ := Table.mem_alter.mp hr
    split_ifs
    · exact hstored.trans h.symm
    · exact hall t ht old hold

theorem allAgree_deleteRule {db : Db} (hall : AllAgree db) (rule : DeadlineRule) :
    AllAgree (deleteDeadlineRule db rule) := by
  intro t ht r hr
  obtain ⟨hmem, hne⟩ := List.mem_filter.mp hr
  have hrows : deadlinesOf (deleteDeadlineRule db rule) t.id r.id = deadlinesOf db t.id r.id :=
    deadlinesOf_filter rfl fun d _ hd => decide_eq_true (hd ▸ of_decide_eq_true hne)
  rw [Agrees, hrows]
  exact hall t ht r hmem

theorem linked_append {db : Db} {config : MatterDeadlineConfig} {matterId ruleSetId : Uuid} :
    Linked { db with configs := db.configs++[config] } matterId ruleSetId ↔
      Linked db matterId ruleSetId ∨
        config.matterId = matterId ∧ config.ruleSetId = ruleSetId := by
  simp only [Linked, List.mem_append, List.mem_singleton]
  constructor
  · rintro ⟨c, hc | rfl, hlink⟩
    · exact .inl ⟨c, hc, hlink⟩
    · exact .inr hlink
  · rintro (⟨c, hc, hlink⟩ | hlink)
    · exact ⟨c, .inl hc, hlink⟩
    · exact ⟨config, .inr rfl, hlink⟩

/-- A link makes matching rules due that have no deadlines. -/
theorem allAgree_link_iff {db : Db} {config : MatterDeadlineConfig} (hall : AllAgree db)
    (hnew : ¬Linked db config.matterId config.ruleSetId) :
    AllAgree { db with configs := db.configs++[config] } ↔
      ∀ t ∈ db.triggers, t.matterId = config.matterId →
        ∀ rule ∈ db.rules, rule.ruleSetId = config.ruleSetId → ¬Matches db t rule := by
  constructor
  · intro h t ht hmatter rule hrule hset hmatches
    have hdue : IsDue { db with configs := db.configs++[config] } t rule :=
      ⟨hmatches, linked_append.mpr (.inr ⟨hmatter.symm, hset.symm⟩)⟩
    have hnot : ¬IsDue db t rule := by
      rintro ⟨-, hlink⟩
      rw [hmatter, hset] at hlink
      exact hnew hlink
    have hsame := (h t ht rule hrule).symm.trans (hall t ht rule hrule)
    rw [dueDates_eq_nil_iff.mpr hnot] at hsame
    exact dueDates_eq_nil_iff.mp hsame hdue
  · intro h t ht rule hrule
    have hdue : IsDue { db with configs := db.configs++[config] } t rule ↔ IsDue db t rule := by
      constructor
      · rintro ⟨hmatches, hlink⟩
        rcases linked_append.mp hlink with hlink | ⟨hmatter, hset⟩
        · exact ⟨hmatches, hlink⟩
        · exact absurd hmatches (h t ht hmatter.symm rule hrule hset.symm)
      · rintro ⟨hmatches, hlink⟩
        exact ⟨hmatches, linked_append.mpr (.inl hlink)⟩
    exact (hall t ht rule hrule).trans (dueDates_congr hdue).symm

theorem allAgree_generated {db base db' : Db} {trigger : TriggerEvent} {createdBy : Uuid}
    {draws : ℕ → Uuid} {generated : List GeneratedDeadline} (hall : AllAgree db)
    (hbase : Prepared db trigger base)
    (hgen : generateDeadlinesForTrigger base trigger createdBy draws = some (generated, db')) :
    AllAgree db' := by
  obtain ⟨hforall, events, -, rfl⟩ := generateDeadlines_eq_some hgen
  intro t ht rule hrule
  change t ∈ base.triggers at ht
  change rule ∈ base.rules at hrule
  have hrows : deadlinesOf { base with
        events := base.events++events, deadlines := base.deadlines++generated } t.id rule.id =
      deadlinesOf base t.id rule.id++
        generated.filter (fun d => d.triggerEventId = t.id ∧ d.deadlineRuleId = rule.id) :=
    List.filter_append _ _
  unfold Agrees
  rw [hrows, List.map_append]
  by_cases hid : t.id = trigger.id
  · -- the old rows are gone, and the new ones are what the query found
    obtain rfl := hbase.valid.eq_of_trigger_id ht hbase.trigger_mem hid
    have hgone : deadlinesOf base t.id rule.id = [] := by
      refine deadlinesOf_eq_nil fun d hd htrigger => ?_
      rw [hbase.deadlines] at hd
      exact absurd htrigger (of_decide_eq_true (List.mem_filter.mp hd).2)
    rw [hgone, List.map_nil, List.nil_append, dates_of_generates hforall,
      hbase.valid.filter_getRulesForTrigger t hrule]
    change _ = dueDates base t rule
    unfold dueDates
    split_ifs <;> rfl
  · have hother : generated.filter
        (fun d => d.triggerEventId = t.id ∧ d.deadlineRuleId = rule.id) = [] := by
      refine List.filter_eq_nil_iff.mpr fun d hd hpair => hid ?_
      exact (of_decide_eq_true hpair).1.symm.trans (trigger_id_of_generates hforall d hd)
    have hkept : deadlinesOf base t.id rule.id = deadlinesOf db t.id rule.id :=
      deadlinesOf_filter hbase.deadlines fun d htrigger _ => decide_eq_true (htrigger ▸ hid)
    have hdue : dueDates { base with
        events := base.events++events, deadlines := base.deadlines++generated } t rule =
        dueDates db t rule := by
      refine dueDates_congr ?_
      simp only [IsDue, Matches, Linked, hbase.ruleSets, hbase.configs]
    rw [hother, List.map_nil, List.append_nil, hkept, hdue]
    exact hall t (hbase.other_trigger t ht hid) rule (hbase.rules ▸ hrule)

theorem allAgree_removed {db : Db} {trigger : TriggerEvent} {triggerId : Uuid} (hv : Valid db)
    (hall : AllAgree db) (h : getTriggerEvent db triggerId = some trigger) :
    AllAgree (deleteTriggerEvent db triggerId) := by
  rw [deleteTriggerEvent_eq hv h]
  intro t ht rule hrule
  obtain ⟨hmem, hne⟩ := List.mem_filter.mp ht
  unfold Agrees
  rw [deadlinesOf_filter rfl fun d hd _ => decide_eq_true (hd ▸ of_decide_eq_true hne)]
  exact hall t hmem rule hrule

/-- Seeding adds rules to a rule set that is new itself. -/
theorem allAgree_seed {db db₁ db' : Db} {ruleSet : CourtRuleSet}
    {entries : List (String × String × ℤ)} {draws : ℕ → Uuid} (hv : Valid db) (hall : AllAgree db)
    (hinsert : insertRuleSet db ruleSet = some db₁)
    (hseed : seedRules ruleSet.id entries 0 draws db₁ = some db') : AllAgree db' := by
  have hv₁ := hv.insertRuleSet hinsert
  have hall₁ := allAgree_insertRuleSet hv hall hinsert
  obtain ⟨hv', rules, hrules, rfl⟩ := seedRules_eq_some hv₁ hseed
  have hids : ∀ rule ∈ rules, ∀ old ∈ db₁.rules, old.id ≠ rule.id := by
    intro rule hrule old hold heq
    have hnodup := hv'.rule_ids
    rw [List.map_append, List.nodup_append] at hnodup
    exact hnodup.2.2 _ (List.mem_map_of_mem hold) _ (List.mem_map_of_mem hrule) heq
  apply (allAgree_addRules_iff hv₁ hall₁ hids).mpr
  -- no matter is linked to the new rule set
  rintro t ht rule hrule ⟨-, c, hc, -, hset⟩
  obtain ⟨hfresh, rfl⟩ := insertRuleSet_eq_some hinsert
  exact Table.ne_of_fresh (hv.config_ruleSet c hc) hfresh (hset.trans (hrules rule hrule))

/-- What a request must not do, as a condition on the tables it finds. -/
theorem allAgree_effect_iff {db db' : Db} {r : Request} {generated : List GeneratedDeadline}
    (hv : Valid db) (hall : AllAgree db) (h : Effect db r generated db') :
    AllAgree db' ↔ KeepsDue db r := by
  cases h with
  | ruleSet hcall hinsert =>
    rw [KeepsDue, hcall]
    exact iff_true_intro (allAgree_insertRuleSet hv hall hinsert)
  | seeded hcall =>
    rw [KeepsDue, hcall]
    exact iff_true_intro hall
  | seed hcall hinsert hseed =>
    rw [KeepsDue, hcall]
    exact iff_true_intro (allAgree_seed hv hall hinsert hseed)
  | @rule ruleSetId data row db' hcall hrow hinsert =>
    obtain ⟨-, hfresh, rfl⟩ := insertRule_eq_some hinsert
    rw [KeepsDue, hcall, allAgree_addRules_iff hv hall (by simpa using hfresh)]
    simp only [hrow, Option.some.injEq, List.forall_mem_singleton]
    constructor
    · rintro h _ rfl -
      exact h
    · exact fun h => h row rfl hfresh
  | @changed ruleId data rule changed hcall hrule hrow =>
    obtain ⟨hid, -⟩ := changedRule_eq_some hrow
    rw [KeepsDue, hcall, allAgree_alterRule_iff hall (Table.mem_of_find hrule) hid]
    simp only [hrule, Option.some.injEq]
    constructor
    · rintro h _ _ rfl hchanged
      obtain rfl := Option.some.inj (hrow.symm.trans hchanged)
      exact h
    · exact fun h => h rule changed rfl hrow
  | deleted hcall _ =>
    rw [KeepsDue, hcall]
    exact iff_true_intro (allAgree_deleteRule hall _)
  | linked hcall hlinked =>
    rw [KeepsDue, hcall]
    exact ⟨fun _ hnew => absurd hlinked hnew, fun _ => hall⟩
  | @link matterId ruleSetId config db' hcall hnew hmatter hset hid hinsert =>
    subst hmatter hset
    obtain ⟨-, hfresh, rfl⟩ := insertConfig_eq_some hinsert
    rw [KeepsDue, hcall, allAgree_link_iff hall hnew]
    exact ⟨fun h _ _ => h, fun h => h hnew (fun c hc => hid ▸ hfresh c hc)⟩
  | generated hcall hbase hgen =>
    have hkeeps : KeepsDue db r := by
      rcases hcall with ⟨matterId, data, hcall⟩ | ⟨triggerId, data, hcall⟩
      · rw [KeepsDue, hcall]
        trivial
      · rw [KeepsDue, hcall]
        trivial
    exact iff_of_true (allAgree_generated hall (hbase.prepared hv) hgen) hkeeps
  | removed hcall htrigger =>
    rw [KeepsDue, hcall]
    exact iff_true_intro (allAgree_removed hv hall htrigger)

theorem newRule_eq_some {id ruleSetId : Uuid} {data : DeadlineRuleCreate} {rule : DeadlineRule}
    (h : newRule id ruleSetId data = some rule) : rule.ruleSetId = ruleSetId := by
  simp only [newRule, Option.bind_eq_bind, Option.bind_eq_some_iff, Option.some.injEq] at h
  obtain ⟨_, -, _, -, _, -, _, -, _, -, _, -, rfl⟩ := h
  rfl

theorem Matches.ruleSet_mem {db : Db} {t : TriggerEvent} {rule : DeadlineRule}
    (h : Matches db t rule) : rule.ruleSetId ∈ db.ruleSets.map CourtRuleSet.id := by
  obtain ⟨-, -, s, hs, hid, -⟩ := h
  exact hid ▸ List.mem_map_of_mem hs

/-- A new rule that is due would have been stored. -/
theorem respond_addDeadlineRule {db : Db} {r : Request} {ruleSetId : Uuid}
    {data : DeadlineRuleCreate} {rule : DeadlineRule}
    (hcall : r.call = .addDeadlineRule ruleSetId data)
    (hrow : newRule (r.draws 0) ruleSetId data = some rule)
    (hset : rule.ruleSetId ∈ db.ruleSets.map CourtRuleSet.id)
    (hfresh : ∀ old ∈ db.rules, old.id ≠ rule.id) :
    respond db r = .ok ([], { db with rules := db.rules++[rule] }) := by
  obtain ⟨s, hs⟩ : ∃ s, getRuleSet db rule.ruleSetId = some s := Table.exists_find_iff.mpr hset
  have hinsert : Table.insert DeadlineRule.id rule db.rules = some (db.rules++[rule]) :=
    Table.insert_eq_some_iff.mpr ⟨hfresh, rfl⟩
  have hs' : getRuleSet db ruleSetId = some s := newRule_eq_some hrow ▸ hs
  simp [respond, hcall, hs', createDeadlineRule, hrow, insertRule, hs, hinsert, orInternal]

theorem respond_updateDeadlineRule {db : Db} {r : Request} {ruleId : Uuid}
    {data : DeadlineRuleUpdate} {rule changed : DeadlineRule}
    (hcall : r.call = .updateDeadlineRule ruleId data)
    (hrule : getDeadlineRule db ruleId = some rule)
    (hrow : changedRule rule data = some changed) :
    respond db r = .ok ([], { db with
      rules := Table.alter DeadlineRule.id rule.id (fun _ => changed) db.rules }) := by
  simp [respond, hcall, hrule, updateDeadlineRule, hrow, orInternal]

theorem respond_applyRules {db : Db} {r : Request} {matterId ruleSetId : Uuid}
    (hcall : r.call = .applyRules matterId ruleSetId)
    (hmatter : matterId ∈ db.matters.map Matter.id)
    (hset : ruleSetId ∈ db.ruleSets.map CourtRuleSet.id) (hnew : ¬Linked db matterId ruleSetId)
    (hfresh : ∀ c ∈ db.configs, c.id ≠ r.draws 0) : ∃ result, respond db r = .ok result := by
  obtain ⟨m, hm⟩ : ∃ m, getMatter db matterId = some m := Table.exists_find_iff.mpr hmatter
  obtain ⟨s, hs⟩ : ∃ s, getRuleSet db ruleSetId = some s := Table.exists_find_iff.mpr hset
  have hnone : db.configs.filter (fun c => c.matterId = matterId ∧ c.ruleSetId = ruleSetId) = [] := by
    refine List.filter_eq_nil_iff.mpr fun c hc hlink => hnew ?_
    exact ⟨c, hc, of_decide_eq_true hlink⟩
  have hinsert (config : MatterDeadlineConfig) (hid : config.id = r.draws 0) :
      Table.insert MatterDeadlineConfig.id config db.configs = some (db.configs++[config]) :=
    Table.insert_eq_some_iff.mpr ⟨fun c hc => hid ▸ hfresh c hc, rfl⟩
  simp only [respond, hcall, applyRuleSetToMatter, hnone, insertConfig, hm, hs, hinsert,
    Option.bind_eq_bind, Option.bind_some, Option.map_some, orInternal]
  exact ⟨_, rfl⟩

/-- A request that raises would not have made anything due. -/
theorem keepsDue_of_error {db : Db} {r : Request} {error : HttpError} (hv : Valid db)
    (h : respond db r = .error error) : KeepsDue db r := by
  unfold KeepsDue
  split
  case h_1 ruleSetId data hcall =>
    intro rule hrow hfresh t _ hdue
    have hok := respond_addDeadlineRule hcall hrow hdue.1.ruleSet_mem hfresh
    rw [hok] at h
    cases h
  case h_2 ruleId data hcall =>
    intro rule changed hrule hrow
    have hok := respond_updateDeadlineRule hcall hrule hrow
    rw [hok] at h
    cases h
  case h_3 matterId ruleSetId hcall =>
    intro hnew hfresh t ht hmatter rule hrule hset hmatches
    have hmem := hv.trigger_matter t ht
    rw [hmatter] at hmem
    obtain ⟨result, hok⟩ :=
      respond_applyRules hcall hmem (hset ▸ hmatches.ruleSet_mem) hnew hfresh
    rw [hok] at h
    cases h
  case h_4 => trivial

theorem inSync_serve_iff {s : State} {r : Request} (hv : Valid s.db) (hsync : InSync s.db) :
    InSync (serve s r).db ↔ KeepsDue s.db r := by
  rcases serve_cases s r with ⟨error, herror, hserve⟩ | ⟨generated, db', heffect, hserve⟩
  · rw [hserve]
    exact iff_of_true hsync (keepsDue_of_error hv herror)
  · rw [hserve, inSync_iff (hv.effect heffect)]
    exact allAgree_effect_iff hv ((inSync_iff hv).mp hsync) heffect

/-- The deadlines of every trigger event follow the rules throughout a run exactly
when no request makes a rule due, or moves a date, for a trigger event that is
already there. -/
theorem inSync_throughout_iff {s : State} (hv : Valid s.db) (rs : List Request) :
    Throughout step (fun s => InSync s.db) s rs ↔
      InSync s.db ∧ Along step (fun s r _ => KeepsDue s.db r) s rs := by
  refine throughout_iff_along (I := fun s => Valid s.db) ?_ ?_ hv rs
  · intro s r t hvalid hstep
    obtain rfl := Option.some.inj hstep
    exact hvalid.serve r
  · intro s r t hvalid hsync hstep
    obtain rfl := Option.some.inj hstep
    exact inSync_serve_iff hvalid hsync

/-- A rule added to a rule set whose trigger event is already set. -/
def lateRule : List Request :=
  [⟨.createRuleSet stateRules, 7, drawsFrom 10⟩,
   ⟨.applyRules 1 10, 7, drawsFrom 20⟩,
   ⟨.createTrigger 1 trialDate, 7, drawsFrom 30⟩,
   ⟨.addDeadlineRule 10 discoveryCutoff, 7, drawsFrom 40⟩]

theorem inSync_throughout_lateRule :
    Throughout step (fun s => InSync s.db) ⟨emptyDb, []⟩ lateRule ↔
      InSync emptyDb ∧ Along step (fun s r _ => KeepsDue s.db r) ⟨emptyDb, []⟩ lateRule :=
  inSync_throughout_iff valid_emptyDb lateRule

theorem exec_lateRule :
    (exec step ⟨emptyDb, []⟩ lateRule).map (fun s =>
        (s.db.deadlines, s.db.triggers.any (fun t => s.db.rules.any (fun r => IsDue s.db t r)))) =
      some ([], true) := by
  decide +kernel

/-- The rule is due, and the trigger event has no deadline of it. -/
theorem not_inSync_lateRule :
    ¬Throughout step (fun s => InSync s.db) ⟨emptyDb, []⟩ lateRule := by
  intro h
  obtain ⟨s, hrun, hs⟩ := Option.map_eq_some_iff.mp exec_lateRule
  obtain ⟨hnone, hdue⟩ := Prod.mk.inj hs
  obtain ⟨t, ht, hrules⟩ := List.any_eq_true.mp hdue
  obtain ⟨rule, hrule, hdue⟩ := List.any_eq_true.mp hrules
  obtain ⟨d, ⟨hd, -⟩, -⟩ := (h.final hrun t ht).generated rule hrule (of_decide_eq_true hdue)
  rw [hnone] at hd
  cases hd

end LegalForge.Deadlines
