import LegalForge.DeadlineTables

/-! When the generated deadlines follow the rules and the trigger events. -/
namespace LegalForge.Deadlines
open Transition

/-- An active rule of an active rule set, for the name of the trigger event. -/
def Matches (db : Db) (t : TriggerEvent) (rule : DeadlineRule) : Prop :=
  rule.triggerEvent = t.triggerName ∧ rule.isActive = true ∧
    ∃ s ∈ db.ruleSets, s.id = rule.ruleSetId ∧ s.isActive = true

/-- The rule set is linked to the matter of the trigger event besides. -/
def IsDue (db : Db) (t : TriggerEvent) (rule : DeadlineRule) : Prop :=
  Matches db t rule ∧ Linked db t.matterId rule.ruleSetId

instance (db : Db) (matterId ruleSetId : Uuid) : Decidable (Linked db matterId ruleSetId) :=
  inferInstanceAs (Decidable (∃ c ∈ db.configs, c.matterId = matterId ∧ c.ruleSetId = ruleSetId))

instance (db : Db) (t : TriggerEvent) (rule : DeadlineRule) : Decidable (Matches db t rule) :=
  inferInstanceAs (Decidable (rule.triggerEvent = t.triggerName ∧ rule.isActive = true ∧
    ∃ s ∈ db.ruleSets, s.id = rule.ruleSetId ∧ s.isActive = true))

instance (db : Db) (t : TriggerEvent) (rule : DeadlineRule) : Decidable (IsDue db t rule) :=
  inferInstanceAs (Decidable (Matches db t rule ∧ Linked db t.matterId rule.ruleSetId))

/-- Deadlines and due rules correspond to each other, and each deadline has the
date of its rule. -/
structure InStep (db : Db) (t : TriggerEvent) : Prop where
  due : ∀ d ∈ db.deadlines, d.triggerEventId = t.id → ∃ rule ∈ db.rules, IsDue db t rule ∧
    rule.id = d.deadlineRuleId ∧
    computeDeadlineDate t.triggerDate rule.offsetDays rule.offsetType = some d.computedDate
  generated : ∀ rule ∈ db.rules, IsDue db t rule →
    ∃! d, d ∈ db.deadlines ∧ d.triggerEventId = t.id ∧ d.deadlineRuleId = rule.id

def InSync (db : Db) : Prop :=
  ∀ t ∈ db.triggers, InStep db t

/-- The deadlines a trigger event has of a rule. -/
def deadlinesOf (db : Db) (triggerId ruleId : Uuid) : List GeneratedDeadline :=
  db.deadlines.filter (fun d => d.triggerEventId = triggerId ∧ d.deadlineRuleId = ruleId)

/-- The date that a rule gives a trigger event, if any. -/
def dueDates (db : Db) (t : TriggerEvent) (rule : DeadlineRule) : List (Option Day) :=
  if IsDue db t rule then
    [computeDeadlineDate t.triggerDate rule.offsetDays rule.offsetType]
  else []

/-- What is stored for a trigger event and a rule is what is due. -/
def Agrees (db : Db) (t : TriggerEvent) (rule : DeadlineRule) : Prop :=
  (deadlinesOf db t.id rule.id).map (fun d => some d.computedDate) = dueDates db t rule

def AllAgree (db : Db) : Prop :=
  ∀ t ∈ db.triggers, ∀ rule ∈ db.rules, Agrees db t rule

theorem mem_deadlinesOf {db : Db} {triggerId ruleId : Uuid} {d : GeneratedDeadline} :
    d ∈ deadlinesOf db triggerId ruleId ↔
      d ∈ db.deadlines ∧ d.triggerEventId = triggerId ∧ d.deadlineRuleId = ruleId := by
  rw [deadlinesOf, List.mem_filter, decide_eq_true_eq]

theorem deadlinesOf_eq_nil {db : Db} {triggerId ruleId : Uuid}
    (h : ∀ d ∈ db.deadlines, d.triggerEventId = triggerId → d.deadlineRuleId ≠ ruleId) :
    deadlinesOf db triggerId ruleId = [] := by
  refine List.eq_nil_iff_forall_not_mem.mpr fun d hd => ?_
  obtain ⟨hmem, htrigger, hrule⟩ := mem_deadlinesOf.mp hd
  exact h d hmem htrigger hrule

theorem dueDates_of_isDue {db : Db} {t : TriggerEvent} {rule : DeadlineRule}
    (h : IsDue db t rule) :
    dueDates db t rule = [computeDeadlineDate t.triggerDate rule.offsetDays rule.offsetType] :=
  if_pos h

theorem dueDates_eq_nil_iff {db : Db} {t : TriggerEvent} {rule : DeadlineRule} :
    dueDates db t rule = [] ↔ ¬IsDue db t rule := by
  unfold dueDates
  split_ifs with h
  · simp [h]
  · simp [h]

theorem dueDates_congr {db db' : Db} {t : TriggerEvent} {rule : DeadlineRule}
    (h : IsDue db' t rule ↔ IsDue db t rule) : dueDates db' t rule = dueDates db t rule :=
  if_congr h rfl rfl

/-- No deadline refers to a rule that is not there. -/
theorem Valid.deadlinesOf_new {db : Db} (hv : Valid db) {ruleId : Uuid}
    (hnew : ∀ r ∈ db.rules, r.id ≠ ruleId) (triggerId : Uuid) :
    deadlinesOf db triggerId ruleId = [] := by
  refine deadlinesOf_eq_nil fun d hd _ hrule => ?_
  exact Table.ne_of_fresh (hv.deadline_rule d hd) hnew hrule

theorem Valid.eq_of_rule_id {db : Db} (hv : Valid db) {r r' : DeadlineRule} (hr : r ∈ db.rules)
    (hr' : r' ∈ db.rules) (hid : r.id = r'.id) : r = r' :=
  List.inj_on_of_nodup_map hv.rule_ids hr hr' hid

theorem Valid.eq_of_trigger_id {db : Db} (hv : Valid db) {t t' : TriggerEvent}
    (ht : t ∈ db.triggers) (ht' : t' ∈ db.triggers) (hid : t.id = t'.id) : t = t' :=
  List.inj_on_of_nodup_map hv.trigger_ids ht ht' hid

theorem InStep.agrees {db : Db} (hv : Valid db) {t : TriggerEvent} (h : InStep db t)
    {rule : DeadlineRule} (hrule : rule ∈ db.rules) : Agrees db t rule := by
  have hdue : ∀ d ∈ deadlinesOf db t.id rule.id, IsDue db t rule ∧
      computeDeadlineDate t.triggerDate rule.offsetDays rule.offsetType =
        some d.computedDate := by
    intro d hd
    obtain ⟨hmem, htrigger, hid⟩ := mem_deadlinesOf.mp hd
    obtain ⟨r, hr, hrdue, hrid, hdate⟩ := h.due d hmem htrigger
    obtain rfl := hv.eq_of_rule_id hr hrule (hrid.trans hid)
    exact ⟨hrdue, hdate⟩
  unfold Agrees
  by_cases hcase : IsDue db t rule
  · obtain ⟨d, hd, hunique⟩ := h.generated rule hrule hcase
    have hnodup : (deadlinesOf db t.id rule.id).Nodup :=
      (List.Nodup.of_map _ hv.deadline_ids).filter _
    have hone : deadlinesOf db t.id rule.id = [d] := by
      refine List.perm_singleton.mp ((List.perm_ext_iff_of_nodup hnodup
        (List.nodup_singleton d)).mpr fun d' => ?_)
      rw [mem_deadlinesOf, List.mem_singleton]
      exact ⟨hunique d', fun heq => heq ▸ hd⟩
    rw [dueDates_of_isDue hcase, hone, List.map_singleton,
      (hdue d (hone ▸ List.mem_singleton_self d)).2]
  · rw [dueDates_eq_nil_iff.mpr hcase]
    refine List.map_eq_nil_iff.mpr (List.eq_nil_iff_forall_not_mem.mpr fun d hd => ?_)
    exact hcase (hdue d hd).1

theorem inStep_of_agrees {db : Db} (hv : Valid db) {t : TriggerEvent}
    (h : ∀ rule ∈ db.rules, Agrees db t rule) : InStep db t where
  due := by
    intro d hd htrigger
    obtain ⟨rule, hrule, hid⟩ := List.mem_map.mp (hv.deadline_rule d hd)
    have hmem : some d.computedDate ∈ dueDates db t rule := by
      rw [← h rule hrule]
      exact List.mem_map_of_mem (f := fun d => some d.computedDate)
        (mem_deadlinesOf.mpr ⟨hd, htrigger, hid.symm⟩)
    unfold dueDates at hmem
    split_ifs at hmem with hdue
    · exact ⟨rule, hrule, hdue, hid, (List.mem_singleton.mp hmem).symm⟩
    · cases hmem
  generated := by
    intro rule hrule hdue
    have hdates := h rule hrule
    rw [Agrees, dueDates_of_isDue hdue] at hdates
    obtain ⟨d, hone, -⟩ := List.map_eq_singleton_iff.mp hdates
    refine ⟨d, mem_deadlinesOf.mp (hone ▸ List.mem_singleton_self d), fun d' hd' => ?_⟩
    have hmem := mem_deadlinesOf.mpr hd'
    rw [hone] at hmem
    exact List.mem_singleton.mp hmem

/-- The tables compared pair by pair. -/
theorem inSync_iff {db : Db} (hv : Valid db) : InSync db ↔ AllAgree db :=
  ⟨fun h t ht _ hrule => (h t ht).agrees hv hrule, fun h t ht => inStep_of_agrees hv (h t ht)⟩

/-- Rows that all have one value under a key that is unique. -/
theorem filter_le_one {α κ : Type} {key : α → κ} {k : κ} {p : α → Bool} {rows : List α}
    (hnodup : (rows.map key).Nodup) (hkey : ∀ x ∈ rows, p x = true → key x = k) :
    rows.filter p = [] ∨ ∃ x, rows.filter p = [x] := by
  have hsub : ((rows.filter p).map key).Nodup := hnodup.sublist (List.filter_sublist.map key)
  have hall : ∀ x ∈ rows.filter p, key x = k := by
    intro x hx
    obtain ⟨hmem, hp⟩ := List.mem_filter.mp hx
    exact hkey x hmem hp
  cases hrows : rows.filter p with
  | nil => exact .inl rfl
  | cons x rest =>
    cases rest with
    | nil => exact .inr ⟨x, rfl⟩
    | cons y rest =>
      rw [hrows] at hsub hall
      have hxy : key x = key y := (hall x (by simp)).trans (hall y (by simp)).symm
      simp [hxy] at hsub

/-- The rows of the join for one rule. -/
def joinRows (db : Db) (matterId : Uuid) (rule : DeadlineRule) : List DeadlineRule :=
  (db.ruleSets.filter (fun s => s.id = rule.ruleSetId ∧ s.isActive)).flatMap (fun s =>
    (db.configs.filter (fun c => c.ruleSetId = s.id ∧ c.matterId = matterId)).map (fun _ => rule))

theorem mem_joinRows {db : Db} {matterId : Uuid} {rule r : DeadlineRule} :
    r ∈ joinRows db matterId rule ↔
      r = rule ∧ (∃ s ∈ db.ruleSets, s.id = rule.ruleSetId ∧ s.isActive = true) ∧
        Linked db matterId rule.ruleSetId := by
  simp only [joinRows, List.mem_flatMap, List.mem_map, List.mem_filter, decide_eq_true_eq]
  constructor
  · rintro ⟨s, ⟨hs, hid, hactive⟩, c, ⟨hc, hset, hmatter⟩, rfl⟩
    exact ⟨rfl, ⟨s, hs, hid, hactive⟩, c, hc, hmatter, hset.trans hid⟩
  · rintro ⟨rfl, ⟨s, hs, hid, hactive⟩, c, hc, hmatter, hset⟩
    exact ⟨s, ⟨hs, hid, hactive⟩, c, ⟨hc, hset.trans hid.symm, hmatter⟩, rfl⟩

/-- The ids of the rules and of their sets are primary keys. -/
structure RulesKeyed (db : Db) : Prop where
  rule_ids : (db.rules.map DeadlineRule.id).Nodup
  ruleSet_ids : (db.ruleSets.map CourtRuleSet.id).Nodup

/-- A rule joins with one row at most. -/
theorem RulesKeyed.nodup_joinRows {db : Db} (hkeyed : RulesKeyed db)
    (hlinks : (db.configs.map (fun c => (c.matterId, c.ruleSetId))).Nodup) (matterId : Uuid)
    (rule : DeadlineRule) : (joinRows db matterId rule).Nodup := by
  unfold joinRows
  have hset : ∀ s ∈ db.ruleSets, decide (s.id = rule.ruleSetId ∧ s.isActive = true) = true →
      s.id = rule.ruleSetId := fun s _ hs => (of_decide_eq_true hs).1
  rcases filter_le_one hkeyed.ruleSet_ids hset with hnone | ⟨s, hone⟩
  · rw [hnone]
    exact List.nodup_nil
  · rw [hone, List.flatMap_singleton]
    have hlink : ∀ c ∈ db.configs, decide (c.ruleSetId = s.id ∧ c.matterId = matterId) = true →
        (c.matterId, c.ruleSetId) = (matterId, s.id) := by
      intro c _ hc
      obtain ⟨hset, hmatter⟩ := of_decide_eq_true hc
      rw [hset, hmatter]
    rcases filter_le_one hlinks hlink with hnone | ⟨c, hone⟩
    · rw [hnone]
      exact List.nodup_nil
    · rw [hone]
      exact List.nodup_singleton rule

theorem mem_getRulesForTrigger_iff {db : Db} {t : TriggerEvent} {rule : DeadlineRule} :
    rule ∈ getRulesForTrigger db t.matterId t.triggerName ↔ rule ∈ db.rules ∧ IsDue db t rule := by
  change rule ∈ List.insertionSort _ (List.flatMap (joinRows db t.matterId) _) ↔ _
  simp only [List.mem_insertionSort, List.mem_flatMap, List.mem_filter, decide_eq_true_eq,
    mem_joinRows]
  constructor
  · rintro ⟨r, ⟨hr, hname, hactive⟩, rfl, hset, hlinked⟩
    exact ⟨hr, ⟨hname, hactive, hset⟩, hlinked⟩
  · rintro ⟨hr, ⟨hname, hactive, hset⟩, hlinked⟩
    exact ⟨rule, ⟨hr, hname, hactive⟩, rfl, hset, hlinked⟩

theorem RulesKeyed.nodup_getRulesForTrigger {db : Db} (hkeyed : RulesKeyed db)
    (hlinks : (db.configs.map (fun c => (c.matterId, c.ruleSetId))).Nodup) (matterId : Uuid)
    (triggerName : String) : (getRulesForTrigger db matterId triggerName).Nodup := by
  change (List.insertionSort _ (List.flatMap (joinRows db matterId) _)).Nodup
  refine (List.perm_insertionSort _ _).nodup_iff.mpr (List.nodup_flatMap.mpr ⟨?_, ?_⟩)
  · exact fun rule _ => hkeyed.nodup_joinRows hlinks matterId rule
  · have hrules : (db.rules.filter (fun r => r.triggerEvent = triggerName ∧ r.isActive)).Nodup :=
      (List.Nodup.of_map _ hkeyed.rule_ids).filter _
    refine hrules.imp fun hne r hr hr' => ?_
    exact hne ((mem_joinRows.mp hr).1.symm.trans (mem_joinRows.mp hr').1)

theorem Valid.rulesKeyed {db : Db} (hv : Valid db) : RulesKeyed db :=
  ⟨hv.rule_ids, hv.ruleSet_ids⟩

/-- The query finds a due rule once, and no other. -/
theorem Valid.filter_getRulesForTrigger {db : Db} (hv : Valid db) (t : TriggerEvent)
    {rule : DeadlineRule} (hrule : rule ∈ db.rules) :
    (getRulesForTrigger db t.matterId t.triggerName).filter (fun r => r.id = rule.id) =
      if IsDue db t rule then [rule] else [] := by
  have hid : ∀ r ∈ getRulesForTrigger db t.matterId t.triggerName,
      decide (r.id = rule.id) = decide (r = rule) := by
    intro r hr
    have hr := (mem_getRulesForTrigger_iff.mp hr).1
    exact decide_eq_decide.mpr ⟨hv.eq_of_rule_id hr hrule, congrArg DeadlineRule.id⟩
  rw [List.filter_congr hid, List.filter_eq]
  split_ifs with hdue
  · rw [List.count_eq_one_of_mem (hv.rulesKeyed.nodup_getRulesForTrigger hv.links _ _)
      (mem_getRulesForTrigger_iff.mpr ⟨hrule, hdue⟩)]
    rfl
  · rw [List.count_eq_zero_of_not_mem
      (fun hmem => hdue (mem_getRulesForTrigger_iff.mp hmem).2)]
    rfl

/-- The dates generated for one rule are those of its places among the rules. -/
theorem dates_of_generates {t : TriggerEvent} {rules : List DeadlineRule}
    {generated : List GeneratedDeadline} (h : List.Forall₂ (Generates t) rules generated)
    (ruleId : Uuid) :
    (generated.filter (fun d => d.triggerEventId = t.id ∧ d.deadlineRuleId = ruleId)).map
        (fun d => some d.computedDate) =
      (rules.filter (fun r => r.id = ruleId)).map
        (fun r => computeDeadlineDate t.triggerDate r.offsetDays r.offsetType) := by
  induction h with
  | nil => rfl
  | @cons rule gen rules generated hgen hrest ih =>
    simp only [List.filter_cons, hgen.trigger_id, hgen.rule_id, true_and, decide_eq_true_eq]
    split_ifs
    · rw [List.map_cons, List.map_cons, ih, hgen.date]
    · exact ih

theorem trigger_id_of_generates {t : TriggerEvent} {rules : List DeadlineRule}
    {generated : List GeneratedDeadline} (h : List.Forall₂ (Generates t) rules generated) :
    ∀ d ∈ generated, d.triggerEventId = t.id := by
  induction h with
  | nil => simp
  | cons hgen _ ih => exact List.forall_mem_cons.mpr ⟨hgen.trigger_id, ih⟩

end LegalForge.Deadlines
