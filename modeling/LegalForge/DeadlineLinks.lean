import LegalForge.DeadlineSync
import LegalForge.ReadCommitted

/-! `set_trigger_event` and `apply_rule_set_to_matter` as the statements that concurrent requests
interleave. Both look for a row before they insert one, and the look locks nothing. -/
namespace LegalForge.DeadlineLinks
open Transition ReadCommitted
open Deadlines hiding State step serve

/-- `scalar_one_or_none()` raises for several rows, `scalar_one()` for none as well. -/
inductive LinkError where
  | multipleResultsFound
  | noResultFound
  | raised
  deriving DecidableEq

/-- A call of `set_trigger_event`, with the ids that are drawn in it. -/
structure TriggerRequest where
  matterId : Uuid
  triggerName : BoundedText 1 255
  triggerDate : Day
  notes : Option String := none
  createdBy : Uuid
  draws : ℕ → Uuid

/-- What a session has kept of a trigger event that it is about to write. -/
structure TriggerWrite where
  request : TriggerRequest
  /-- The row as it was found, or the new row -/
  loaded : TriggerEvent
  isNew : Bool := false
  /-- The calendar events of the old deadlines -/
  eventIds : List Uuid := []
  /-- The old deadlines that the session deletes -/
  deleted : List Uuid := []

/-- Where one request stands. -/
inductive Linker where
  | idle
  /-- The rule set is not applied to the matter yet. -/
  | unlinked (config : MatterDeadlineConfig)
  /-- It is, and will be selected once more. -/
  | linkedBefore (matterId ruleSetId : Uuid)
  | linked
  | linking (config : MatterDeadlineConfig)
  /-- There is no such trigger event yet. -/
  | absent (request : TriggerRequest) (triggerName : String)
  | found (w : TriggerWrite)
  | selected (w : TriggerWrite)
  /-- The DELETE has its snapshot, and waits for these rows. -/
  | snapshot (w : TriggerWrite) (deadlineIds : List Uuid)
  | emptied (w : TriggerWrite)
  | cleared (w : TriggerWrite)
  | updated (w : TriggerWrite)
  | refreshed (w : TriggerWrite) (trigger : TriggerEvent)
  | rulesRead (w : TriggerWrite) (trigger : TriggerEvent) (rules : List DeadlineRule)
  | generated (w : TriggerWrite) (deadlines : List GeneratedDeadline) (events : List CalendarEvent)
  | failed (error : LinkError)

inductive LinkStatement where
  /-- The first select of a request for this row -/
  | findConfig (config : MatterDeadlineConfig)
  | findAgain
  | insertConfig
  | findTrigger (request : TriggerRequest)
  | insertTrigger
  | selectEvents
  /-- The two halves of the DELETE of the old deadlines -/
  | snapshotDeadlines
  | deleteDeadlines
  | deleteEvents
  | updateTrigger
  | refreshTrigger
  | getRules
  /-- The loop over the rules -/
  | generate

/-- The rows that are written, and the primary keys of those that are inserted. -/
inductive LinkRow where
  | config (id : Uuid)
  | trigger (id : Uuid)
  | deadline (id : Uuid)
  | event (id : Uuid)
  deriving DecidableEq

def configKey (config : MatterDeadlineConfig) : Uuid × Uuid :=
  (config.matterId, config.ruleSetId)

def triggerKey (trigger : TriggerEvent) : Uuid × String :=
  (trigger.matterId, trigger.triggerName)

def deadlineKey (gen : GeneratedDeadline) : Uuid × Uuid :=
  (gen.triggerEventId, gen.deadlineRuleId)

def newTrigger (request : TriggerRequest) (triggerName : String) : TriggerEvent where
  id := request.draws 0
  matterId := request.matterId
  triggerName := triggerName
  triggerDate := request.triggerDate
  notes := request.notes
  createdBy := some request.createdBy

/-- The columns the session has changed, over the row as it is now. -/
def overwritten (w : TriggerWrite) (row : TriggerEvent) : TriggerEvent :=
  { row with
    triggerDate := Table.assigned w.loaded.triggerDate w.request.triggerDate row.triggerDate
    notes := Table.assigned w.loaded.notes w.request.notes row.notes }

/-- An UPDATE is needed. -/
def changes (w : TriggerWrite) : Bool :=
  w.loaded.triggerDate ≠ w.request.triggerDate || w.loaded.notes ≠ w.request.notes

/-- The tables without the rows the session has deleted. The deletion of a calendar event takes
its deadlines along. -/
def withoutDeleted (db : Db) (w : TriggerWrite) : Db :=
  { db with
    deadlines := db.deadlines.filter fun d =>
      !w.deleted.contains d.id && !w.eventIds.contains d.calendarEventId
    events := db.events.filter fun e => !w.eventIds.contains e.id }

def writeTrigger (db : Db) (w : TriggerWrite) : List TriggerEvent :=
  if w.isNew then db.triggers++[w.loaded]
  else Table.alter TriggerEvent.id w.loaded.id (overwritten w) db.triggers

/-- `scalar_one_or_none()` -/
def scalarOneOrNone {α : Type} : List α → Except LinkError (Option α)
  | [] => .ok none
  | [row] => .ok (some row)
  | _ :: _ :: _ => .error .multipleResultsFound

def findConfigs (db : Db) (matterId ruleSetId : Uuid) : List MatterDeadlineConfig :=
  db.configs.filter fun c => configKey c = (matterId, ruleSetId)

def findTriggers (db : Db) (matterId : Uuid) (triggerName : String) : List TriggerEvent :=
  db.triggers.filter fun t => triggerKey t = (matterId, triggerName)

def linkStmt (db : Db) : Linker → LinkStatement → Option Linker
  | .idle, .findConfig config =>
    match scalarOneOrNone (findConfigs db config.matterId config.ruleSetId) with
    | .error error => some (.failed error)
    | .ok none => some (.unlinked config)
    | .ok (some _) => some (.linkedBefore config.matterId config.ruleSetId)
  | .linkedBefore matterId ruleSetId, .findAgain =>
    match scalarOneOrNone (findConfigs db matterId ruleSetId) with
    | .error error => some (.failed error)
    | .ok none => some (.failed .noResultFound)
    | .ok (some _) => some .linked
  | .unlinked config, .insertConfig =>
    match insertConfig db config with
    | none => some (.failed .raised)
    | some _ => some (.linking config)
  | .idle, .findTrigger request =>
    match boundedVarchar request.triggerName with
    | none => some (.failed .raised)
    | some triggerName =>
      match scalarOneOrNone (findTriggers db request.matterId triggerName) with
      | .error error => some (.failed error)
      | .ok none => some (.absent request triggerName)
      | .ok (some row) => some (.found { request := request, loaded := row })
  | .absent request triggerName, .insertTrigger =>
    let trigger := newTrigger request triggerName
    match nullable textColumn request.notes, insertTrigger db trigger with
    | some _, some _ => some (.updated { request := request, loaded := trigger, isNew := true })
    | _, _ => some (.failed .raised)
  | .found w, .selectEvents =>
    let eventIds := eventIdsOf db w.loaded.id
    if eventIds = [] then some (.cleared w) else some (.selected { w with eventIds := eventIds })
  | .selected w, .snapshotDeadlines =>
    some (.snapshot w ((db.deadlines.filter fun d => d.triggerEventId = w.loaded.id).map
      GeneratedDeadline.id))
  | .snapshot w deadlineIds, .deleteDeadlines => some (.emptied { w with deleted := deadlineIds })
  | .emptied w, .deleteEvents => some (.cleared w)
  | .cleared w, .updateTrigger =>
    match nullable textColumn w.request.notes, getTriggerEvent db w.loaded.id with
    | some _, some _ => some (.updated w)
    | _, _ => some (.failed .raised)
  | .updated w, .refreshTrigger =>
    if w.isNew then some (.refreshed w w.loaded)
    else
      match getTriggerEvent db w.loaded.id with
      | none => some (.failed .raised)
      | some row => some (.refreshed w (overwritten w row))
  | .refreshed w trigger, .getRules =>
    some (.rulesRead w trigger (getRulesForTrigger db trigger.matterId trigger.triggerName))
  | .rulesRead w trigger rules, .generate =>
    let before := withoutDeleted db w
    match generateDeadlines trigger (getMatterTitle db trigger.matterId) w.request.createdBy rules
      (fun n => w.request.draws (n+1)) before with
    | none => some (.failed .raised)
    | some (deadlines, after) =>
      some (.generated w deadlines (after.events.drop before.events.length))
  | _, _ => none

/-- What a statement locks. -/
def linkLocks : Linker → LinkStatement → List LinkRow
  | .unlinked config, .insertConfig => [.config config.id]
  | .absent request _, .insertTrigger => [.trigger (request.draws 0)]
  | .snapshot _ deadlineIds, .deleteDeadlines => deadlineIds.map .deadline
  | .emptied w, .deleteEvents => w.eventIds.map .event
  | .cleared w, .updateTrigger => if changes w then [.trigger w.loaded.id] else []
  | .rulesRead w _ rules, .generate =>
    (List.range rules.length).flatMap fun n =>
      [.event (w.request.draws (2*n+1)), .deadline (w.request.draws (2*n+2))]
  | _, _ => []

def linkPublish (db : Db) : Linker → Option (Db × Linker)
  | .linked => some (db, .idle)
  | .linking config => some ({ db with configs := db.configs++[config] }, .idle)
  | .generated w deadlines events =>
    let db' := withoutDeleted db w
    some ({ db' with
      triggers := writeTrigger db w
      deadlines := db'.deadlines++deadlines
      events := db'.events++events }, .idle)
  | _ => none

def linkProgram : Program Db Linker LinkStatement LinkRow where
  locks _ m a := linkLocks m a
  stmt := linkStmt
  publish := linkPublish
  abort _ := .idle

abbrev LinkState (Tx : Type*) := State Db Linker LinkRow Tx
abbrev LinkLabel (Tx : Type*) := Label LinkStatement Tx

/-- A trigger event for each matter and name, a link for each matter and rule set, a deadline for
each trigger event and rule. -/
structure LinksUnique (db : Db) : Prop where
  triggers : (db.triggers.map triggerKey).Nodup
  configs : (db.configs.map configKey).Nodup
  deadlines : (db.deadlines.map deadlineKey).Nodup

/-- No statement of a later request finds several rows. -/
def NeverSeveral (db : Db) : Prop :=
  ∀ m a, linkStmt db m a ≠ some (.failed .multipleResultsFound)

/-- What a request inserts is not there yet when it commits. -/
def CommitsFirst (db : Db) : Linker → Prop
  | .linking config => configKey config ∉ db.configs.map configKey
  | .generated w deadlines _ =>
    (w.isNew = true → triggerKey w.loaded ∉ db.triggers.map triggerKey) ∧
      ∀ gen ∈ deadlines, deadlineKey gen ∉ (withoutDeleted db w).deadlines.map deadlineKey
  | _ => True

/-- A session has one deadline for each rule. -/
def OncePerRule : Linker → Prop
  | .rulesRead _ _ rules => (rules.map DeadlineRule.id).Nodup
  | .generated _ deadlines _ => (deadlines.map deadlineKey).Nodup
  | _ => True

section
variable {db db' : Db} {m m' : Linker}

theorem LinksUnique.nodup_rules (h : LinksUnique db) (hkeyed : RulesKeyed db) (matterId : Uuid)
    (triggerName : String) :
    ((getRulesForTrigger db matterId triggerName).map DeadlineRule.id).Nodup := by
  refine (hkeyed.nodup_getRulesForTrigger h.configs matterId triggerName).map_on ?_
  intro r hr s hs hid
  exact List.inj_on_of_nodup_map hkeyed.rule_ids (mem_getRulesForTrigger hr)
    (mem_getRulesForTrigger hs) hid

/-- Every rule gives one deadline of the trigger event. -/
theorem map_deadlineKey {trigger : TriggerEvent} {rules : List DeadlineRule}
    {deadlines : List GeneratedDeadline} (h : List.Forall₂ (Generates trigger) rules deadlines) :
    deadlines.map deadlineKey = rules.map fun rule => (trigger.id, rule.id) := by
  induction h with
  | nil => rfl
  | cons hone _ ih =>
    rw [List.map_cons, List.map_cons, ih, deadlineKey, hone.trigger_id, hone.rule_id]

theorem OncePerRule.stmt (hkeyed : RulesKeyed db) (hunique : LinksUnique db) {a : LinkStatement}
    (hm : OncePerRule m) (h : linkStmt db m a = some m') : OncePerRule m' := by
  cases a with
  | getRules =>
    cases m with
    | refreshed w trigger =>
      obtain rfl := Option.some.inj h
      exact hunique.nodup_rules hkeyed _ _
    | _ => cases h
  | generate =>
    cases m with
    | rulesRead w trigger rules =>
      simp only [linkStmt] at h
      split at h
      · obtain rfl := Option.some.inj h
        trivial
      · rename_i deadlines after hgenerate
        obtain rfl := Option.some.inj h
        have hall := (generateDeadlines_eq_some hgenerate).1
        rw [OncePerRule, map_deadlineKey hall]
        have hrules : (rules.map DeadlineRule.id).Nodup := hm
        have hpairs : rules.map (fun rule => (trigger.id, rule.id)) =
            (rules.map DeadlineRule.id).map (Prod.mk trigger.id) := by
          rw [List.map_map]
          rfl
        rw [hpairs]
        exact hrules.map (Prod.mk_right_injective trigger.id)
    | _ => cases h
  | _ =>
    unfold linkStmt at h
    grind [OncePerRule]

theorem scalarOneOrNone_ne_error {α κ : Type} {key : α → κ} {k : κ} {p : α → Bool} {rows : List α}
    (hnodup : (rows.map key).Nodup) (hkey : ∀ x ∈ rows, p x = true → key x = k) (e : LinkError) :
    scalarOneOrNone (rows.filter p) ≠ .error e := by
  rcases filter_le_one hnodup hkey with hnone | ⟨x, hone⟩
  · rw [hnone]
    exact fun h => by cases h
  · rw [hone]
    exact fun h => by cases h

theorem LinksUnique.findConfigs_ne_error (h : LinksUnique db) (matterId ruleSetId : Uuid)
    (e : LinkError) : scalarOneOrNone (findConfigs db matterId ruleSetId) ≠ .error e :=
  scalarOneOrNone_ne_error h.configs (fun _ _ => of_decide_eq_true) e

theorem LinksUnique.findTriggers_ne_error (h : LinksUnique db) (matterId : Uuid)
    (triggerName : String) (e : LinkError) :
    scalarOneOrNone (findTriggers db matterId triggerName) ≠ .error e :=
  scalarOneOrNone_ne_error h.triggers (fun _ _ => of_decide_eq_true) e

theorem LinksUnique.neverSeveral (h : LinksUnique db) : NeverSeveral db := by
  intro m a hstmt
  have hconfigs := h.findConfigs_ne_error
  have htriggers := h.findTriggers_ne_error
  unfold linkStmt at hstmt
  grind

/-- The keys of the trigger events after a commit. -/
theorem map_triggerKey_writeTrigger (db : Db) (w : TriggerWrite) :
    (writeTrigger db w).map triggerKey =
      if w.isNew then db.triggers.map triggerKey++[triggerKey w.loaded]
      else db.triggers.map triggerKey := by
  unfold writeTrigger
  split_ifs
  · rw [List.map_append, List.map_singleton]
  · rw [Table.alter, List.map_map]
    refine List.map_congr_left fun t _ => ?_
    rw [Function.comp_apply]
    split_ifs
    · rfl
    · rfl

theorem nodup_concat_iff {α : Type} {l : List α} {a : α} (hl : l.Nodup) :
    (l++[a]).Nodup ↔ a ∉ l := by
  rw [List.nodup_append_comm, List.singleton_append, List.nodup_cons]
  exact and_iff_left hl

theorem nodup_triggers_iff (hunique : LinksUnique db) (w : TriggerWrite) :
    ((writeTrigger db w).map triggerKey).Nodup ↔
      (w.isNew = true → triggerKey w.loaded ∉ db.triggers.map triggerKey) := by
  rw [map_triggerKey_writeTrigger]
  split_ifs with hnew
  · rw [nodup_concat_iff hunique.triggers]
    exact ⟨fun h _ => h, fun h => h hnew⟩
  · exact iff_of_true hunique.triggers fun h => absurd h hnew

theorem nodup_deadlines_iff (hunique : LinksUnique db) (w : TriggerWrite)
    {deadlines : List GeneratedDeadline} (hdeadlines : (deadlines.map deadlineKey).Nodup) :
    (((withoutDeleted db w).deadlines++deadlines).map deadlineKey).Nodup ↔
      ∀ gen ∈ deadlines, deadlineKey gen ∉ (withoutDeleted db w).deadlines.map deadlineKey := by
  have hkept : ((withoutDeleted db w).deadlines.map deadlineKey).Nodup :=
    hunique.deadlines.sublist (List.filter_sublist.map deadlineKey)
  rw [List.map_append, List.nodup_append', and_iff_right hkept, and_iff_right hdeadlines]
  constructor
  · intro hdisjoint gen hgen hmem
    exact hdisjoint hmem (List.mem_map_of_mem hgen)
  · intro hfresh key hmem hkey
    obtain ⟨gen, hgen, rfl⟩ := List.mem_map.mp hkey
    exact hfresh gen hgen hmem

/-- A commit keeps the links unique exactly when it is the first to insert its rows. -/
theorem linksUnique_publish_iff (hunique : LinksUnique db) (hm : OncePerRule m)
    (h : linkPublish db m = some (db', m')) : LinksUnique db' ↔ CommitsFirst db m := by
  cases m with
  | linked =>
    obtain ⟨rfl, -⟩ := Prod.mk.inj (Option.some.inj h)
    exact iff_of_true hunique trivial
  | linking config =>
    obtain ⟨rfl, -⟩ := Prod.mk.inj (Option.some.inj h)
    have hconfigs : ((db.configs++[config]).map configKey).Nodup ↔
        configKey config ∉ db.configs.map configKey := by
      rw [List.map_append, List.map_singleton, nodup_concat_iff hunique.configs]
    exact ⟨fun h => hconfigs.mp h.configs,
      fun h => ⟨hunique.triggers, hconfigs.mpr h, hunique.deadlines⟩⟩
  | generated w deadlines events =>
    obtain ⟨rfl, -⟩ := Prod.mk.inj (Option.some.inj h)
    have htriggers := nodup_triggers_iff hunique w
    have hdeadlines := nodup_deadlines_iff hunique w hm
    exact ⟨fun h => ⟨htriggers.mp h.triggers, hdeadlines.mp h.deadlines⟩,
      fun h => ⟨htriggers.mpr h.1, hunique.configs, hdeadlines.mpr h.2⟩⟩
  | _ => cases h

theorem rulesKeyed_publish (hkeyed : RulesKeyed db) (h : linkPublish db m = some (db', m')) :
    RulesKeyed db' ∧ m' = .idle := by
  cases m with
  | linked =>
    obtain ⟨rfl, rfl⟩ := Prod.mk.inj (Option.some.inj h)
    exact ⟨hkeyed, rfl⟩
  | linking config =>
    obtain ⟨rfl, rfl⟩ := Prod.mk.inj (Option.some.inj h)
    exact ⟨⟨hkeyed.rule_ids, hkeyed.ruleSet_ids⟩, rfl⟩
  | generated w deadlines events =>
    obtain ⟨rfl, rfl⟩ := Prod.mk.inj (Option.some.inj h)
    exact ⟨⟨hkeyed.rule_ids, hkeyed.ruleSet_ids⟩, rfl⟩
  | _ => cases h

end

section
variable {Tx : Type*} [DecidableEq Tx]

/-- What holds while the links are unique. -/
structure Consistent (s : LinkState Tx) : Prop where
  keyed : RulesKeyed s.committed
  once : ∀ t, OncePerRule (s.session t)

theorem Consistent.step {s s' : LinkState Tx} (hs : Consistent s)
    (hunique : LinksUnique s.committed) {l : LinkLabel Tx}
    (h : ReadCommitted.step linkProgram s l = some s') : Consistent s' where
  keyed := by
    by_cases hl : ∃ t, l = .commit t
    · obtain ⟨t, rfl⟩ := hl
      obtain ⟨db, m, hpub, rfl⟩ := step_commit_eq_some.mp h
      exact (rulesKeyed_publish hs.keyed hpub).1
    · rw [step_committed_eq h fun t ht => hl ⟨t, ht⟩]
      exact hs.keyed
  once := by
    intro t
    rcases step_session_cases h t with hsame | ⟨a, -, hstmt⟩ | ⟨-, hpub⟩ | ⟨-, habort⟩
    · exact hsame ▸ hs.once t
    · exact (hs.once t).stmt hs.keyed hunique hstmt
    · rw [(rulesKeyed_publish hs.keyed hpub).2]
      trivial
    · rw [habort]
      trivial

/-- Over any interleaving, the links are unique in every committed state, and no later request
finds several rows, exactly when every commit is the first to insert its rows. -/
theorem linksUnique_throughout_iff {db : Db} (hkeyed : RulesKeyed db) (ls : List (LinkLabel Tx)) :
    Throughout (ReadCommitted.step linkProgram)
        (fun s => LinksUnique s.committed ∧ NeverSeveral s.committed) (start db .idle) ls ↔
      LinksUnique db ∧
        Along (ReadCommitted.step linkProgram) (fun s l _ => AtCommit CommitsFirst s l)
          (start db .idle) ls := by
  have hwhole (s : LinkState Tx) :
      (LinksUnique s.committed ∧ NeverSeveral s.committed) ↔ LinksUnique s.committed :=
    and_iff_left_of_imp LinksUnique.neverSeveral
  simp only [hwhole]
  have hstart : Consistent (start db .idle : LinkState Tx) := ⟨hkeyed, fun _ => trivial⟩
  refine throughout_atCommit_iff (I := Consistent) ?_ ?_ ?_ hstart ls
  · exact fun s l s' hs hunique hstep _ => hs.step hunique hstep
  · intro s l s' _ hunique hstep hl
    rw [step_committed_eq hstep hl]
    exact hunique
  · intro s t s' hs hunique hstep
    obtain ⟨db', m', hpub, rfl⟩ := step_commit_eq_some.mp hstep
    exact linksUnique_publish_iff hunique (hs.once t) hpub

end

def setTrialDate (n : ℕ) : TriggerRequest where
  matterId := 1
  triggerName := trialDate.triggerName
  triggerDate := trialDate.triggerDate
  createdBy := 2
  draws := drawsFrom n

/-- The statements of a request for a trigger event that is not there. -/
def insertTrialDate (t : Bool) (n : ℕ) : List (LinkLabel Bool) :=
  [.stmt t (.findTrigger (setTrialDate n)), .stmt t .insertTrigger, .stmt t .refreshTrigger,
    .stmt t .getRules, .stmt t .generate]

/-- Both requests look for the trigger event before one of them commits. -/
def overlappingRequests : List (LinkLabel Bool) :=
  insertTrialDate true 10++insertTrialDate false 20++[.commit true, .commit false]

theorem rulesKeyed_emptyDb : RulesKeyed emptyDb :=
  valid_emptyDb.rulesKeyed

theorem linksUnique_throughout_iff_overlapping :
    Throughout (ReadCommitted.step linkProgram)
        (fun s => LinksUnique s.committed ∧ NeverSeveral s.committed) (start emptyDb .idle)
        overlappingRequests ↔
      LinksUnique emptyDb ∧
        Along (ReadCommitted.step linkProgram) (fun s l _ => AtCommit CommitsFirst s l)
          (start emptyDb .idle) overlappingRequests :=
  linksUnique_throughout_iff rulesKeyed_emptyDb overlappingRequests

theorem linksUnique_emptyDb : LinksUnique emptyDb where
  triggers := List.nodup_nil
  configs := List.nodup_nil
  deadlines := List.nodup_nil

/-- Both requests insert the trigger event. -/
theorem not_linksUnique_overlapping : LinksUnique emptyDb ∧
    ¬Throughout (ReadCommitted.step linkProgram)
      (fun s => LinksUnique s.committed ∧ NeverSeveral s.committed) (start emptyDb .idle)
      overlappingRequests := by
  refine ⟨linksUnique_emptyDb, fun h => ?_⟩
  obtain ⟨s, hrun⟩ : ∃ s, exec (ReadCommitted.step linkProgram) (start emptyDb .idle)
      overlappingRequests = some s := ⟨_, rfl⟩
  have hview : (exec (ReadCommitted.step linkProgram) (start emptyDb .idle)
      overlappingRequests).map (fun s => s.committed.triggers.map triggerKey) =
        some [(1, "trial_date"), (1, "trial_date")] := by
    decide +kernel
  rw [hrun, Option.map_some, Option.some.injEq] at hview
  have hnodup := (h.final hrun).1.triggers
  rw [hview] at hnodup
  exact List.not_nodup_pair _ hnodup

end LegalForge.DeadlineLinks
