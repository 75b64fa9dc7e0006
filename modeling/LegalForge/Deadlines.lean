import LegalForge.AuthModels
import LegalForge.CalendarDays
import LegalForge.TransitionRun

/-! Court rules, the trigger events of matters, and the deadlines generated from
both, each with an entry in the calendar. -/
namespace LegalForge.Deadlines
open Auth Transition

inductive OffsetType where
  | calendarDays
  | businessDays
  deriving DecidableEq

inductive EventType where
  | courtDate
  | deadline
  | filing
  | meeting
  | reminder
  deriving DecidableEq

/-- `EventType(value)` -/
def EventType.ofValue : String → Option EventType
  | "court_date" => some .courtDate
  | "deadline" => some .deadline
  | "filing" => some .filing
  | "meeting" => some .meeting
  | "reminder" => some .reminder
  | _ => none

structure Matter where
  id : Uuid
  matterNumber : Option ℤ := none
  title : String
  deriving DecidableEq

structure CourtRuleSet where
  id : Uuid
  name : String
  jurisdiction : String
  courtType : Option String := none
  isActive : Bool := true
  deriving DecidableEq

structure DeadlineRule where
  id : Uuid
  ruleSetId : Uuid
  name : String
  description : Option String := none
  triggerEvent : String
  offsetDays : ℤ
  offsetType : OffsetType := .calendarDays
  createsEventType : String := "deadline"
  isActive : Bool := true
  sortOrder : ℤ := 0
  deriving DecidableEq

structure MatterDeadlineConfig where
  id : Uuid
  matterId : Uuid
  ruleSetId : Uuid
  createdBy : Option Uuid
  deriving DecidableEq

structure TriggerEvent where
  id : Uuid
  matterId : Uuid
  triggerName : String
  triggerDate : Day
  notes : Option String := none
  createdBy : Option Uuid
  deriving DecidableEq

structure GeneratedDeadline where
  id : Uuid
  calendarEventId : Uuid
  triggerEventId : Uuid
  deadlineRuleId : Uuid
  matterId : Uuid
  computedDate : Day
  deriving DecidableEq

structure CalendarEvent where
  id : Uuid
  matterId : Option Uuid
  title : String
  eventType : EventType
  /-- Midnight UTC of the day -/
  startDatetime : Day
  allDay : Bool
  createdBy : Uuid
  deriving DecidableEq

structure Db where
  matters : List Matter
  ruleSets : List CourtRuleSet
  rules : List DeadlineRule
  configs : List MatterDeadlineConfig
  triggers : List TriggerEvent
  deadlines : List GeneratedDeadline
  events : List CalendarEvent

/-- `Field(min_length=low, max_length=high)` -/
structure BoundedText (low high : ℕ) where
  text : String
  length_mem : low ≤ text.length ∧ text.length ≤ high

structure CourtRuleSetCreate where
  name : BoundedText 1 255
  jurisdiction : BoundedText 1 255
  courtType : Option (BoundedText 0 100) := none

structure DeadlineRuleCreate where
  name : BoundedText 1 500
  description : Option String := none
  triggerEvent : BoundedText 1 255
  offsetDays : ℤ
  offsetType : OffsetType := .calendarDays
  createsEventType : BoundedText 0 100 := ⟨"deadline", by decide⟩
  isActive : Bool := true
  sortOrder : ℤ := 0

/-- The fields a request sets, each to a value or to null. -/
structure DeadlineRuleUpdate where
  name : Option (Option (BoundedText 1 500)) := none
  description : Option (Option String) := none
  triggerEvent : Option (Option (BoundedText 1 255)) := none
  offsetDays : Option (Option ℤ) := none
  offsetType : Option (Option OffsetType) := none
  createsEventType : Option (Option (BoundedText 0 100)) := none
  isActive : Option (Option Bool) := none
  sortOrder : Option (Option ℤ) := none

structure TriggerEventCreate where
  triggerName : BoundedText 1 255
  triggerDate : Day
  notes : Option String := none

structure TriggerEventUpdate where
  triggerDate : Option Day := none
  notes : Option String := none

/-- A value for a column `Text`. -/
def textColumn (text : String) : Option String :=
  if '\x00' ∈ text.toList then none else some text

theorem textColumn_eq_some {text text' : String} (h : textColumn text = some text') : text' = text := by
  unfold textColumn at h
  split_ifs at h
  exact (Option.some.inj h).symm

/-- A value for a column `Integer`. -/
def intColumn (n : ℤ) : Option ℤ :=
  if -2147483648 ≤ n ∧ n ≤ 2147483647 then some n else none

theorem intColumn_eq_some {n m : ℤ} (h : intColumn n = some m) : m = n := by
  unfold intColumn at h
  split_ifs at h
  exact (Option.some.inj h).symm

def nullable {α β : Type} (column : α → Option β) : Option α → Option (Option β)
  | none => some none
  | some value => (column value).map some

/-- A column that is not null, after `setattr` with what the request sets. -/
def assign {α β : Type} (column : α → Option β) (current : β) : Option (Option α) → Option β
  | none => some current
  | some none => none
  | some (some value) => column value

def assignNullable {α β : Type} (column : α → Option β) (current : Option β) :
    Option (Option α) → Option (Option β)
  | none => some current
  | some value => nullable column value

def boundedVarchar {low high : ℕ} (text : BoundedText low high) : Option String :=
  varchar high text.text

def computeDeadlineDate (triggerDate : Day) (offsetDays : ℤ) (offsetType : OffsetType) :
    Option Day :=
  let computed :=
    match offsetType with
    | .calendarDays => triggerDate.add offsetDays
    | .businessDays =>
      Day.walk (if 0 ≤ offsetDays then 1 else -1) 3652059 offsetDays.natAbs triggerDate
  computed.bind Day.toWeekday

/-- No deadline falls on a weekend. -/
theorem weekday_of_computeDeadlineDate {triggerDate date : Day} {offsetDays : ℤ}
    {offsetType : OffsetType} (h : computeDeadlineDate triggerDate offsetDays offsetType = some date) :
    date.weekday < 5 := by
  obtain ⟨computed, -, hdate⟩ := Option.bind_eq_some_iff.mp h
  exact Day.weekday_of_toWeekday hdate

/-- Calendar days are counted exactly, but for a weekend at the end. -/
theorem ordinal_of_calendarDays {triggerDate date : Day} {offsetDays : ℤ}
    (h : computeDeadlineDate triggerDate offsetDays .calendarDays = some date) :
    triggerDate.ordinal+offsetDays ≤ date.ordinal ∧
      (date.ordinal : ℤ) ≤ triggerDate.ordinal+offsetDays+2 := by
  obtain ⟨computed, hcomputed, hdate⟩ := Option.bind_eq_some_iff.mp h
  have hord := Day.add_eq_some_iff.mp hcomputed
  have hmove := Day.ordinal_toWeekday hdate
  omega

/-- Business days end the walk, and the weekend rule moves nothing any more. -/
theorem computeDeadlineDate_businessDays {triggerDate last : Day} {offsetDays : ℤ}
    (hoffset : offsetDays ≠ 0)
    (hlast : Day.walk (if 0 ≤ offsetDays then 1 else -1) 3652059 offsetDays.natAbs triggerDate =
      some last) : computeDeadlineDate triggerDate offsetDays .businessDays = some last := by
  have hweekday : last.weekday < 5 := by
    obtain ⟨n, hn⟩ := Nat.exists_eq_succ_of_ne_zero (Int.natAbs_ne_zero.mpr hoffset)
    rw [hn] at hlast
    exact Day.weekday_of_walk hlast
  simp only [computeDeadlineDate, hlast, Option.bind_some, Day.toWeekday]
  rw [if_neg (by omega), if_neg (by omega)]

/-- The bound on the walk is that of the calendar: a longer one finds no other day. -/
theorem businessDays_room {direction : ℤ} (hdir : direction = 1 ∨ direction = -1) {room : ℕ}
    (hroom : 3652059 ≤ room) (remaining : ℕ) (triggerDate : Day) :
    Day.walk direction room remaining triggerDate =
      Day.walk direction 3652059 remaining triggerDate :=
  Day.walk_room hdir hroom (Day.daysLeft_le direction triggerDate)

def getRuleSet (db : Db) (ruleSetId : Uuid) : Option CourtRuleSet :=
  Table.find CourtRuleSet.id ruleSetId db.ruleSets

def getDeadlineRule (db : Db) (ruleId : Uuid) : Option DeadlineRule :=
  Table.find DeadlineRule.id ruleId db.rules

def getTriggerEvent (db : Db) (triggerId : Uuid) : Option TriggerEvent :=
  Table.find TriggerEvent.id triggerId db.triggers

def getMatter (db : Db) (matterId : Uuid) : Option Matter :=
  Table.find Matter.id matterId db.matters

def insertRuleSet (db : Db) (ruleSet : CourtRuleSet) : Option Db := do
  let ruleSets ← Table.insert CourtRuleSet.id ruleSet db.ruleSets
  some { db with ruleSets := ruleSets }

def insertRule (db : Db) (rule : DeadlineRule) : Option Db := do
  let _ ← getRuleSet db rule.ruleSetId
  let rules ← Table.insert DeadlineRule.id rule db.rules
  some { db with rules := rules }

def insertConfig (db : Db) (config : MatterDeadlineConfig) : Option Db := do
  let _ ← getMatter db config.matterId
  let _ ← getRuleSet db config.ruleSetId
  let configs ← Table.insert MatterDeadlineConfig.id config db.configs
  some { db with configs := configs }

def insertTrigger (db : Db) (trigger : TriggerEvent) : Option Db := do
  let _ ← getMatter db trigger.matterId
  let triggers ← Table.insert TriggerEvent.id trigger db.triggers
  some { db with triggers := triggers }

def insertEvent (db : Db) (event : CalendarEvent) : Option Db := do
  let events ← Table.insert CalendarEvent.id event db.events
  some { db with events := events }

def insertDeadline (db : Db) (gen : GeneratedDeadline) : Option Db := do
  let deadlines ← Table.insert GeneratedDeadline.id gen db.deadlines
  some { db with deadlines := deadlines }

def createRuleSet (db : Db) (id : Uuid) (data : CourtRuleSetCreate) : Option (CourtRuleSet × Db) := do
  let name ← boundedVarchar data.name
  let jurisdiction ← boundedVarchar data.jurisdiction
  let courtType ← nullable boundedVarchar data.courtType
  let ruleSet : CourtRuleSet :=
    { id := id, name := name, jurisdiction := jurisdiction, courtType := courtType }
  let db ← insertRuleSet db ruleSet
  some (ruleSet, db)

/-- The row of a new rule, if its columns can hold the request's values. -/
def newRule (id ruleSetId : Uuid) (data : DeadlineRuleCreate) : Option DeadlineRule := do
  let name ← boundedVarchar data.name
  let description ← nullable textColumn data.description
  let triggerEvent ← boundedVarchar data.triggerEvent
  let offsetDays ← intColumn data.offsetDays
  let createsEventType ← boundedVarchar data.createsEventType
  let sortOrder ← intColumn data.sortOrder
  some
    { id := id
      ruleSetId := ruleSetId
      name := name
      description := description
      triggerEvent := triggerEvent
      offsetDays := offsetDays
      offsetType := data.offsetType
      createsEventType := createsEventType
      isActive := data.isActive
      sortOrder := sortOrder }

def createDeadlineRule (db : Db) (id ruleSetId : Uuid) (data : DeadlineRuleCreate) :
    Option (DeadlineRule × Db) := do
  let rule ← newRule id ruleSetId data
  let db ← insertRule db rule
  some (rule, db)

/-- The row of a rule after the attributes of the request were set, if it can be
flushed. -/
def changedRule (rule : DeadlineRule) (data : DeadlineRuleUpdate) : Option DeadlineRule := do
  let name ← assign boundedVarchar rule.name data.name
  let description ← assignNullable textColumn rule.description data.description
  let triggerEvent ← assign boundedVarchar rule.triggerEvent data.triggerEvent
  let offsetDays ← assign intColumn rule.offsetDays data.offsetDays
  let offsetType ← assign some rule.offsetType data.offsetType
  let createsEventType ← assign boundedVarchar rule.createsEventType data.createsEventType
  let isActive ← assign some rule.isActive data.isActive
  let sortOrder ← assign intColumn rule.sortOrder data.sortOrder
  some
    { rule with
      name := name
      description := description
      triggerEvent := triggerEvent
      offsetDays := offsetDays
      offsetType := offsetType
      createsEventType := createsEventType
      isActive := isActive
      sortOrder := sortOrder }

def updateDeadlineRule (db : Db) (rule : DeadlineRule) (data : DeadlineRuleUpdate) :
    Option (DeadlineRule × Db) := do
  let changed ← changedRule rule data
  some (changed,
    { db with rules := Table.alter DeadlineRule.id rule.id (fun _ => changed) db.rules })

/-- The foreign key removes the generated deadlines of the rule, and nothing else. -/
def deleteDeadlineRule (db : Db) (rule : DeadlineRule) : Db :=
  { db with
    rules := Table.remove DeadlineRule.id rule.id db.rules
    deadlines := db.deadlines.filter (fun d => d.deadlineRuleId ≠ rule.id) }

def applyRuleSetToMatter (db : Db) (id matterId ruleSetId createdBy : Uuid) :
    Option (MatterDeadlineConfig × Db) :=
  match db.configs.filter (fun c => c.matterId = matterId ∧ c.ruleSetId = ruleSetId) with
  | [] => do
    let config : MatterDeadlineConfig :=
      { id := id, matterId := matterId, ruleSetId := ruleSetId, createdBy := some createdBy }
    let db ← insertConfig db config
    some (config, db)
  | [config] => some (config, db)
  | _ :: _ :: _ => none

/-- `_get_rules_for_trigger`: a rule comes once for each row it joins with. -/
def getRulesForTrigger (db : Db) (matterId : Uuid) (triggerName : String) : List DeadlineRule :=
  let rules := db.rules.filter (fun r => r.triggerEvent = triggerName ∧ r.isActive)
  let joined := rules.flatMap (fun r =>
    (db.ruleSets.filter (fun s => s.id = r.ruleSetId ∧ s.isActive)).flatMap (fun s =>
      (db.configs.filter (fun c => c.ruleSetId = s.id ∧ c.matterId = matterId)).map (fun _ => r)))
  joined.insertionSort (fun r s => r.sortOrder ≤ s.sortOrder)

/-- `_get_matter_title` -/
def getMatterTitle (db : Db) (matterId : Uuid) : String :=
  match getMatter db matterId with
  | some matter =>
    match matter.matterNumber with
    | some number => if number = 0 then matter.title else "Matter #"++toString number
    | none => matter.title
  | none => String.ofList (uuidText matterId)

/-- The foreign key removes the generated deadlines of a calendar event. -/
def deleteEvents (db : Db) (eventIds : List Uuid) : Db :=
  { db with
    events := db.events.filter (fun e => !eventIds.contains e.id)
    deadlines := db.deadlines.filter (fun d => !eventIds.contains d.calendarEventId) }

def eventIdsOf (db : Db) (triggerEventId : Uuid) : List Uuid :=
  (db.deadlines.filter (fun d => d.triggerEventId = triggerEventId)).map
    GeneratedDeadline.calendarEventId

/-- `_delete_generated_deadlines_for_trigger` -/
def deleteGeneratedDeadlinesForTrigger (db : Db) (triggerEventId : Uuid) : Db :=
  let eventIds := eventIdsOf db triggerEventId
  if eventIds = [] then db
  else
    deleteEvents
      { db with deadlines := db.deadlines.filter (fun d => d.triggerEventId ≠ triggerEventId) }
      eventIds

/-- One pass through the loop of `_generate_deadlines_for_trigger`. -/
def generateDeadline (db : Db) (trigger : TriggerEvent) (matterLabel : String) (createdBy : Uuid)
    (rule : DeadlineRule) (eventId id : Uuid) : Option (GeneratedDeadline × Db) := do
  let computed ← computeDeadlineDate trigger.triggerDate rule.offsetDays rule.offsetType
  let title ← varchar 500 (rule.name++" — "++matterLabel)
  let db ← insertEvent db
    { id := eventId
      matterId := some trigger.matterId
      title := title
      eventType := (EventType.ofValue rule.createsEventType).getD .deadline
      startDatetime := computed
      allDay := true
      createdBy := createdBy }
  let gen : GeneratedDeadline :=
    { id := id
      calendarEventId := eventId
      triggerEventId := trigger.id
      deadlineRuleId := rule.id
      matterId := trigger.matterId
      computedDate := computed }
  let db ← insertDeadline db gen
  some (gen, db)

/-- The ids of the new rows are drawn in order. -/
def generateDeadlines (trigger : TriggerEvent) (matterLabel : String) (createdBy : Uuid) :
    List DeadlineRule → (ℕ → Uuid) → Db → Option (List GeneratedDeadline × Db)
  | [], _, db => some ([], db)
  | rule :: rules, draws, db => do
    let (gen, db) ← generateDeadline db trigger matterLabel createdBy rule (draws 0) (draws 1)
    let (generated, db) ← generateDeadlines trigger matterLabel createdBy rules
      (fun n => draws (n+2)) db
    some (gen :: generated, db)

/-- `_generate_deadlines_for_trigger` -/
def generateDeadlinesForTrigger (db : Db) (trigger : TriggerEvent) (createdBy : Uuid)
    (draws : ℕ → Uuid) : Option (List GeneratedDeadline × Db) :=
  generateDeadlines trigger (getMatterTitle db trigger.matterId) createdBy
    (getRulesForTrigger db trigger.matterId trigger.triggerName) draws db

/-- The UPDATE of one trigger event. -/
def setTrigger (db : Db) (trigger : TriggerEvent) : Db :=
  { db with triggers := Table.alter TriggerEvent.id trigger.id (fun _ => trigger) db.triggers }

def setTriggerEvent (db : Db) (matterId : Uuid) (triggerName : String) (triggerDate : Day)
    (createdBy : Uuid) (notes : Option String) (draws : ℕ → Uuid) :
    Option (TriggerEvent × List GeneratedDeadline × Db) := do
  let triggerName ← varchar 255 triggerName
  let notes ← nullable textColumn notes
  match db.triggers.filter (fun t => t.matterId = matterId ∧ t.triggerName = triggerName) with
  | [] =>
    let trigger : TriggerEvent :=
      { id := draws 0
        matterId := matterId
        triggerName := triggerName
        triggerDate := triggerDate
        notes := notes
        createdBy := some createdBy }
    let db ← insertTrigger db trigger
    let (generated, db) ← generateDeadlinesForTrigger db trigger createdBy (fun n => draws (n+1))
    some (trigger, generated, db)
  | [existing] =>
    let trigger := { existing with triggerDate := triggerDate, notes := notes }
    let db := setTrigger (deleteGeneratedDeadlinesForTrigger db existing.id) trigger
    let (generated, db) ← generateDeadlinesForTrigger db trigger createdBy (fun n => draws (n+1))
    some (trigger, generated, db)
  | _ :: _ :: _ => none

def updateTriggerEvent (db : Db) (trigger : TriggerEvent) (data : TriggerEventUpdate)
    (createdBy : Uuid) (draws : ℕ → Uuid) :
    Option (TriggerEvent × List GeneratedDeadline × Db) := do
  let notes ← nullable textColumn data.notes
  let trigger :=
    { trigger with
      triggerDate := data.triggerDate.getD trigger.triggerDate
      notes := notes.or trigger.notes }
  let db := setTrigger (deleteGeneratedDeadlinesForTrigger db trigger.id) trigger
  let (generated, db) ← generateDeadlinesForTrigger db trigger createdBy draws
  some (trigger, generated, db)

def deleteTriggerEvent (db : Db) (triggerEventId : Uuid) : Db :=
  let db := deleteGeneratedDeadlinesForTrigger db triggerEventId
  match getTriggerEvent db triggerEventId with
  | none => db
  | some trigger =>
    { db with
      triggers := Table.remove TriggerEvent.id trigger.id db.triggers
      deadlines := db.deadlines.filter (fun d => d.triggerEventId ≠ trigger.id) }

/-- `FEDERAL_CIVIL_RULES`: name, trigger event and offset, each in calendar days. -/
def federalCivilRules : List (String × String × ℤ) :=
  [("Answer to Complaint", "complaint_served", 21),
   ("Answer to Complaint (US as defendant)", "complaint_served", 60),
   ("Motion to Dismiss (12(b))", "complaint_served", 21),
   ("Reply to Counterclaim", "counterclaim_served", 21),
   ("Response to Motion", "motion_filed", 14),
   ("Reply in Support of Motion", "response_to_motion_filed", 7),
   ("Initial Disclosures (FRCP 26(a)(1))", "frcp_26f_conference", 14),
   ("Discovery Cutoff", "trial_date", -30),
   ("Expert Reports Due", "trial_date", -90),
   ("Rebuttal Expert Reports", "trial_date", -60),
   ("Dispositive Motion Deadline", "trial_date", -60),
   ("Pretrial Conference", "trial_date", -14),
   ("Proposed Jury Instructions", "trial_date", -7),
   ("Notice of Appeal", "judgment_entered", 30),
   ("Motion for New Trial (FRCP 59)", "judgment_entered", 28),
   ("Motion to Alter Judgment (FRCP 59(e))", "judgment_entered", 28)]

/-- The rules of `FEDERAL_CIVIL_RULES` from place `idx` on. -/
def seedRules (ruleSetId : Uuid) : List (String × String × ℤ) → ℕ → (ℕ → Uuid) → Db → Option Db
  | [], _, _, db => some db
  | (name, triggerEvent, offsetDays) :: rest, idx, draws, db => do
    let db ← insertRule db
      { id := draws idx
        ruleSetId := ruleSetId
        name := name
        triggerEvent := triggerEvent
        offsetDays := offsetDays
        sortOrder := idx }
    seedRules ruleSetId rest (idx+1) draws db

def seedFederalRules (db : Db) (draws : ℕ → Uuid) : Option (CourtRuleSet × Db) :=
  match db.ruleSets.filter (fun s =>
    s.name = "Federal Rules of Civil Procedure" ∧ s.jurisdiction = "Federal") with
  | [] => do
    let ruleSet : CourtRuleSet :=
      { id := draws 0
        name := "Federal Rules of Civil Procedure"
        jurisdiction := "Federal"
        courtType := some "District" }
    let db ← insertRuleSet db ruleSet
    let db ← seedRules ruleSet.id federalCivilRules 0 (fun n => draws (n+1)) db
    some (ruleSet, db)
  | [existing] => some (existing, db)
  | _ :: _ :: _ => none

/-- The routes that write. -/
inductive Call where
  | createRuleSet (data : CourtRuleSetCreate)
  | seedFederal
  | addDeadlineRule (ruleSetId : Uuid) (data : DeadlineRuleCreate)
  | updateDeadlineRule (ruleId : Uuid) (data : DeadlineRuleUpdate)
  | deleteDeadlineRule (ruleId : Uuid)
  | applyRules (matterId ruleSetId : Uuid)
  | createTrigger (matterId : Uuid) (data : TriggerEventCreate)
  | updateTrigger (triggerId : Uuid) (data : TriggerEventUpdate)
  | deleteTrigger (triggerId : Uuid)

structure Request where
  call : Call
  currentUser : Uuid
  /-- What `uuid4()` returns, one call after the other -/
  draws : ℕ → Uuid

def orInternal {α : Type} : Option α → Except HttpError α
  | some result => .ok result
  | none => .error .internal

/-- What a route generates, and the tables it commits. -/
def respond (db : Db) (r : Request) : Except HttpError (List GeneratedDeadline × Db) :=
  match r.call with
  | .createRuleSet data =>
    orInternal ((createRuleSet db (r.draws 0) data).map (fun result => ([], result.2)))
  | .seedFederal => orInternal ((seedFederalRules db r.draws).map (fun result => ([], result.2)))
  | .addDeadlineRule ruleSetId data =>
    match getRuleSet db ruleSetId with
    | none => .error ⟨404, "Rule set not found"⟩
    | some _ =>
      orInternal ((createDeadlineRule db (r.draws 0) ruleSetId data).map
        (fun result => ([], result.2)))
  | .updateDeadlineRule ruleId data =>
    match getDeadlineRule db ruleId with
    | none => .error ⟨404, "Deadline rule not found"⟩
    | some rule => orInternal ((updateDeadlineRule db rule data).map (fun result => ([], result.2)))
  | .deleteDeadlineRule ruleId =>
    match getDeadlineRule db ruleId with
    | none => .error ⟨404, "Deadline rule not found"⟩
    | some rule => .ok ([], deleteDeadlineRule db rule)
  | .applyRules matterId ruleSetId =>
    orInternal ((applyRuleSetToMatter db (r.draws 0) matterId ruleSetId r.currentUser).map
      (fun result => ([], result.2)))
  | .createTrigger matterId data =>
    orInternal ((setTriggerEvent db matterId data.triggerName.text data.triggerDate r.currentUser
      data.notes r.draws).map Prod.snd)
  | .updateTrigger triggerId data =>
    match getTriggerEvent db triggerId with
    | none => .error ⟨404, "Trigger event not found"⟩
    | some trigger =>
      orInternal ((updateTriggerEvent db trigger data r.currentUser r.draws).map Prod.snd)
  | .deleteTrigger triggerId =>
    match getTriggerEvent db triggerId with
    | none => .error ⟨404, "Trigger event not found"⟩
    | some _ => .ok ([], deleteTriggerEvent db triggerId)

/-- The tables, and the ids of the calendar events that were generated so far. -/
structure State where
  db : Db
  created : List Uuid

/-- One request. What raises is rolled back. -/
def serve (s : State) (r : Request) : State :=
  match respond s.db r with
  | .ok (generated, db) => ⟨db, s.created++generated.map GeneratedDeadline.calendarEventId⟩
  | .error _ => s

def step : State → Request → Option State :=
  total serve

end LegalForge.Deadlines
