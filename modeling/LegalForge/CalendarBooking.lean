import LegalForge.ConflictFree
import LegalForge.Deadlines
import LegalForge.UnitOfWork

/-! Calendar events, and the check that nobody is booked twice. -/
namespace LegalForge.Calendar
open Auth UnitOfWork Transition
open Deadlines (EventType BoundedText textColumn intColumn nullable assign assignNullable
  boundedVarchar)

inductive EventStatus where
  | scheduled
  | completed
  | cancelled
  deriving DecidableEq

structure CalendarEvent where
  id : Uuid
  matterId : Option Uuid := none
  title : String
  description : Option String := none
  eventType : EventType := .meeting
  startDatetime : Instant
  endDatetime : Option Instant := none
  allDay : Bool := false
  location : Option String := none
  assignedTo : Option Uuid := none
  reminderMinutes : Option ℤ := none
  status : EventStatus := .scheduled
  createdBy : Uuid
  deriving DecidableEq

structure CalendarDb where
  /-- The ids of the users -/
  users : List Uuid
  /-- The ids of the matters -/
  matters : List Uuid
  events : List CalendarEvent

structure CalendarEventCreate where
  matterId : Option Uuid := none
  title : BoundedText 1 500
  description : Option String := none
  eventType : EventType := .meeting
  startDatetime : Instant
  endDatetime : Option Instant := none
  allDay : Bool := false
  location : Option (BoundedText 0 500) := none
  assignedTo : Option Uuid := none
  reminderMinutes : Option ℤ := none
  status : EventStatus := .scheduled

/-- The fields a request sets, each to a value or to null. -/
structure CalendarEventUpdate where
  title : Option (Option (BoundedText 1 500)) := none
  description : Option (Option String) := none
  eventType : Option (Option EventType) := none
  startDatetime : Option (Option Instant) := none
  endDatetime : Option (Option Instant) := none
  allDay : Option (Option Bool) := none
  location : Option (Option (BoundedText 0 500)) := none
  assignedTo : Option (Option Uuid) := none
  reminderMinutes : Option (Option ℤ) := none
  status : Option (Option EventStatus) := none

def getEvent (db : CalendarDb) (eventId : Uuid) : Option CalendarEvent :=
  Table.find CalendarEvent.id eventId db.events

/-- A scheduled event of the user that overlaps with the time from `start` to `finish`. -/
def conflictsWith (assignedTo : Uuid) (start finish : Instant) (e : CalendarEvent) : Bool :=
  e.assignedTo = some assignedTo && e.status = .scheduled && e.startDatetime < finish &&
    e.endDatetime.any (fun t => start < t)

def checkConflicts (db : CalendarDb) (assignedTo : Uuid) (start : Instant)
    (finish : Option Instant) (excludeId : Option Uuid) : List CalendarEvent :=
  match finish with
  | none => []
  | some finish =>
    db.events.filter fun e => conflictsWith assignedTo start finish e && excludeId ≠ some e.id

/-- The rows an event refers to are there. -/
def validReferences (db : CalendarDb) (e : CalendarEvent) : Bool :=
  e.matterId.all (fun id => id ∈ db.matters) && e.assignedTo.all (fun id => id ∈ db.users) &&
    e.createdBy ∈ db.users

def createEvent (db : CalendarDb) (eventId : Uuid) (data : CalendarEventCreate) (createdBy : Uuid) :
    Option (CalendarEvent × CalendarDb) := do
  let title ← boundedVarchar data.title
  let description ← nullable textColumn data.description
  let location ← nullable boundedVarchar data.location
  let reminderMinutes ← nullable intColumn data.reminderMinutes
  let event : CalendarEvent :=
    { id := eventId
      matterId := data.matterId
      title := title
      description := description
      eventType := data.eventType
      startDatetime := data.startDatetime
      endDatetime := data.endDatetime
      allDay := data.allDay
      location := location
      assignedTo := data.assignedTo
      reminderMinutes := reminderMinutes
      status := data.status
      createdBy := createdBy }
  let events ← Table.insert CalendarEvent.id event db.events
  if validReferences db event then some (event, { db with events := events }) else none

/-- `setattr` for every field that the request sets. -/
def changedEvent (event : CalendarEvent) (data : CalendarEventUpdate) : Option CalendarEvent := do
  let title ← assign boundedVarchar event.title data.title
  let description ← assignNullable textColumn event.description data.description
  let eventType ← assign some event.eventType data.eventType
  let startDatetime ← assign some event.startDatetime data.startDatetime
  let endDatetime ← assignNullable some event.endDatetime data.endDatetime
  let allDay ← assign some event.allDay data.allDay
  let location ← assignNullable boundedVarchar event.location data.location
  let assignedTo ← assignNullable some event.assignedTo data.assignedTo
  let reminderMinutes ← assignNullable intColumn event.reminderMinutes data.reminderMinutes
  let status ← assign some event.status data.status
  some { event with
    title := title
    description := description
    eventType := eventType
    startDatetime := startDatetime
    endDatetime := endDatetime
    allDay := allDay
    location := location
    assignedTo := assignedTo
    reminderMinutes := reminderMinutes
    status := status }

def updateEvent (db : CalendarDb) (event : CalendarEvent) (data : CalendarEventUpdate) :
    Option (CalendarEvent × CalendarDb) := do
  let updated ← changedEvent event data
  if validReferences db updated then
    some (updated, { db with
      events := Table.alter CalendarEvent.id updated.id (fun _ => updated) db.events })
  else none

def deleteEvent (db : CalendarDb) (event : CalendarEvent) : CalendarDb :=
  { db with events := Table.remove CalendarEvent.id event.id db.events }

def eventNotFound : HttpError := ⟨404, "Event not found"⟩

def scheduleConflict (conflicts : List CalendarEvent) : HttpError :=
  ⟨409, "Schedule conflict with "++toString conflicts.length++" existing event(s)"⟩

/-- The check is made for an assignee and an end only. -/
def conflictsFor (db : CalendarDb) (assignedTo : Option Uuid) (start : Instant)
    (finish : Option Instant) (excludeId : Option Uuid) : List CalendarEvent :=
  match assignedTo with
  | none => []
  | some assignedTo => checkConflicts db assignedTo start finish excludeId

inductive CalendarCall where
  | create (eventId : Uuid) (data : CalendarEventCreate) (currentUser : Uuid)
  | update (eventId : Uuid) (data : CalendarEventUpdate)
  | delete (eventId : Uuid)

/-- `data.field or event.field` -/
def given {α : Type} (value : Option (Option α)) (current : Option α) : Option α :=
  value.join.or current

/-- The end of a request: a flush that raises, or the entry for the audit log. -/
def finishRequest (db : CalendarDb) (audited : Bool) :
    Option (CalendarEvent × CalendarDb) → Except HttpError (Option CalendarEvent) × CalendarDb
  | none => (.error .internal, db)
  | some (event, db') => if audited then (.ok (some event), db') else (.error .internal, db')

/-- The routes that write. `audited` tells whether `create_audit_log` returns. -/
def calendarHandle (r : CalendarCall × Bool) : Handler CalendarDb HttpError (Option CalendarEvent) :=
  fun db =>
  match r.1 with
  | .create eventId data currentUser =>
    let conflicts := conflictsFor db data.assignedTo data.startDatetime data.endDatetime none
    if conflicts ≠ [] then (.error (scheduleConflict conflicts), db)
    else finishRequest db r.2 (createEvent db eventId data currentUser)
  | .update eventId data =>
    match getEvent db eventId with
    | none => (.error eventNotFound, db)
    | some event =>
      let assigned := given data.assignedTo event.assignedTo
      let start := (given data.startDatetime (some event.startDatetime)).getD event.startDatetime
      let finish := given data.endDatetime event.endDatetime
      let conflicts := conflictsFor db assigned start finish (some eventId)
      if conflicts ≠ [] then (.error (scheduleConflict conflicts), db)
      else finishRequest db r.2 (updateEvent db event data)
  | .delete eventId =>
    match getEvent db eventId with
    | none => (.error eventNotFound, db)
    | some event =>
      if r.2 then (.ok none, deleteEvent db event) else (.error .internal, deleteEvent db event)

/-- Both are scheduled for the same user, and their times overlap. -/
def Clash (e f : CalendarEvent) : Prop :=
  (e.status = .scheduled ∧ f.status = .scheduled) ∧
    (∃ userId, e.assignedTo = some userId ∧ f.assignedTo = some userId) ∧
    ∃ end₁ end₂, e.endDatetime = some end₁ ∧ f.endDatetime = some end₂ ∧
      e.startDatetime < end₂ ∧ f.startDatetime < end₁

def NoDoubleBooking (db : CalendarDb) : Prop :=
  Table.ConflictFree CalendarEvent.id Clash db.events

instance : Std.Symm Clash where
  symm := by
    rintro e f ⟨⟨he, hf⟩, ⟨userId, heu, hfu⟩, end₁, end₂, hend₁, hend₂, hstart, hfinish⟩
    exact ⟨⟨hf, he⟩, ⟨userId, hfu, heu⟩, end₂, end₁, hend₂, hend₁, hfinish, hstart⟩

section
variable {db db' : CalendarDb} {event updated : CalendarEvent}

theorem Clash.conflictsWith {e f : CalendarEvent} (h : Clash e f) :
    ∃ userId finish, e.assignedTo = some userId ∧ e.endDatetime = some finish ∧
      Calendar.conflictsWith userId e.startDatetime finish f = true := by
  obtain ⟨⟨-, hf⟩, ⟨userId, heu, hfu⟩, end₁, end₂, hend₁, hend₂, hstart, hfinish⟩ := h
  refine ⟨userId, end₁, heu, hend₁, ?_⟩
  simp [Calendar.conflictsWith, hfu, hf, hend₂, hstart, hfinish]

/-- An event that the check lets pass clashes with no other one. -/
theorem not_clash_of_conflictsFor {excludeId : Option Uuid}
    (h : conflictsFor db event.assignedTo event.startDatetime event.endDatetime excludeId = [])
    {other : CalendarEvent} (hother : other ∈ db.events) (hne : excludeId ≠ some other.id) :
    ¬Clash event other := by
  intro hclash
  obtain ⟨userId, finish, huser, hfinish, hconflict⟩ := hclash.conflictsWith
  rw [huser, hfinish] at h
  have hnone := List.filter_eq_nil_iff.mp h other hother
  rw [hconflict, Bool.true_and, decide_eq_true_iff] at hnone
  exact hnone hne

theorem finishRequest_eq_ok {audited : Bool} {result : Option (CalendarEvent × CalendarDb)}
    {response : Option CalendarEvent} (h : finishRequest db audited result = (.ok response, db')) :
    ∃ event, result = some (event, db') := by
  cases result with
  | none => cases h
  | some result =>
    obtain ⟨event, db₁⟩ := result
    simp only [finishRequest] at h
    split_ifs at h
    · obtain ⟨-, rfl⟩ := Prod.mk.inj h
      exact ⟨event, rfl⟩
    · cases h

theorem createEvent_spec {eventId createdBy : Uuid} {data : CalendarEventCreate}
    (h : createEvent db eventId data createdBy = some (event, db')) :
    (event.assignedTo = data.assignedTo ∧ event.startDatetime = data.startDatetime ∧
        event.endDatetime = data.endDatetime) ∧
      (∀ e ∈ db.events, e.id ≠ event.id) ∧ db'.events = db.events++[event] := by
  unfold createEvent at h
  simp only [Option.bind_eq_bind, Option.bind_eq_some_iff] at h
  obtain ⟨_, -, _, -, _, -, _, -, events, hinsert, h⟩ := h
  split_ifs at h
  obtain ⟨rfl, rfl⟩ := Prod.mk.inj (Option.some.inj h)
  obtain ⟨hfresh, rfl⟩ := Table.insert_eq_some_iff.mp hinsert
  exact ⟨⟨rfl, rfl, rfl⟩, hfresh, rfl⟩

theorem given_of_assignNullable {α : Type} {current value : Option α} {field : Option (Option α)}
    {a : α} (h : assignNullable some current field = some value) (hvalue : value = some a) :
    given field current = some a := by
  rcases field with _ | _ | b
  · obtain rfl := Option.some.inj h
    exact hvalue
  · cases Option.some.inj h
    cases hvalue
  · obtain rfl := Option.some.inj h
    exact hvalue

theorem given_of_assign {α : Type} {current value : α} {field : Option (Option α)}
    (h : assign some current field = some value) :
    (given field (some current)).getD current = value := by
  rcases field with _ | _ | b
  · exact Option.some.inj h
  · cases h
  · exact Option.some.inj h

theorem changedEvent_spec {data : CalendarEventUpdate} (h : changedEvent event data = some updated) :
    updated.id = event.id ∧
      assign some event.startDatetime data.startDatetime = some updated.startDatetime ∧
      assignNullable some event.endDatetime data.endDatetime = some updated.endDatetime ∧
      assignNullable some event.assignedTo data.assignedTo = some updated.assignedTo := by
  unfold changedEvent at h
  simp only [Option.bind_eq_bind, Option.bind_eq_some_iff] at h
  obtain ⟨_, -, _, -, _, -, start, hstart, finish, hfinish, _, -, _, -, assigned, hassigned, _, -, _,
    -, h⟩ := h
  obtain rfl := Option.some.inj h
  exact ⟨rfl, hstart, hfinish, hassigned⟩

/-- The values the check is made for are those of the changed row, if it is one that counts. -/
theorem not_clash_of_changedEvent {data : CalendarEventUpdate}
    (hchanged : changedEvent event data = some updated)
    (hcheck : conflictsFor db (given data.assignedTo event.assignedTo)
      ((given data.startDatetime (some event.startDatetime)).getD event.startDatetime)
      (given data.endDatetime event.endDatetime) (some event.id) = [])
    {other : CalendarEvent} (hother : other ∈ db.events) (hne : other.id ≠ updated.id) :
    ¬Clash updated other := by
  intro hclash
  obtain ⟨hid, hstart, hfinish, hassigned⟩ := changedEvent_spec hchanged
  obtain ⟨userId, finish, huser, hend, -⟩ := hclash.conflictsWith
  rw [given_of_assignNullable hassigned huser, given_of_assignNullable hfinish hend,
    given_of_assign hstart, ← huser, ← hend] at hcheck
  refine not_clash_of_conflictsFor hcheck hother ?_ hclash
  rw [← hid]
  exact fun heq => hne (Option.some.inj heq).symm

theorem updateEvent_spec {data : CalendarEventUpdate}
    (h : updateEvent db event data = some (updated, db')) : changedEvent event data = some updated ∧
      db'.events = Table.alter CalendarEvent.id updated.id (fun _ => updated) db.events := by
  unfold updateEvent at h
  simp only [Option.bind_eq_bind, Option.bind_eq_some_iff] at h
  obtain ⟨changed, hchanged, h⟩ := h
  split_ifs at h
  obtain ⟨rfl, rfl⟩ := Prod.mk.inj (Option.some.inj h)
  exact ⟨hchanged, rfl⟩

/-- A request that is answered books nobody twice. -/
theorem NoDoubleBooking.step {r : CalendarCall × Bool} {response : Option CalendarEvent}
    (hdb : NoDoubleBooking db) (h : calendarHandle r db = (.ok response, db')) :
    NoDoubleBooking db' := by
  obtain ⟨call, audited⟩ := r
  cases call with
  | create eventId data currentUser =>
    simp only [calendarHandle] at h
    split_ifs at h with hconflicts
    · cases h
    -- nothing clashes with the times of the request, and these are stored
    · obtain ⟨event, hcreate⟩ := finishRequest_eq_ok h
      obtain ⟨⟨hassigned, hstart, hend⟩, hfresh, hevents⟩ := createEvent_spec hcreate
      have hcheck := not_not.mp hconflicts
      rw [← hassigned, ← hstart, ← hend] at hcheck
      unfold NoDoubleBooking
      rw [hevents]
      refine hdb.append_singleton hfresh fun other hother => ?_
      exact not_clash_of_conflictsFor hcheck hother fun heq => by cases heq
  | update eventId data =>
    simp only [calendarHandle] at h
    split at h
    · cases h
    · rename_i event hfind
      obtain rfl : event.id = eventId := Table.key_of_find hfind
      split_ifs at h with hconflicts
      · cases h
      · obtain ⟨updated, hupdate⟩ := finishRequest_eq_ok h
        obtain ⟨hchanged, hevents⟩ := updateEvent_spec hupdate
        unfold NoDoubleBooking
        rw [hevents]
        refine Table.ConflictFree.alter hdb fun other hother hne => ?_
        exact not_clash_of_changedEvent hchanged (not_not.mp hconflicts) hother hne
  | delete eventId =>
    simp only [calendarHandle] at h
    split at h
    · cases h
    · split_ifs at h
      · obtain ⟨-, rfl⟩ := Prod.mk.inj h
        exact hdb.of_subset fun e he => List.mem_of_mem_filter he
      · cases h

end

def noEvents (users matters : List Uuid) : CalendarDb where
  users := users
  matters := matters
  events := []

/-- Whatever requests follow each other, nobody is booked twice. -/
theorem noDoubleBooking_throughout (users matters : List Uuid) (rs : List (CalendarCall × Bool)) :
    Throughout (serve calendarHandle) NoDoubleBooking (noEvents users matters) rs := by
  refine throughout_iff_prefix.mpr fun bs _ t _ hrun => ?_
  have hstart : NoDoubleBooking (noEvents users matters) := Table.ConflictFree.nil
  refine exec_invariant (fun s r t hs hstep => ?_) hstart hrun
  exact serve_invariant (fun _ _ _ _ hdb h => hdb.step h) hs hstep

end LegalForge.Calendar
