import LegalForge.DoubleQuotients
import LegalForge.TransitionRun

/-! The timer of the billing page. Its state is kept in the local storage of the browser, which a
tab reads when it is loaded and writes whenever it sets the state. -/
namespace LegalForge.Timer
open Transition

/-- What `Date.now()` shows: milliseconds of a clock that is past 1970, with a year of four digits. -/
structure Moment where
  ms : ℤ
  pos : 0 < ms
  lt : ms < 253402300800000
  deriving DecidableEq

structure TimerState where
  isRunning : Bool := false
  matterId : Option String := none
  description : String := ""
  startedAt : Option ℤ := none
  /-- In seconds. -/
  elapsed : ℤ := 0
  deriving DecidableEq

/-- `Math.floor((Date.now() - startedAt) / 1000)` -/
def secondsSince (startedAt : ℤ) (now : Moment) : ℤ :=
  ⌊Double.div ((now.ms-startedAt : ℤ) : ℚ) (1000 : ℕ)⌋

/-- `state.startedAt` as a condition: neither null nor zero. -/
def TimerState.startTime (s : TimerState) : Option ℤ :=
  s.startedAt.filter fun ms => ms ≠ 0

namespace TimerState

def start (matterId description : String) (now : Moment) : TimerState where
  isRunning := true
  matterId := some matterId
  description := description
  startedAt := some now.ms
  elapsed := 0

/-- The result of `stop`, which leaves everything but `isRunning` as it is. -/
def stopElapsed (s : TimerState) (now : Moment) : ℤ :=
  match s.startTime with
  | some startedAt => secondsSince startedAt now
  | none => s.elapsed

/-- What `tick` sets, nothing where it does not. -/
def tick (s : TimerState) (now : Moment) : Option TimerState :=
  match s.isRunning, s.startTime with
  | true, some startedAt => some { s with elapsed := secondsSince startedAt now }
  | _, _ => none

end TimerState

/-- The time entry that the page creates. -/
structure TimeEntryCreate where
  matterId : String
  /-- The day, counted from the epoch, of `new Date().toISOString()`. -/
  date : ℤ
  durationMinutes : ℤ
  description : String
  billable : Bool := true
  rateCents : ℤ := 25000
  deriving DecidableEq

/-- `Math.max(1, Math.ceil(result.elapsed / 60))` -/
def durationMinutes (elapsed : ℤ) : ℤ :=
  max 1 ⌈Double.div (elapsed : ℚ) (60 : ℕ)⌉

/-- `handleStop`, up to the entry: none without a matter. -/
def stoppedEntry (s : TimerState) (now : Moment) : Option TimeEntryCreate :=
  (s.matterId.filter fun id => id ≠ "").map fun matterId =>
    { matterId := matterId
      date := now.ms/86400000
      durationMinutes := durationMinutes (s.stopElapsed now)
      description := s.description }

/-- The tabs, the storage that they share, and the entries that they have created. -/
structure Browser (Tab : Type*) where
  tabs : Tab → TimerState := fun _ => {}
  storage : Option TimerState := none
  created : List TimeEntryCreate := []

inductive Action where
  /-- The page is opened or loaded again. -/
  | load
  | start (matterId description : String)
  | tick
  | stop

structure Event (Tab : Type*) where
  tab : Tab
  now : Moment
  action : Action

variable {Tab : Type*} [DecidableEq Tab]

/-- `set` writes the state of the tab through to the storage. -/
def Browser.set (b : Browser Tab) (tab : Tab) (s : TimerState) : Browser Tab :=
  { b with tabs := Function.update b.tabs tab s, storage := some s }

@[simp] theorem Browser.tabs_set (b : Browser Tab) (tab : Tab) (s : TimerState) :
    (b.set tab s).tabs tab = s :=
  Function.update_self ..

theorem Browser.stored_set (b : Browser Tab) (tab : Tab) (s : TimerState) :
    (b.set tab s).storage.getD {} = (b.set tab s).tabs tab := by
  rw [tabs_set]
  rfl

/-- One event in one tab. The buttons of the page are those of its own state. -/
def browserStep (b : Browser Tab) (event : Event Tab) : Option (Browser Tab) :=
  let s := b.tabs event.tab
  match event.action with
  | .load => some { b with tabs := Function.update b.tabs event.tab (b.storage.getD {}) }
  | .start matterId description =>
    if s.isRunning = false ∧ matterId ≠ "" then
      some (b.set event.tab (TimerState.start matterId description event.now))
    else none
  | .tick =>
    if s.isRunning then
      match s.tick event.now with
      | none => some b
      | some s' => some (b.set event.tab s')
    else none
  | .stop =>
    if s.isRunning then
      some { b.set event.tab {} with created := b.created++(stoppedEntry s event.now).toList }
    else none

/-! What the timer is for. -/

/-- The entry for the time between two moments: whole seconds, and minutes begun. -/
def entryBetween (matterId description : String) (started stopped : Moment) : TimeEntryCreate where
  matterId := matterId
  date := stopped.ms/86400000
  durationMinutes := max 1 (-(-((stopped.ms-started.ms)/1000)/60))
  description := description

/-- A stopwatch with the entries it has given. -/
structure Stopwatch where
  running : Option (String × String × Moment) := none
  created : List TimeEntryCreate := []

def stopwatchStep (w : Stopwatch) (event : Event Tab) : Option Stopwatch :=
  match event.action, w.running with
  | .load, _ => some w
  | .tick, some _ => some w
  | .start matterId description, none =>
    if matterId ≠ "" then some { w with running := some (matterId, description, event.now) } else none
  | .stop, some (matterId, description, started) =>
    some ⟨none, w.created++[entryBetween matterId description started event.now]⟩
  | _, _ => none

/-! Exact times. -/

theorem secondsSince_eq (started now : Moment) :
    secondsSince started.ms now = (now.ms-started.ms)/1000 := by
  have hlow := started.pos
  have hhigh := now.lt
  have hlow' := now.pos
  have hhigh' := started.lt
  have hsmall : |(((now.ms-started.ms : ℤ) : ℚ))/(1000 : ℕ)| < 2^(38:ℤ) := by
    have hint : |now.ms-started.ms| < 253402300800000 := abs_lt.mpr ⟨by omega, by omega⟩
    have hcast : |((now.ms-started.ms : ℤ) : ℚ)| < 253402300800000 := by exact_mod_cast hint
    rw [abs_div, Nat.abs_cast, div_lt_iff₀ (by norm_num)]
    refine hcast.trans ?_
    norm_num
  exact Double.floor_div_natCast (by norm_num) hsmall (by norm_num)

theorem durationMinutes_eq {elapsed : ℤ} (h : |elapsed| < 2^38) :
    durationMinutes elapsed = max 1 (-(-elapsed/60)) := by
  have hsmall : |(elapsed:ℚ)/(60 : ℕ)| < 2^(38:ℤ) := by
    have hcast : |(elapsed:ℚ)| < 2^38 := by exact_mod_cast h
    rw [abs_div, Nat.abs_cast, div_lt_iff₀ (by norm_num)]
    refine hcast.trans ?_
    norm_num
  have hceil : ⌈Double.div (elapsed : ℚ) (60 : ℕ)⌉ = -(-elapsed/(60 : ℕ)) :=
    Double.ceil_div_natCast (by norm_num) hsmall (by norm_num)
  rw [durationMinutes, hceil]
  rfl

/-- The timer runs for a matter since the given moment. -/
structure TimerState.Runs (s : TimerState) (matterId description : String) (started : Moment) :
    Prop where
  isRunning : s.isRunning = true
  matter : s.matterId = some matterId
  matter_ne : matterId ≠ ""
  description : s.description = description
  startedAt : s.startedAt = some started.ms

section
variable {s : TimerState} {matterId description : String} {started now : Moment}

theorem TimerState.Runs.startTime (h : s.Runs matterId description started) :
    s.startTime = some started.ms := by
  have hpos := started.pos
  rw [TimerState.startTime, h.startedAt, Option.filter_some]
  exact if_pos (decide_eq_true (by omega))

/-- A running timer gives the entry for its time. -/
theorem TimerState.Runs.stoppedEntry (h : s.Runs matterId description started) :
    stoppedEntry s now = some (entryBetween matterId description started now) := by
  have helapsed : s.stopElapsed now = (now.ms-started.ms)/1000 := by
    rw [TimerState.stopElapsed, h.startTime]
    exact secondsSince_eq started now
  have hsmall : |(now.ms-started.ms)/1000| < 2^38 := by
    have hlow := started.pos
    have hhigh := now.lt
    have hlow' := now.pos
    have hhigh' := started.lt
    rw [abs_lt]
    constructor
    · omega
    · omega
  have hmatter : s.matterId.filter (fun id => id ≠ "") = some matterId := by
    rw [h.matter, Option.filter_some]
    exact if_pos (decide_eq_true h.matter_ne)
  rw [Timer.stoppedEntry, hmatter, Option.map_some, helapsed, durationMinutes_eq hsmall, h.description]
  rfl

theorem TimerState.Runs.tick (h : s.Runs matterId description started) (now : Moment) :
    ∃ s', s.tick now = some s' ∧ s'.Runs matterId description started := by
  refine ⟨{ s with elapsed := secondsSince started.ms now }, ?_, ?_⟩
  · rw [TimerState.tick, h.isRunning, h.startTime]
  · exact ⟨h.isRunning, h.matter, h.matter_ne, h.description, h.startedAt⟩

theorem runs_start (hmatter : matterId ≠ "") :
    (TimerState.start matterId description now).Runs matterId description now :=
  ⟨rfl, rfl, hmatter, rfl, rfl⟩

end

/-- If the timer runs, one of the events has started it. -/
def StartedIn (events : List (Event Tab)) (s : TimerState) : Prop :=
  s.isRunning = true → ∃ tab started matterId description,
    (⟨tab, started, .start matterId description⟩ : Event Tab) ∈ events ∧
      s.Runs matterId description started

/-- The entry is that of a stop among the events, for the time since a start before it. -/
def Recorded (events : List (Event Tab)) (entry : TimeEntryCreate) : Prop :=
  ∃ before tab stopped after tab' started matterId description,
    events = before++⟨tab, stopped, .stop⟩ :: after ∧
      (⟨tab', started, .start matterId description⟩ : Event Tab) ∈ before ∧
      entry = entryBetween matterId description started stopped

def Event.isStop (event : Event Tab) : Bool :=
  match event.action with
  | .stop => true
  | _ => false

/-- What the tabs and the storage hold goes back to the events. -/
structure History (events : List (Event Tab)) (b : Browser Tab) : Prop where
  tabs : ∀ tab, StartedIn events (b.tabs tab)
  storage : ∀ s, b.storage = some s → StartedIn events s
  created : ∀ entry ∈ b.created, Recorded events entry
  length : b.created.length = (events.filter Event.isStop).length

section
variable {events : List (Event Tab)} {event : Event Tab} {b b' : Browser Tab} {s : TimerState}

omit [DecidableEq Tab] in
theorem startedIn_default (events : List (Event Tab)) : StartedIn events {} :=
  fun h => absurd h Bool.false_ne_true

omit [DecidableEq Tab] in
theorem StartedIn.append (h : StartedIn events s) (event : Event Tab) :
    StartedIn (events++[event]) s := by
  intro hrunning
  obtain ⟨tab, started, matterId, description, hstart, hruns⟩ := h hrunning
  exact ⟨tab, started, matterId, description, List.mem_append_left _ hstart, hruns⟩

omit [DecidableEq Tab] in
theorem Recorded.append {entry : TimeEntryCreate} (h : Recorded events entry) (event : Event Tab) :
    Recorded (events++[event]) entry := by
  obtain ⟨before, tab, stopped, after, tab', started, matterId, description, rfl, hstart, hentry⟩ := h
  exact ⟨before, tab, stopped, after++[event], tab', started, matterId, description,
    by rw [List.append_assoc, List.cons_append], hstart, hentry⟩

theorem startedIn_update {tabs : Tab → TimerState} (htabs : ∀ tab, StartedIn events (tabs tab))
    (hs : StartedIn events s) (tab : Tab) :
    ∀ tab', StartedIn events (Function.update tabs tab s tab') := by
  intro tab'
  by_cases htab : tab' = tab
  · rw [htab, Function.update_self]
    exact hs
  · rw [Function.update_of_ne htab]
    exact htabs tab'

omit [DecidableEq Tab] in
theorem filter_isStop_of_not (h : event.isStop = false) :
    ((events++[event]).filter Event.isStop).length = (events.filter Event.isStop).length := by
  rw [List.filter_append, List.filter_cons_of_neg (by simp [h]), List.filter_nil, List.append_nil]

/-- A state that a tab sets is in the tab and in the storage. -/
theorem History.set (h : History events b) (hstop : event.isStop = false)
    (hs : StartedIn (events++[event]) s) : History (events++[event]) (b.set event.tab s) where
  tabs := startedIn_update (fun tab => (h.tabs tab).append event) hs event.tab
  storage s' hs' := Option.some.inj hs' ▸ hs
  created entry hentry := (h.created entry hentry).append event
  length := by
    rw [filter_isStop_of_not hstop]
    exact h.length

theorem History.step (h : History events b) (hstep : browserStep b event = some b') :
    History (events++[event]) b' := by
  obtain ⟨tab, now, action⟩ := event
  cases action with
  | load =>
    obtain rfl := Option.some.inj hstep
    -- a tab takes up what another one has left in the storage
    have hloaded : StartedIn events (b.storage.getD {}) := by
      cases hstored : b.storage with
      | none => exact startedIn_default events
      | some stored => exact h.storage stored hstored
    refine ⟨startedIn_update (fun tab' => (h.tabs tab').append _) (hloaded.append _) tab,
      fun s hs => (h.storage s hs).append _, fun entry hentry => (h.created entry hentry).append _, ?_⟩
    rw [filter_isStop_of_not rfl]
    exact h.length
  | start matterId description =>
    obtain ⟨⟨-, hmatter⟩, hset⟩ := Option.ite_none_right_eq_some.mp hstep
    obtain rfl := Option.some.inj hset
    refine h.set rfl fun _ => ⟨tab, now, matterId, description, ?_, runs_start hmatter⟩
    exact List.mem_append_right _ (List.mem_singleton_self _)
  | tick =>
    obtain ⟨hrunning, hset⟩ := Option.ite_none_right_eq_some.mp hstep
    obtain ⟨tab', started, matterId, description, hstart, hruns⟩ := h.tabs tab hrunning
    obtain ⟨s', hs', hruns'⟩ := hruns.tick now
    rw [hs'] at hset
    obtain rfl := Option.some.inj hset
    exact h.set rfl fun _ =>
      ⟨tab', started, matterId, description, List.mem_append_left _ hstart, hruns'⟩
  | stop =>
    obtain ⟨hrunning, hset⟩ := Option.ite_none_right_eq_some.mp hstep
    obtain rfl := Option.some.inj hset
    obtain ⟨tab', started, matterId, description, hstart, hruns⟩ := h.tabs tab hrunning
    have hentry : stoppedEntry (b.tabs tab) now = some (entryBetween matterId description started now) :=
      hruns.stoppedEntry
    -- the timer is cleared here and in the storage, and one entry is added
    refine ⟨?_, ?_, ?_, ?_⟩
    · exact startedIn_update (fun tab' => (h.tabs tab').append _) (startedIn_default _) tab
    · exact fun s hs => Option.some.inj hs ▸ startedIn_default _
    · intro entry hmem
      rw [hentry, Option.toList_some] at hmem
      rcases List.mem_append.mp hmem with hold | hnew
      · exact (h.created entry hold).append _
      · exact ⟨events, tab, now, [], tab', started, matterId, description, rfl, hstart,
          List.mem_singleton.mp hnew⟩
    · have hone : ((events++[(⟨tab, now, .stop⟩ : Event Tab)]).filter Event.isStop).length =
          (events.filter Event.isStop).length+1 := by
        rw [List.filter_append, List.length_append]
        rfl
      show (b.created++(stoppedEntry (b.tabs tab) now).toList).length = _
      rw [hone, hentry, List.length_append, h.length]
      rfl

theorem history_exec (hrun : exec browserStep ({} : Browser Tab) events = some b) :
    History events b := by
  induction events using List.reverseRecOn generalizing b with
  | nil =>
    obtain rfl := Option.some.inj hrun
    exact ⟨fun _ => startedIn_default [], fun s hs => (Option.some_ne_none s hs.symm).elim,
      fun entry hentry => absurd hentry List.not_mem_nil, rfl⟩
  | append_singleton events event ih =>
    obtain ⟨b₀, hbefore, hstep⟩ := exec_concat_eq_some.mp hrun
    exact (ih hbefore).step hstep

end

/-! One tab is a stopwatch. -/

/-- The tab is in step with the stopwatch, and the storage with the tab. -/
structure InStep (tab : Tab) (b : Browser Tab) (w : Stopwatch) : Prop where
  stored : b.storage.getD {} = b.tabs tab
  created : b.created = w.created
  running : ∀ matterId description started, w.running = some (matterId, description, started) →
    (b.tabs tab).Runs matterId description started
  stopped : w.running = none → (b.tabs tab).isRunning = false

theorem InStep.step {tab : Tab} {b b' : Browser Tab} {w : Stopwatch} (h : InStep tab b w)
    {event : Event Tab} (htab : event.tab = tab) (hstep : browserStep b event = some b') :
    ∃ w', stopwatchStep w event = some w' ∧ InStep tab b' w' := by
  obtain ⟨tab', now, action⟩ := event
  obtain rfl : tab' = tab := htab
  -- the tab counts only while the stopwatch runs
  have hrunning : (b.tabs tab').isRunning = true → ∃ matterId description started,
      w.running = some (matterId, description, started) ∧
        (b.tabs tab').Runs matterId description started := by
    intro hruns
    cases hw : w.running with
    | none => exact absurd (hruns.symm.trans (h.stopped hw)) Bool.true_eq_false_eq_False
    | some session => exact ⟨session.1, session.2.1, session.2.2, rfl, h.running _ _ _ hw⟩
  cases action with
  | load =>
    obtain rfl := Option.some.inj hstep
    -- with a single tab the storage holds what the tab has
    have hsame : Function.update b.tabs tab' (b.storage.getD {}) = b.tabs := by
      rw [h.stored, Function.update_eq_self]
    refine ⟨w, rfl, ?_⟩
    rw [hsame]
    exact ⟨h.stored, h.created, h.running, h.stopped⟩
  | start matterId description =>
    obtain ⟨⟨hidle, hmatter⟩, hset⟩ := Option.ite_none_right_eq_some.mp hstep
    obtain rfl := Option.some.inj hset
    have hnone : w.running = none := by
      cases hw : w.running with
      | none => rfl
      | some session =>
        have hruns := (h.running _ _ _ hw).isRunning
        exact absurd (hruns.symm.trans hidle) Bool.true_eq_false_eq_False
    refine ⟨{ w with running := some (matterId, description, now) }, ?_, ?_⟩
    · simp only [stopwatchStep, hnone, if_pos hmatter]
    · refine ⟨b.stored_set .., h.created, ?_, ?_⟩
      · intro m d started hw
        obtain ⟨rfl, hrest⟩ := Prod.mk.inj (Option.some.inj hw)
        obtain ⟨rfl, rfl⟩ := Prod.mk.inj hrest
        rw [b.tabs_set]
        exact runs_start hmatter
      · intro hw
        exact absurd hw (Option.some_ne_none _)
  | tick =>
    obtain ⟨hruns, hset⟩ := Option.ite_none_right_eq_some.mp hstep
    obtain ⟨matterId, description, started, hw, hsession⟩ := hrunning hruns
    obtain ⟨s', hs', hruns'⟩ := hsession.tick now
    rw [hs'] at hset
    obtain rfl := Option.some.inj hset
    refine ⟨w, ?_, b.stored_set .., h.created, ?_, ?_⟩
    · simp only [stopwatchStep, hw]
    · intro m d t hw'
      rw [hw] at hw'
      obtain ⟨rfl, hrest⟩ := Prod.mk.inj (Option.some.inj hw')
      obtain ⟨rfl, rfl⟩ := Prod.mk.inj hrest
      rw [b.tabs_set]
      exact hruns'
    · intro hnone
      rw [hw] at hnone
      exact absurd hnone (Option.some_ne_none _)
  | stop =>
    obtain ⟨hruns, hset⟩ := Option.ite_none_right_eq_some.mp hstep
    obtain ⟨matterId, description, started, hw, hsession⟩ := hrunning hruns
    obtain rfl := Option.some.inj hset
    refine ⟨⟨none, w.created++[entryBetween matterId description started now]⟩, ?_, ?_⟩
    · simp only [stopwatchStep, hw]
    · refine ⟨b.stored_set tab' {}, ?_, ?_, ?_⟩
      · have hentry : stoppedEntry (b.tabs tab') now =
            some (entryBetween matterId description started now) := hsession.stoppedEntry
        show b.created++(stoppedEntry (b.tabs tab') now).toList = _
        rw [hentry, h.created]
        rfl
      · intro m d t hnone
        exact absurd hnone.symm (Option.some_ne_none _)
      · intro _
        show ((b.set tab' {}).tabs tab').isRunning = false
        rw [b.tabs_set]

theorem inStep_exec {tab : Tab} {events : List (Event Tab)} (htabs : ∀ e ∈ events, e.tab = tab)
    {b b' : Browser Tab} {w : Stopwatch} (h : InStep tab b w)
    (hrun : exec browserStep b events = some b') :
    ∃ w', exec stopwatchStep w events = some w' ∧ InStep tab b' w' := by
  induction events generalizing b w with
  | nil =>
    obtain rfl := Option.some.inj hrun
    exact ⟨w, rfl, h⟩
  | cons event events ih =>
    obtain ⟨b₁, hstep, hrest⟩ := exec_cons_eq_some.mp hrun
    obtain ⟨w₁, hw₁, h₁⟩ := h.step (htabs event List.mem_cons_self) hstep
    obtain ⟨w', hw', h'⟩ := ih (fun e he => htabs e (List.mem_cons_of_mem _ he)) h₁ hrest
    exact ⟨w', exec_cons_eq_some.mpr ⟨w₁, hw₁, hw'⟩, h'⟩

def firstMoment : Moment := ⟨1700000000000, by decide, by decide⟩

/-- 61.5 seconds later. -/
def lastMoment : Moment := ⟨1700000061500, by decide, by decide⟩

/-- The page is loaded again while the timer runs. -/
def reloadedEvents : List (Event Unit) :=
  [⟨(), firstMoment, .start "4c1f" "Draft motion"⟩, ⟨(), firstMoment, .tick⟩, ⟨(), lastMoment, .load⟩,
    ⟨(), lastMoment, .stop⟩]

end LegalForge.Timer
