import LegalForge.BaseModels
import LegalForge.SlidingWindow

/-! The rate limiter that the login and second-factor routes share. -/
namespace LegalForge.RateLimit
open SlidingWindow

/-- `_windows`, whose times are the seconds of `time.monotonic()`. -/
abbrev Windows := String → Option (List ℚ)

/-- What `_windows[key]` reads: an empty list for a missing key. -/
def timesOf (windows : Windows) (key : String) : List ℚ :=
  (windows key).getD []

/-- The arguments of `check_rate_limit`, and what it reads from the clock. -/
structure Call where
  key : String
  maxRequests : ℕ := 10
  windowSeconds : ℕ := 300
  /-- In `_cleanup_window` -/
  cleanupAt : ℚ
  /-- When the call is recorded -/
  appendAt : ℚ

/-- `_cleanup_window` -/
def cleanupWindow (windows : Windows) (key : String) (windowSeconds : ℕ) (now : ℚ) : Windows :=
  let kept := recent (windowSeconds : ℚ) now (timesOf windows key)
  Function.update windows key (if kept = [] then none else some kept)

def tooManyRequests : HttpError := ⟨429, "Too many requests. Please try again later."⟩

def checkRateLimit (windows : Windows) (call : Call) : Except HttpError Unit × Windows :=
  let windows := cleanupWindow windows call.key call.windowSeconds call.cleanupAt
  let times := timesOf windows call.key
  -- reading a missing key makes an empty entry
  if call.maxRequests ≤ times.length then
    (.error tooManyRequests, Function.update windows call.key (some times))
  else (.ok (), Function.update windows call.key (some (times++[call.appendAt])))

/-- `request.client.host if request.client else "unknown"` -/
def clientIp (host : Option String) : String :=
  host.getD "unknown"

def loginCall (host : Option String) (cleanupAt appendAt : ℚ) : Call where
  key := "login:"++clientIp host
  maxRequests := 10
  windowSeconds := 300
  cleanupAt := cleanupAt
  appendAt := appendAt

def rateLimitLogin (windows : Windows) (host : Option String) (cleanupAt appendAt : ℚ) :
    Except HttpError Unit × Windows :=
  checkRateLimit windows (loginCall host cleanupAt appendAt)

def rateLimit2fa (windows : Windows) (host : Option String) (cleanupAt appendAt : ℚ) :
    Except HttpError Unit × Windows :=
  checkRateLimit windows
    { key := "2fa:"++clientIp host
      maxRequests := 5
      windowSeconds := 300
      cleanupAt := cleanupAt
      appendAt := appendAt }

def resetRateLimit (windows : Windows) (key : String) : Windows :=
  Function.update windows key none

def resetLoginRateLimit (windows : Windows) (host : Option String) : Windows :=
  resetRateLimit windows ("login:"++clientIp host)

/-! What a call does to the entries. -/

section
variable {windows : Windows} {call : Call} {key : String}

theorem timesOf_cleanupWindow (windowSeconds : ℕ) (now : ℚ) :
    timesOf (cleanupWindow windows key windowSeconds now) key =
      recent (windowSeconds : ℚ) now (timesOf windows key) := by
  unfold cleanupWindow timesOf
  simp only [Function.update_self]
  split_ifs with hempty
  · exact hempty.symm
  · rfl

/-- Nothing but the entry of its key changes. -/
theorem checkRateLimit_of_ne (h : key ≠ call.key) :
    timesOf (checkRateLimit windows call).2 key = timesOf windows key := by
  unfold checkRateLimit cleanupWindow timesOf
  simp only
  split_ifs <;> simp only [Function.update_of_ne h]

/-- A call is rejected if the limit is reached by what is recent. -/
theorem checkRateLimit_self : checkRateLimit windows call =
    if call.maxRequests ≤
        (recent (call.windowSeconds : ℚ) call.cleanupAt (timesOf windows call.key)).length then
      (.error tooManyRequests, Function.update windows call.key
        (some (recent (call.windowSeconds : ℚ) call.cleanupAt (timesOf windows call.key))))
    else (.ok (), Function.update windows call.key
        (some (recent (call.windowSeconds : ℚ) call.cleanupAt (timesOf windows call.key)++
          [call.appendAt]))) := by
  simp only [checkRateLimit, timesOf_cleanupWindow]
  simp only [cleanupWindow, Function.update_idem]

theorem timesOf_checkRateLimit : timesOf (checkRateLimit windows call).2 call.key =
    if call.maxRequests ≤
        (recent (call.windowSeconds : ℚ) call.cleanupAt (timesOf windows call.key)).length then
      recent (call.windowSeconds : ℚ) call.cleanupAt (timesOf windows call.key)
    else recent (call.windowSeconds : ℚ) call.cleanupAt (timesOf windows call.key)++
      [call.appendAt] := by
  rw [checkRateLimit_self]
  split_ifs
  · simp only [timesOf, Function.update_self, Option.getD_some]
  · simp only [timesOf, Function.update_self, Option.getD_some]

theorem timesOf_resetRateLimit : timesOf (resetRateLimit windows key) key = [] := by
  simp [timesOf, resetRateLimit]

theorem timesOf_resetRateLimit_of_ne {key' : String} (h : key' ≠ key) :
    timesOf (resetRateLimit windows key) key' = timesOf windows key' := by
  simp [timesOf, resetRateLimit, Function.update_of_ne h]

end

/-! Calls one after the other. -/

/-- The entries, and the calls that were accepted. -/
structure Served where
  windows : Windows
  accepted : List Call

def serve (s : Served) (call : Call) : Served :=
  match checkRateLimit s.windows call with
  | (.ok _, windows) => ⟨windows, s.accepted++[call]⟩
  | (.error _, windows) => ⟨windows, s.accepted⟩

/-- After some calls, none of them a reset, from the start of the process on. -/
def served (calls : List Call) : Served :=
  calls.foldl serve ⟨fun _ => none, []⟩

/-- What the calls read from the clock. A rejected call does not need its second reading. -/
def readings (calls : List Call) : List ℚ :=
  calls.flatMap fun call => [call.cleanupAt, call.appendAt]

def callClock : Clock ℚ Call :=
  ⟨Call.cleanupAt, Call.appendAt⟩

/-- The accepted calls of one key. -/
def acceptedOf (key : String) (s : Served) : List Call :=
  s.accepted.filter fun call => call.key = key

/-- The limiter of one key. -/
def viewOf (key : String) (s : Served) : State ℚ Call :=
  ⟨timesOf s.windows key, acceptedOf key s⟩

section
variable {s : Served} {call : Call} {key : String}

theorem viewOf_serve_of_ne (h : call.key ≠ key) : viewOf key (serve s call) = viewOf key s := by
  have htimes : timesOf (checkRateLimit s.windows call).2 key = timesOf s.windows key :=
    checkRateLimit_of_ne (Ne.symm h)
  unfold serve viewOf acceptedOf
  rcases hcheck : checkRateLimit s.windows call with ⟨_ | _, windows⟩
  · rw [hcheck] at htimes
    simp only [htimes]
  · rw [hcheck] at htimes
    simp [htimes, h]

/-- A call of the key is an event of its limiter. -/
theorem viewOf_serve (h : call.key = key) : viewOf key (serve s call) =
    attempt callClock call.maxRequests (call.windowSeconds : ℚ) (viewOf key s) call := by
  subst h
  unfold serve attempt viewOf acceptedOf
  rw [checkRateLimit_self]
  simp only [callClock, timesOf]
  by_cases hfull : call.maxRequests ≤
      (recent (call.windowSeconds : ℚ) call.cleanupAt ((s.windows call.key).getD [])).length
  · simp [hfull]
  · simp [hfull]

theorem mem_serve {c : Call} (h : c ∈ (serve s call).accepted) : c ∈ s.accepted ∨ c = call := by
  unfold serve at h
  split at h
  · exact (List.mem_append.mp h).imp_right List.mem_singleton.mp
  · exact Or.inl h

theorem mem_of_accepted (calls : List Call) (h : call ∈ (served calls).accepted) : call ∈ calls := by
  induction calls using List.reverseRecOn with
  | nil => exact absurd h List.not_mem_nil
  | append_singleton calls last ih =>
    have hserved : served (calls++[last]) = serve (served calls) last := by
      simp [served]
    rw [hserved] at h
    rcases mem_serve h with hold | rfl
    · exact List.mem_append_left _ (ih hold)
    · exact List.mem_append_right _ List.mem_cons_self

/-- The limiter of the key is right after any calls, if its limit and window stay the same. -/
theorem exact_served {maxRequests windowSeconds : ℕ} (calls : List Call)
    (hfixed : ∀ call ∈ calls, call.key = key →
      call.maxRequests = maxRequests ∧ call.windowSeconds = windowSeconds)
    (hclock : (readings calls).Pairwise (· ≤ ·)) {now : ℚ} (hnow : ∀ time ∈ readings calls, time ≤ now) :
    Exact callClock maxRequests (windowSeconds : ℚ) now (viewOf key (served calls)) := by
  induction calls using List.reverseRecOn generalizing now with
  | nil => exact Exact.empty now
  | append_singleton calls call ih =>
    have hsplit : readings (calls++[call]) = readings calls++[call.cleanupAt, call.appendAt] := by
      simp [readings]
    have hserved : served (calls++[call]) = serve (served calls) call := by
      simp [served]
    rw [hsplit] at hclock hnow
    obtain ⟨hcalls, hcall, hbefore⟩ := List.pairwise_append.mp hclock
    have hrecord : call.cleanupAt ≤ call.appendAt := by simpa using hcall
    have hlast : call.appendAt ≤ now := hnow call.appendAt (by simp)
    -- the induction is from the right: the calls before are over when this one is checked
    have hold : Exact callClock maxRequests (windowSeconds : ℚ) call.cleanupAt
        (viewOf key (served calls)) := by
      apply ih _ hcalls
      · intro time htime
        exact hbefore time htime call.cleanupAt (by simp)
      · exact fun c hc => hfixed c (List.mem_append_left _ hc)
    rw [hserved]
    by_cases hkey : call.key = key
    · obtain ⟨hmax, hwindow⟩ := hfixed call (by simp) hkey
      have hnew := hold.attempt (b := call) le_rfl hrecord
      rw [viewOf_serve hkey, hmax, hwindow]
      exact hnew.weaken hlast
    · rw [viewOf_serve_of_ne hkey]
      exact hold.weaken (hrecord.trans hlast)

end

/-- The limiter is exact: however the calls are dated between their two readings of the clock, no
period as long as the window has more accepted calls than the limit. What is on record at the first
reading of a call are the accepted calls of the window before it, and it is rejected just if they
reach the limit. -/
theorem checkRateLimit_exact (key : String) (maxRequests windowSeconds : ℕ) (calls : List Call)
    (hfixed : ∀ call ∈ calls, call.key = key →
      call.maxRequests = maxRequests ∧ call.windowSeconds = windowSeconds)
    (hclock : (readings calls).Pairwise (· ≤ ·)) :
    (∀ date : Call → ℚ,
      (∀ call ∈ calls, call.cleanupAt ≤ date call ∧ date call ≤ call.appendAt) →
      ∀ t, ((acceptedOf key (served calls)).filter fun call =>
        t-(windowSeconds : ℚ) < date call ∧ date call ≤ t).length ≤ maxRequests) ∧
    ∀ before call after, calls = before++call :: after → call.key = key →
      (timesOf (served before).windows key).filter (fun t => call.cleanupAt-(windowSeconds : ℚ) < t) =
        ((acceptedOf key (served before)).filter fun c =>
          call.cleanupAt-(windowSeconds : ℚ) < c.appendAt).map Call.appendAt ∧
      (∀ c ∈ acceptedOf key (served before), c.appendAt ≤ call.cleanupAt) ∧
      ((checkRateLimit (served before).windows call).1 = .error tooManyRequests ↔
        maxRequests ≤ ((acceptedOf key (served before)).filter fun c =>
          call.cleanupAt-(windowSeconds : ℚ) < c.appendAt).length) := by
  constructor
  · intro date hdate t
    obtain ⟨now, hnow⟩ := (readings calls).toFinset.exists_le
    have hexact : Exact callClock maxRequests (windowSeconds : ℚ) now (viewOf key (served calls)) :=
      exact_served calls hfixed hclock fun time htime => hnow time (List.mem_toFinset.mpr htime)
    exact hexact.bounded date (fun call hcall => hdate call
      (mem_of_accepted calls (List.mem_of_mem_filter hcall))) t
  · intro before call after hcalls hkey
    subst hcalls
    have hsplit : readings (before++call :: after) =
        readings before++([call.cleanupAt, call.appendAt]++readings after) := by
      simp [readings]
    rw [hsplit] at hclock
    obtain ⟨hsorted, -, hbefore⟩ := List.pairwise_append.mp hclock
    obtain ⟨hmax, hwindow⟩ := hfixed call (by simp) hkey
    have hexact : Exact callClock maxRequests (windowSeconds : ℚ) call.cleanupAt
        (viewOf key (served before)) :=
      exact_served before (fun c hc => hfixed c (List.mem_append_left _ hc)) hsorted
        fun time htime => hbefore time htime call.cleanupAt (by simp)
    refine ⟨hexact.stored _ le_rfl, hexact.past, ?_⟩
    have hfull := hexact.full_iff le_rfl
    rw [checkRateLimit_self, hmax, hwindow, hkey]
    refine Iff.trans ?_ hfull
    unfold viewOf
    split_ifs with hreached <;> simp [hreached]

/-- Three calls in as many seconds, of which two are allowed in a minute. -/
def burst : List Call :=
  [⟨"2fa:10.0.0.7", 2, 60, 1, 3/2⟩, ⟨"2fa:10.0.0.7", 2, 60, 2, 2⟩, ⟨"2fa:10.0.0.7", 2, 60, 3, 3⟩]

theorem checkRateLimit_burst : ((acceptedOf "2fa:10.0.0.7" (served burst)).filter fun call =>
    3-((60 : ℕ) : ℚ) < call.appendAt ∧ call.appendAt ≤ 3).length ≤ 2 :=
  (checkRateLimit_exact "2fa:10.0.0.7" 2 60 burst (by decide) (by decide +kernel)).1
    Call.appendAt (by decide +kernel) 3

/-- The third one is rejected. -/
example : (checkRateLimit (served (burst.take 2)).windows
    ⟨"2fa:10.0.0.7", 2, 60, 3, 3⟩).1 = .error tooManyRequests := by
  decide +kernel

end LegalForge.RateLimit
