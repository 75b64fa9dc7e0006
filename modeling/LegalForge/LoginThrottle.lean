import LegalForge.AuthSessions
import LegalForge.RateLimit
import LegalForge.TransitionRun

/-! `POST /login` behind its rate limit, which a successful login clears. -/
namespace LegalForge.LoginThrottle
open Auth RateLimit SlidingWindow Transition

/-- A request, with what it reads from the clocks and draws. -/
structure LoginCall where
  host : Option String
  data : LoginRequest
  /-- The clock of the limiter, when it checks and when it records the request -/
  cleanupAt : ℚ
  appendAt : ℚ
  now : Instant
  draw : TokenDraw

structure Server where
  windows : Windows
  db : Db

variable (cfg : Config)

/-- `authenticate_user` in the route. -/
def authenticates (s : Server) (r : LoginCall) : Bool :=
  (authenticateUser cfg s.db r.data.email r.data.password r.now).1.isSome

/-- `POST /login`. The rest of the route is `login`, with the reset after `authenticate_user`. -/
def respond (s : Server) (r : LoginCall) : Except HttpError LoginResponse × Server :=
  match rateLimitLogin s.windows r.host r.cleanupAt r.appendAt with
  | (.error error, windows) => (.error error, { s with windows := windows })
  | (.ok _, windows) =>
    let (response, db) := login cfg s.db r.data r.draw r.now
    let windows := if authenticates cfg s r then resetLoginRateLimit windows r.host else windows
    (response, ⟨windows, db⟩)

/-- The limiter lets the request pass. -/
def passes (s : Server) (r : LoginCall) : Bool :=
  match (rateLimitLogin s.windows r.host r.cleanupAt r.appendAt).1 with
  | .ok _ => true
  | .error _ => false

/-- The password is evaluated, and the attempt fails. -/
def fails (s : Server) (r : LoginCall) : Bool :=
  passes s r && !authenticates cfg s r

def succeeds (s : Server) (r : LoginCall) : Bool :=
  passes s r && authenticates cfg s r

def after (s : Server) (requests : List LoginCall) : Server :=
  requests.foldl (fun s r => (respond cfg s r).2) s

/-- The failed attempts among some requests. -/
def failedAttempts (s : Server) : List LoginCall → List LoginCall
  | [] => []
  | r :: rs =>
    if fails cfg s r then r :: failedAttempts (respond cfg s r).2 rs
    else failedAttempts (respond cfg s r).2 rs

/-- None of the requests is a successful login from the address. -/
def NoSuccess (ip : String) (s : Server) : List LoginCall → Prop
  | [] => True
  | r :: rs => ¬(clientIp r.host = ip ∧ succeeds cfg s r = true) ∧ NoSuccess ip (respond cfg s r).2 rs

/-- What the requests read from the clock of the limiter. -/
def readings (requests : List LoginCall) : List ℚ :=
  requests.flatMap fun r => [r.cleanupAt, r.appendAt]

def loginClock : Clock ℚ LoginCall :=
  ⟨LoginCall.cleanupAt, LoginCall.appendAt⟩

/-- At most ten failed attempts from the address are evaluated in any 300 seconds. -/
def Throttled (ip : String) (s : Server) (requests : List LoginCall) : Prop :=
  ∀ date, loginClock.Dates date requests → ∀ t,
    ((failedAttempts cfg s requests).filter fun r =>
      clientIp r.host = ip ∧ t-300 < date r ∧ date r ≤ t).length ≤ 10

/-! The limiter of one address, from the last successful login on. -/

/-- The requests that have passed since the last successful login from the address. -/
def passed (ip : String) (s : Server) (log : List LoginCall) (r : LoginCall) : List LoginCall :=
  if clientIp r.host = ip then
    if succeeds cfg s r then []
    else if passes s r then log++[r]
    else log
  else log

def passedAfter (ip : String) (s : Server) (log : List LoginCall) : List LoginCall → List LoginCall
  | [] => log
  | r :: rs => passedAfter ip (respond cfg s r).2 (passed cfg ip s log r) rs

def viewOf (ip : String) (s : Server) (log : List LoginCall) : State ℚ LoginCall :=
  ⟨timesOf s.windows ("login:"++ip), log⟩

variable {cfg} {ip : String} {s : Server} {log : List LoginCall} {r : LoginCall} {now : ℚ}

theorem windows_respond : (respond cfg s r).2.windows =
    if succeeds cfg s r then
      resetLoginRateLimit (rateLimitLogin s.windows r.host r.cleanupAt r.appendAt).2 r.host
    else (rateLimitLogin s.windows r.host r.cleanupAt r.appendAt).2 := by
  unfold respond succeeds passes
  rcases rateLimitLogin s.windows r.host r.cleanupAt r.appendAt with ⟨_ | _, windows⟩
  · simp
  · simp only [Bool.true_and]

/-- The limiter lets a request pass while fewer than ten are recent. -/
theorem passes_iff (hip : clientIp r.host = ip) : passes s r = true ↔
    ¬10 ≤ (recent (300 : ℚ) r.cleanupAt (timesOf s.windows ("login:"++ip))).length := by
  subst hip
  unfold passes rateLimitLogin
  rw [checkRateLimit_self]
  simp only [loginCall, Nat.cast_ofNat]
  split_ifs with hfull
  · simp [hfull]
  · simp [hfull]

theorem timesOf_rateLimitLogin (hip : clientIp r.host = ip) :
    timesOf (rateLimitLogin s.windows r.host r.cleanupAt r.appendAt).2 ("login:"++ip) =
      if passes s r then
        recent (300 : ℚ) r.cleanupAt (timesOf s.windows ("login:"++ip))++[r.appendAt]
      else recent (300 : ℚ) r.cleanupAt (timesOf s.windows ("login:"++ip)) := by
  have hpass : passes s r = true ↔
      ¬10 ≤ (recent (300 : ℚ) r.cleanupAt (timesOf s.windows ("login:"++ip))).length :=
    passes_iff hip
  subst hip
  refine timesOf_checkRateLimit.trans ?_
  simp only [loginCall, Nat.cast_ofNat]
  by_cases hpasses : passes s r = true
  · rw [if_pos hpasses]
    exact if_neg (hpass.mp hpasses)
  · rw [if_neg hpasses]
    exact if_pos (not_not.mp (mt hpass.mpr hpasses))

/-- Another address has another limiter. -/
theorem viewOf_respond_of_ne (hip : clientIp r.host ≠ ip) :
    viewOf ip (respond cfg s r).2 (passed cfg ip s log r) = viewOf ip s log := by
  have hkey : "login:"++ip ≠ "login:"++clientIp r.host := by
    intro hkey
    exact hip ((String.append_right_inj _).mp hkey).symm
  have htimes : timesOf (rateLimitLogin s.windows r.host r.cleanupAt r.appendAt).2 ("login:"++ip) =
      timesOf s.windows ("login:"++ip) := checkRateLimit_of_ne hkey
  unfold viewOf passed
  rw [windows_respond, if_neg hip]
  split_ifs
  · rw [resetLoginRateLimit, timesOf_resetRateLimit_of_ne hkey, htimes]
  · rw [htimes]

/-- A successful login leaves nothing on record. Any other request is an event of the limiter. -/
theorem viewOf_respond (hip : clientIp r.host = ip) :
    viewOf ip (respond cfg s r).2 (passed cfg ip s log r) =
      if succeeds cfg s r then ⟨[], []⟩
      else attempt loginClock 10 (300 : ℚ) (viewOf ip s log) r := by
  have hpass : passes s r = true ↔
      ¬10 ≤ (recent (300 : ℚ) r.cleanupAt (timesOf s.windows ("login:"++ip))).length :=
    passes_iff hip
  unfold viewOf passed
  rw [windows_respond, if_pos hip]
  by_cases hsuccess : succeeds cfg s r = true
  · rw [if_pos hsuccess, if_pos hsuccess, if_pos hsuccess, resetLoginRateLimit, hip,
      timesOf_resetRateLimit]
  · rw [if_neg hsuccess, if_neg hsuccess, if_neg hsuccess, timesOf_rateLimitLogin hip]
    by_cases hpasses : passes s r = true
    · rw [if_pos hpasses, if_pos hpasses]
      exact (if_neg (hpass.mp hpasses)).symm
    · rw [if_neg hpasses, if_neg hpasses]
      exact (if_pos (not_not.mp (mt hpass.mpr hpasses))).symm

/-- The limiter of the address stays right. -/
theorem exact_respond (h : Exact loginClock 10 (300 : ℚ) now (viewOf ip s log))
    (hcheck : now ≤ r.cleanupAt) (hrecord : r.cleanupAt ≤ r.appendAt) :
    Exact loginClock 10 (300 : ℚ) r.appendAt
      (viewOf ip (respond cfg s r).2 (passed cfg ip s log r)) := by
  by_cases hip : clientIp r.host = ip
  · rw [viewOf_respond hip]
    split_ifs
    · exact Exact.empty r.appendAt
    · exact h.attempt hcheck hrecord
  · rw [viewOf_respond_of_ne hip]
    exact h.weaken (hcheck.trans hrecord)

theorem exact_after (requests : List LoginCall)
    (h : Exact loginClock 10 (300 : ℚ) now (viewOf ip s log))
    (hclock : (now :: readings requests).Pairwise (· ≤ ·)) {later : ℚ}
    (hlater : ∀ time ∈ now :: readings requests, time ≤ later) :
    Exact loginClock 10 (300 : ℚ) later
      (viewOf ip (after cfg s requests) (passedAfter cfg ip s log requests)) := by
  induction requests generalizing s log now with
  | nil => exact h.weaken (hlater now List.mem_cons_self)
  | cons r rs ih =>
    have hsplit : readings (r :: rs) = r.cleanupAt :: r.appendAt :: readings rs := rfl
    rw [hsplit] at hclock hlater
    obtain ⟨hnow, hrest⟩ := List.pairwise_cons.mp hclock
    obtain ⟨hcleanup, hrest⟩ := List.pairwise_cons.mp hrest
    have hnew : Exact loginClock 10 (300 : ℚ) r.appendAt
        (viewOf ip (respond cfg s r).2 (passed cfg ip s log r)) :=
      exact_respond h (hnow r.cleanupAt List.mem_cons_self) (hcleanup r.appendAt List.mem_cons_self)
    apply ih hnew hrest
    intro time htime
    exact hlater time (List.mem_cons_of_mem _ (List.mem_cons_of_mem _ htime))

theorem mem_passedAfter (requests : List LoginCall) {a : LoginCall}
    (h : a ∈ passedAfter cfg ip s log requests) : a ∈ log ∨ a ∈ requests := by
  induction requests generalizing s log with
  | nil => exact Or.inl h
  | cons r rs ih =>
    rcases ih h with hpassed | hrest
    · have hstep : a ∈ log ∨ a = r := by
        unfold passed at hpassed
        split_ifs at hpassed
        · exact absurd hpassed List.not_mem_nil
        · exact (List.mem_append.mp hpassed).imp_right List.mem_singleton.mp
        · exact Or.inl hpassed
        · exact Or.inl hpassed
      rcases hstep with hold | rfl
      · exact Or.inl hold
      · exact Or.inr List.mem_cons_self
    · exact Or.inr (List.mem_cons_of_mem _ hrest)

/-- While nobody succeeds, what passes fails, and stays on record. -/
theorem passedAfter_of_noSuccess {requests : List LoginCall} (h : NoSuccess cfg ip s requests) :
    passedAfter cfg ip s log requests =
      log++(failedAttempts cfg s requests).filter fun r => clientIp r.host = ip := by
  induction requests generalizing s log with
  | nil => exact (List.append_nil log).symm
  | cons r rs ih =>
    obtain ⟨hfirst, hrest⟩ := h
    rw [passedAfter, ih hrest, failedAttempts, passed]
    by_cases hip : clientIp r.host = ip
    · have hno : succeeds cfg s r = false := Bool.not_eq_true _ ▸ fun hs => hfirst ⟨hip, hs⟩
      -- what does not succeed fails, if it passes
      have hfails : fails cfg s r = passes s r := by
        unfold fails
        unfold succeeds at hno
        revert hno
        cases passes s r <;> cases authenticates cfg s r <;> decide
      rw [hfails, if_pos hip, hno, if_neg Bool.false_ne_true]
      by_cases hpasses : passes s r = true
      · simp [hpasses, hip]
      · simp [hpasses]
    · rw [if_neg hip]
      by_cases hfails : fails cfg s r = true
      · simp [hfails, hip]
      · simp [hfails]

theorem after_append (before period : List LoginCall) :
    after cfg s (before++period) = after cfg (after cfg s before) period :=
  List.foldl_append ..

theorem passedAfter_append (before period : List LoginCall) :
    passedAfter cfg ip s log (before++period) =
      passedAfter cfg ip (after cfg s before) (passedAfter cfg ip s log before) period := by
  induction before generalizing s log with
  | nil => rfl
  | cons r rs ih => exact ih

theorem mem_failedAttempts {requests : List LoginCall} {a : LoginCall}
    (h : a ∈ failedAttempts cfg s requests) : a ∈ requests := by
  induction requests generalizing s with
  | nil => exact h
  | cons r rs ih =>
    rw [failedAttempts] at h
    split_ifs at h
    · rcases List.mem_cons.mp h with rfl | hrest
      · exact List.mem_cons_self
      · exact List.mem_cons_of_mem _ (ih hrest)
    · exact List.mem_cons_of_mem _ (ih h)

/-- A request is recorded after its check. -/
theorem readings_ordered {requests : List LoginCall} (h : (readings requests).Pairwise (· ≤ ·)) :
    ∀ r ∈ requests, r.cleanupAt ≤ r.appendAt := by
  induction requests with
  | nil => exact fun r hr => absurd hr List.not_mem_nil
  | cons r rs ih =>
    have hsplit : readings (r :: rs) = r.cleanupAt :: r.appendAt :: readings rs := rfl
    rw [hsplit] at h
    obtain ⟨hcleanup, hrest⟩ := List.pairwise_cons.mp h
    intro r' hr'
    rcases List.mem_cons.mp hr' with rfl | hr'
    · exact hcleanup r'.appendAt List.mem_cons_self
    · exact ih (List.pairwise_cons.mp hrest).2 r' hr'

/-- The limiter is right after any requests from the start of the process on. -/
theorem exists_exact (cfg : Config) (db : Db) (ip : String) {requests : List LoginCall}
    (hclock : (readings requests).Pairwise (· ≤ ·)) :
    ∃ last, Exact loginClock 10 (300 : ℚ) last
      (viewOf ip (after cfg ⟨fun _ => none, db⟩ requests)
        (passedAfter cfg ip ⟨fun _ => none, db⟩ [] requests)) := by
  obtain ⟨first, hfirst⟩ := (readings requests).toFinset.bddBelow
  obtain ⟨last, hlast⟩ := (first :: readings requests).toFinset.exists_le
  refine ⟨last, exact_after requests (Exact.empty first)
    (List.pairwise_cons.mpr ⟨?_, hclock⟩) ?_⟩
  · exact fun time htime => hfirst (Finset.mem_coe.mpr (List.mem_toFinset.mpr htime))
  · exact fun time htime => hlast time (List.mem_toFinset.mpr htime)

def plainConfig : Config where
  verifyPassword plain hashed := plain = hashed
  sha256 text := text

def account (id : Uuid) (email password : String) : User where
  id := id
  email := email
  passwordHash := password
  firstName := "A"
  lastName := "B"

/-- The account of an attacker, and three others. -/
def accountsDb : Db where
  users := [account 71 "mallory@firm.test" "own password", account 72 "ann@firm.test" "orchid",
    account 73 "bob@firm.test" "tulip", account 74 "eve@firm.test" "fern"]
  tokens := []
  providers := []
  ssoSessions := []

/-- A request of the attacker at a second. -/
def attack (second : ℕ) (email password : String) : LoginCall where
  host := some "203.0.113.9"
  data := ⟨email, password⟩
  cleanupAt := second
  appendAt := second
  now := second*1000000
  draw := ⟨second, "token"⟩

def guesses : List LoginCall :=
  [attack 1 "ann@firm.test" "a", attack 2 "ann@firm.test" "b", attack 3 "ann@firm.test" "c",
   attack 4 "bob@firm.test" "a", attack 5 "bob@firm.test" "b", attack 6 "bob@firm.test" "c",
   attack 7 "eve@firm.test" "a", attack 8 "eve@firm.test" "b", attack 9 "eve@firm.test" "c"]

end LegalForge.LoginThrottle
