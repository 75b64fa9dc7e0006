import LegalForge.TransitionRun

/-! The API client of the frontend. One request refreshes the tokens while others that are
answered 401 queue up behind it. Every event runs to its end before the next one. -/
namespace LegalForge.Frontend
open Transition

abbrev RequestId := ℕ

/-- `error.config`, what is sent and sent again. -/
structure Config where
  id : RequestId
  retry : Bool := false
  authorization : Option String := none

/-- A promise that was handed to the application. -/
inductive Promise where
  | pending
  | resolved
  | rejected
  deriving DecidableEq

/-- What is on its way and not answered yet. -/
inductive Call where
  | request (config : Config)
  /-- The call to `/api/auth/refresh`, which `config` waits for. -/
  | refresh (config : Config) (refreshToken : String)

def Call.config : Call → Config
  | .request config => config
  | .refresh config _ => config

def Call.id (c : Call) : RequestId := c.config.id

def Call.isRefresh : Call → Bool
  | .request _ => false
  | .refresh _ _ => true

structure Client where
  isRefreshing : Bool := false
  refreshSubscribers : List Config := []
  accessToken : Option String := none
  refreshToken : Option String := none
  network : List Call := []
  promise : RequestId → Option Promise := fun _ => none
  /-- The page was sent to `/login`. -/
  atLogin : Bool := false

inductive Response where
  | ok
  /-- The status, nothing without a response. -/
  | error (status : Option ℕ)

inductive RefreshResponse where
  /-- The tokens of `response.data`, nothing for one that is undefined. -/
  | tokens (access refresh : Option String)
  /-- An error, or data that cannot be taken apart. -/
  | failed

inductive Event where
  /-- The application sends a request. -/
  | send (id : RequestId)
  | response (i : ℕ) (r : Response)
  | refreshResponse (i : ℕ) (r : RefreshResponse)
  /-- The application logs in. -/
  | setTokens (access refresh : Option String)
  | logout

/-- A token that is not null and not empty. -/
def truthy (token : Option String) : Option String :=
  token.filter (· ≠ "")

/-- A template string writes a missing token as `undefined`. -/
def bearer (token : Option String) : String :=
  "Bearer "++token.getD "undefined"

/-- The request interceptor, then the request is on its way. -/
def api (s : Client) (config : Config) : Client :=
  let config :=
    match truthy s.accessToken with
    | none => config
    | some token => { config with authorization := some (bearer token) }
  { s with network := s.network++[.request config] }

def settle (s : Client) (id : RequestId) (outcome : Promise) : Client :=
  { s with promise := Function.update s.promise id (some outcome) }

def setTokens (s : Client) (access refresh : Option String) : Client :=
  { s with accessToken := access, refreshToken := refresh }

/-- `logout()` of the store -/
def logout (s : Client) : Client :=
  { s with accessToken := none, refreshToken := none }

/-- `logout()`, then `window.location.href = '/login'` -/
def leave (s : Client) : Client :=
  { logout s with atLogin := true }

def addRefreshSubscriber (s : Client) (config : Config) : Client :=
  { s with refreshSubscribers := s.refreshSubscribers++[config] }

/-- The request is sent again, with the new token. -/
def resend (token : Option String) (s : Client) (config : Config) : Client :=
  api s { config with authorization := some (bearer token) }

def onRefreshed (s : Client) (token : Option String) : Client :=
  { s.refreshSubscribers.foldl (resend token) s with refreshSubscribers := [] }

/-- The response interceptor of an error -/
def onError (s : Client) (config : Config) (status : Option ℕ) : Client :=
  if status = some 401 ∧ config.retry = false then
    let config := { config with retry := true }
    if s.isRefreshing then addRefreshSubscriber s config
    else
      match truthy s.refreshToken with
      | some token => { s with
          isRefreshing := true
          network := s.network++[.refresh config token] }
      | none => settle (leave { s with isRefreshing := false }) config.id .rejected
  else settle s config.id .rejected

/-- What the response interceptor does once the refresh is answered. -/
def onRefreshResponse (s : Client) (config : Config) : RefreshResponse → Client
  | .tokens access refresh =>
    resend access (onRefreshed { setTokens s access refresh with isRefreshing := false } access) config
  | .failed =>
    settle (leave { s with isRefreshing := false, refreshSubscribers := [] }) config.id .rejected

def step (s : Client) : Event → Option Client
  | .send id =>
    if s.promise id = none then some (api (settle s id .pending) { id := id }) else none
  | .response i r =>
    match s.network[i]? with
    | some (.request config) =>
      let s := { s with network := s.network.eraseIdx i }
      match r with
      | .ok => some (settle s config.id .resolved)
      | .error status => some (onError s config status)
    | _ => none
  | .refreshResponse i r =>
    match s.network[i]? with
    | some (.refresh config _) =>
      some (onRefreshResponse { s with network := s.network.eraseIdx i } config r)
    | _ => none
  | .setTokens access refresh => some (setTokens s access refresh)
  | .logout => some (logout s)

def refreshes (s : Client) : ℕ :=
  s.network.countP Call.isRefresh

/-- The request waits for an answer from the network. -/
def OnItsWay (s : Client) (id : RequestId) : Prop :=
  ∃ c ∈ s.network, c.id = id

/-- The request has its callback in `refreshSubscribers`. -/
def Queued (s : Client) (id : RequestId) : Prop :=
  ∃ config ∈ s.refreshSubscribers, config.id = id

/-- There is one refresh at most, and no pending request is dropped. -/
structure MutexOk (s : Client) : Prop where
  single : refreshes s ≤ 1
  waiting : ∀ id, s.promise id = some .pending →
    OnItsWay s id ∨ Queued s id ∧ 0 < refreshes s

/-- No request is queued when a refresh fails. -/
def FailsAlone (s : Client) (e : Event) : Prop :=
  ∀ i, e = .refreshResponse i .failed → s.refreshSubscribers = []

/-- The pending requests there are, each in one place. -/
def places (s : Client) : List RequestId :=
  s.network.map Call.id++s.refreshSubscribers.map Config.id

/-- The flag says whether a refresh is on its way, and only then requests queue up. -/
structure FlagOk (s : Client) : Prop where
  flag : refreshes s = s.isRefreshing.toNat
  queue : s.isRefreshing = false → s.refreshSubscribers = []

/-- Each place belongs to a pending request of its own. -/
structure Held (promise : RequestId → Option Promise) (ids : List RequestId) : Prop where
  distinct : ids.Nodup
  pending : ∀ id ∈ ids, promise id = some .pending

/-- Each pending request has a place. -/
def Covered (promise : RequestId → Option Promise) (ids : List RequestId) : Prop :=
  ∀ id, promise id = some .pending → id ∈ ids

structure MutexInv (s : Client) : Prop extends FlagOk s where
  held : Held s.promise (places s)

/-! Places. -/

section
variable {promise : RequestId → Option Promise} {ids ids' : List RequestId} {id : RequestId}

theorem Held.perm (h : Held promise ids) (hperm : ids'.Perm ids) : Held promise ids' :=
  ⟨hperm.nodup_iff.mpr h.distinct, fun j hj => h.pending j (hperm.subset hj)⟩

theorem Covered.perm (h : Covered promise ids) (hperm : ids'.Perm ids) : Covered promise ids' :=
  fun j hj => hperm.symm.subset (h j hj)

theorem Held.send (h : Held promise ids) (hnew : promise id = none) :
    Held (Function.update promise id (some .pending)) (id :: ids) := by
  have hnotin : id ∉ ids := by
    intro hmem
    have hpending := h.pending id hmem
    rw [hnew] at hpending
    cases hpending
  refine ⟨List.nodup_cons.mpr ⟨hnotin, h.distinct⟩, fun j hj => ?_⟩
  rcases List.mem_cons.mp hj with rfl | hids
  · exact Function.update_self _ _ _
  · have hne : j ≠ id := by
      rintro rfl
      exact hnotin hids
    rw [Function.update_of_ne hne]
    exact h.pending j hids

theorem Covered.send (h : Covered promise ids) :
    Covered (Function.update promise id (some .pending)) (id :: ids) := by
  intro j hj
  by_cases hsame : j = id
  · rw [hsame]
    exact List.mem_cons_self
  · rw [Function.update_of_ne hsame] at hj
    exact List.mem_cons_of_mem _ (h j hj)

theorem Held.settle {dropped : List RequestId} (h : Held promise (id :: (ids++dropped)))
    (outcome : Promise) : Held (Function.update promise id (some outcome)) ids := by
  obtain ⟨hnotin, hdistinct⟩ := List.nodup_cons.mp h.distinct
  refine ⟨(List.nodup_append.mp hdistinct).1, fun j hj => ?_⟩
  have hne : j ≠ id := fun heq => hnotin (List.mem_append_left _ (heq ▸ hj))
  rw [Function.update_of_ne hne]
  exact h.pending j (List.mem_cons_of_mem _ (List.mem_append_left _ hj))

/-- Every pending request has a place left exactly if none lost its place. -/
theorem covered_settle_iff {dropped : List RequestId} {outcome : Promise}
    (hheld : Held promise (id :: (ids++dropped))) (h : Covered promise (id :: (ids++dropped)))
    (houtcome : outcome ≠ .pending) :
    Covered (Function.update promise id (some outcome)) ids ↔ dropped = [] := by
  obtain ⟨hnotin, hdistinct⟩ := List.nodup_cons.mp hheld.distinct
  constructor
  · intro hcovered
    rw [List.eq_nil_iff_forall_not_mem]
    intro j hj
    have hne : j ≠ id := fun heq => hnotin (List.mem_append_right _ (heq ▸ hj))
    have hpending := hheld.pending j (List.mem_cons_of_mem _ (List.mem_append_right _ hj))
    rw [← Function.update_of_ne hne (some outcome) promise] at hpending
    exact (List.nodup_append.mp hdistinct).2.2 j (hcovered j hpending) j hj rfl
  · rintro rfl j hj
    rw [List.append_nil] at h
    by_cases hsame : j = id
    · rw [hsame, Function.update_self] at hj
      exact absurd (Option.some.inj hj) houtcome
    · rw [Function.update_of_ne hsame] at hj
      exact (List.mem_cons.mp (h j hj)).resolve_left hsame

end

section
variable {s s' : Client} {config : Config} {token : Option String}

@[simp] theorem api_promise : (api s config).promise = s.promise := rfl
@[simp] theorem api_refreshSubscribers : (api s config).refreshSubscribers = s.refreshSubscribers := rfl
@[simp] theorem api_isRefreshing : (api s config).isRefreshing = s.isRefreshing := rfl

theorem api_network_ids : (api s config).network.map Call.id = s.network.map Call.id++[config.id] := by
  unfold api
  rw [List.map_append, List.map_singleton]
  cases truthy s.accessToken <;> rfl

theorem refreshes_api : refreshes (api s config) = refreshes s := by
  unfold refreshes api
  rw [List.countP_append]
  rfl

/-- A call that is added has a place of its own. -/
theorem places_api : (places (api s config)).Perm (config.id :: places s) := by
  rw [places, api_network_ids, List.append_assoc, List.singleton_append]
  exact List.perm_middle

/-- What the callbacks leave as it is, and the calls they make. -/
theorem foldl_resend (token : Option String) (configs : List Config) (s : Client) :
    (configs.foldl (resend token) s).promise = s.promise ∧
      (configs.foldl (resend token) s).isRefreshing = s.isRefreshing ∧
      refreshes (configs.foldl (resend token) s) = refreshes s ∧
      (configs.foldl (resend token) s).network.map Call.id =
        s.network.map Call.id++configs.map Config.id := by
  induction configs generalizing s with
  | nil => exact ⟨rfl, rfl, rfl, (List.append_nil _).symm⟩
  | cons config configs ih =>
    obtain ⟨hpromise, hflag, hrefreshes, hnetwork⟩ := ih (resend token s config)
    refine ⟨hpromise, hflag, hrefreshes.trans refreshes_api, ?_⟩
    rw [List.foldl_cons, hnetwork, resend, api_network_ids, List.append_assoc]
    rfl

/-- Every queued request is on its way again. -/
theorem places_onRefreshed : places (onRefreshed s token) = places s := by
  obtain ⟨-, -, -, hnetwork⟩ := foldl_resend token s.refreshSubscribers s
  rw [places, onRefreshed]
  dsimp only
  rw [hnetwork, List.map_nil, List.append_nil, places]

/-- A call that is answered leaves its place. -/
theorem places_eraseIdx {i : ℕ} {c : Call} (h : s.network[i]? = some c) :
    (places s).Perm (c.id :: places { s with network := s.network.eraseIdx i }) := by
  obtain ⟨hlt, rfl⟩ := List.getElem?_eq_some_iff.mp h
  have hperm := (List.getElem_cons_eraseIdx_perm hlt).symm.map Call.id
  rw [List.map_cons] at hperm
  exact hperm.append_right _

theorem refreshes_eraseIdx {i : ℕ} {c : Call} (h : s.network[i]? = some c) :
    refreshes s = refreshes { s with network := s.network.eraseIdx i }+c.isRefresh.toNat := by
  obtain ⟨hlt, rfl⟩ := List.getElem?_eq_some_iff.mp h
  rw [refreshes, ← (List.getElem_cons_eraseIdx_perm hlt).countP_eq, List.countP_cons, refreshes]
  cases (s.network[i]).isRefresh <;> rfl

/-- Where the request of a handler goes: it has a place again, or it is settled. The requests
in `dropped` lose theirs. -/
inductive Handled (s s' : Client) (id : RequestId) (dropped : List RequestId) : Prop where
  | replaced (hpromise : s'.promise = s.promise) (hplaces : (places s').Perm (id :: places s))
      (hdropped : dropped = [])
  | settled (outcome : Promise) (houtcome : outcome ≠ .pending)
      (hpromise : s'.promise = Function.update s.promise id (some outcome))
      (hplaces : (places s).Perm (places s'++dropped))

theorem handled_onError (s : Client) (config : Config) (status : Option ℕ) :
    Handled s (onError s config status) config.id [] := by
  have hreject : ∀ u : Client, u.promise = s.promise → places u = places s →
      Handled s (settle u config.id .rejected) config.id [] := by
    intro u hpromise hplaces
    apply Handled.settled .rejected (by decide)
    · rw [settle, hpromise]
    · have hsame : places (settle u config.id .rejected) = places s := hplaces
      rw [hsame, List.append_nil]
  unfold onError
  split_ifs with hretry hrefreshing
  · -- queued
    refine Handled.replaced rfl ?_ rfl
    have hplaces : places (addRefreshSubscriber s { config with retry := true }) =
        places s++[config.id] := by
      simp only [places, addRefreshSubscriber, List.map_append, List.map_singleton,
        List.append_assoc]
    dsimp only
    rw [hplaces]
    exact List.perm_append_singleton _ _
  · cases htoken : truthy s.refreshToken with
    | some token =>
      -- it starts the refresh
      refine Handled.replaced rfl ?_ rfl
      simp only [places, List.map_append, List.map_singleton, List.append_assoc,
        List.singleton_append]
      exact List.perm_middle
    | none => exact hreject _ rfl rfl
  · exact hreject _ rfl rfl

theorem handled_onRefreshResponse_tokens (s : Client) (config : Config) (access refresh : Option String) :
    Handled s (onRefreshResponse s config (.tokens access refresh)) config.id [] := by
  let t : Client := { setTokens s access refresh with isRefreshing := false }
  have hplaces : places (onRefreshed t access) = places s := places_onRefreshed
  refine Handled.replaced ?_ ?_ rfl
  · exact (foldl_resend access t.refreshSubscribers t).1
  · rw [← hplaces]
    exact places_api

/-- A refresh that fails drops what is queued. -/
theorem handled_onRefreshResponse_failed (s : Client) (config : Config) :
    Handled s (onRefreshResponse s config .failed) config.id
      (s.refreshSubscribers.map Config.id) := by
  refine Handled.settled .rejected (by decide) rfl ?_
  simp only [places, onRefreshResponse, settle, leave, logout, List.map_nil, List.append_nil]
  exact List.Perm.refl _

theorem handled_ok (s : Client) (config : Config) :
    Handled s (settle s config.id .resolved) config.id [] := by
  apply Handled.settled .resolved (by decide) rfl
  rw [List.append_nil]
  exact List.Perm.refl _

/-- The requests that lose their place in a step. -/
def dropped (s : Client) : Event → List RequestId
  | .refreshResponse _ .failed => s.refreshSubscribers.map Config.id
  | _ => []

/-- What a step does with the requests: one is sent, or nothing changes, or the request of a call
that is answered is handled. -/
inductive Moved (s s' : Client) (e : Event) : Prop where
  | sent (id : RequestId) (hnew : s.promise id = none)
      (hpromise : s'.promise = Function.update s.promise id (some .pending))
      (hplaces : (places s').Perm (id :: places s)) (hdropped : dropped s e = [])
  | kept (hpromise : s'.promise = s.promise) (hplaces : places s' = places s)
      (hdropped : dropped s e = [])
  | answered (t : Client) (id : RequestId) (hpromise : t.promise = s.promise)
      (hplaces : (places s).Perm (id :: places t)) (hhandled : Handled t s' id (dropped s e))

theorem step_moved {e : Event} (h : step s e = some s') : Moved s s' e := by
  cases e with
  | send id =>
    simp only [step] at h
    split_ifs at h with hnew
    cases h
    exact Moved.sent id hnew rfl places_api rfl
  | response i r =>
    simp only [step] at h
    split at h
    · rename_i config hcall
      -- the call leaves the network before its answer is handled
      refine Moved.answered { s with network := s.network.eraseIdx i } config.id rfl
        (places_eraseIdx hcall) ?_
      cases r with
      | ok =>
        cases h
        exact handled_ok _ config
      | error status =>
        cases h
        exact handled_onError _ config status
    · cases h
  | refreshResponse i r =>
    simp only [step] at h
    split at h
    · rename_i config token hcall
      cases h
      refine Moved.answered { s with network := s.network.eraseIdx i } config.id rfl
        (places_eraseIdx hcall) ?_
      cases r with
      | tokens access refresh => exact handled_onRefreshResponse_tokens _ config access refresh
      | failed => exact handled_onRefreshResponse_failed { s with network := s.network.eraseIdx i } config
    · cases h
  | setTokens access refresh =>
    cases h
    exact Moved.kept rfl rfl rfl
  | logout =>
    cases h
    exact Moved.kept rfl rfl rfl

/-- Places stay apart, and are kept exactly if none is dropped. -/
theorem Moved.held {e : Event} (h : Moved s s' e) (hheld : Held s.promise (places s)) :
    Held s'.promise (places s') := by
  cases h with
  | sent id hnew hpromise hplaces =>
    rw [hpromise]
    exact (hheld.send hnew).perm hplaces
  | kept hpromise hplaces =>
    rw [hpromise, hplaces]
    exact hheld
  | answered t id hpromise hplaces hhandled =>
    have ht : Held t.promise (id :: places t) := by
      rw [hpromise]
      exact hheld.perm hplaces.symm
    cases hhandled with
    | replaced hpromise' hplaces' =>
      rw [hpromise']
      exact ht.perm hplaces'
    | settled outcome houtcome hpromise' hplaces' =>
      rw [hpromise']
      exact (ht.perm (hplaces'.symm.cons id)).settle outcome

theorem Moved.covered_iff {e : Event} (h : Moved s s' e) (hheld : Held s.promise (places s))
    (hcovered : Covered s.promise (places s)) :
    Covered s'.promise (places s') ↔ dropped s e = [] := by
  cases h with
  | sent id hnew hpromise hplaces hdropped =>
    rw [hpromise]
    exact iff_of_true (hcovered.send.perm hplaces) hdropped
  | kept hpromise hplaces hdropped =>
    rw [hpromise, hplaces]
    exact iff_of_true hcovered hdropped
  | answered t id hpromise hplaces hhandled =>
    rw [← hpromise] at hheld hcovered
    have ht := hheld.perm hplaces.symm
    have hc := hcovered.perm hplaces.symm
    cases hhandled with
    | replaced hpromise' hplaces' hdropped =>
      rw [hpromise']
      exact iff_of_true (hc.perm hplaces') hdropped
    | settled outcome houtcome hpromise' hplaces' =>
      rw [hpromise']
      have hperm := hplaces'.symm.cons id
      exact covered_settle_iff (ht.perm hperm) (hc.perm hperm) houtcome

/-! The flag. -/

theorem FlagOk.onError (h : FlagOk s) (config : Config) (status : Option ℕ) :
    FlagOk (onError s config status) := by
  unfold Frontend.onError
  split_ifs with hretry hrefreshing
  · refine ⟨h.flag, fun hidle => ?_⟩
    change s.isRefreshing = false at hidle
    rw [hrefreshing] at hidle
    cases hidle
  · have hidle : s.isRefreshing = false := eq_false_of_ne_true hrefreshing
    cases htoken : truthy s.refreshToken with
    | some token =>
      refine ⟨?_, nofun⟩
      have hnone : refreshes s = 0 := by rw [h.flag, hidle, Bool.toNat_false]
      rw [refreshes] at hnone ⊢
      rw [List.countP_append, hnone]
      rfl
    | none =>
      refine ⟨?_, fun _ => h.queue hidle⟩
      exact h.flag.trans (congrArg Bool.toNat hidle)
  · exact ⟨h.flag, h.queue⟩

/-- With the refresh answered there is none, and the queue is emptied. -/
theorem flagOk_onRefreshResponse (hnone : refreshes s = 0) (config : Config) (r : RefreshResponse) :
    FlagOk (onRefreshResponse s config r) := by
  cases r with
  | tokens access refresh =>
    let t : Client := { setTokens s access refresh with isRefreshing := false }
    obtain ⟨-, hflag, hrefreshes, -⟩ := foldl_resend access t.refreshSubscribers t
    refine ⟨?_, fun _ => rfl⟩
    change refreshes (api (onRefreshed t access) _) =
      (t.refreshSubscribers.foldl (resend access) t).isRefreshing.toNat
    rw [refreshes_api, hflag]
    exact hrefreshes.trans hnone
  | failed => exact ⟨hnone, fun _ => rfl⟩

theorem FlagOk.step {e : Event} (hs : FlagOk s) (h : step s e = some s') : FlagOk s' := by
  cases e with
  | send id =>
    simp only [Frontend.step] at h
    split_ifs at h
    cases h
    exact ⟨refreshes_api.trans hs.flag, hs.queue⟩
  | response i r =>
    simp only [Frontend.step] at h
    split at h
    · rename_i config hcall
      have hflag : FlagOk { s with network := s.network.eraseIdx i } :=
        ⟨(refreshes_eraseIdx hcall).symm.trans hs.flag, hs.queue⟩
      cases r with
      | ok =>
        cases h
        exact ⟨hflag.flag, hflag.queue⟩
      | error status =>
        cases h
        exact hflag.onError config status
    · cases h
  | refreshResponse i r =>
    simp only [Frontend.step] at h
    split at h
    · rename_i config token hcall
      cases h
      -- one refresh was on its way, so that none is left
      apply flagOk_onRefreshResponse
      have hcount := refreshes_eraseIdx hcall
      have hle := Bool.toNat_le s.isRefreshing
      rw [hs.flag, Call.isRefresh, Bool.toNat_true] at hcount
      omega
    · cases h
  | setTokens access refresh =>
    cases h
    exact ⟨hs.flag, hs.queue⟩
  | logout =>
    cases h
    exact ⟨hs.flag, hs.queue⟩

/-! Runs. -/

theorem MutexInv.step {e : Event} (hs : MutexInv s) (h : step s e = some s') : MutexInv s' :=
  ⟨hs.toFlagOk.step h, (step_moved h).held hs.held⟩

theorem mem_places {id : RequestId} : id ∈ places s ↔ OnItsWay s id ∨ Queued s id := by
  simp only [places, List.mem_append, List.mem_map, OnItsWay, Queued]

/-- There is one refresh at most in every reachable state, whatever is answered. -/
theorem FlagOk.refreshes_le_one (h : FlagOk s) : refreshes s ≤ 1 := by
  rw [h.flag]
  exact Bool.toNat_le _

theorem MutexInv.mutexOk_iff (h : MutexInv s) : MutexOk s ↔ Covered s.promise (places s) := by
  constructor
  · intro hok id hpending
    apply mem_places.mpr
    rcases hok.waiting id hpending with hway | hqueued
    · exact Or.inl hway
    · exact Or.inr hqueued.1
  · intro hcovered
    refine ⟨h.refreshes_le_one, fun id hpending => ?_⟩
    rcases mem_places.mp (hcovered id hpending) with hway | hqueued
    · exact Or.inl hway
    · have hrefreshing : s.isRefreshing = true := by
        by_contra hidle
        obtain ⟨config, hconfig, -⟩ := hqueued
        rw [h.queue (eq_false_of_ne_true hidle)] at hconfig
        cases hconfig
      refine Or.inr ⟨hqueued, ?_⟩
      rw [h.flag, hrefreshing]
      exact Nat.one_pos

theorem dropped_eq_nil_iff {e : Event} : dropped s e = [] ↔ FailsAlone s e := by
  unfold dropped FailsAlone
  split
  · rename_i i
    rw [List.map_eq_nil_iff]
    exact ⟨fun h _ _ => h, fun h => h i rfl⟩
  · rename_i hother
    exact iff_of_true rfl fun i heq => absurd heq (hother i)

/-- In every run there is one refresh at most and no pending request is dropped, in every state,
exactly if no refresh fails while requests are queued. -/
theorem mutexOk_throughout_iff (es : List Event) :
    Throughout step MutexOk {} es ↔ Along step (fun s e _ => FailsAlone s e) {} es := by
  have hinv : MutexInv {} := ⟨⟨rfl, fun _ => rfl⟩, List.nodup_nil, fun id hid => nomatch hid⟩
  have hstart : MutexOk {} := hinv.mutexOk_iff.mpr fun id hid => nomatch hid
  rw [throughout_iff_along (I := MutexInv) (C := FailsAlone) (fun s e t hs h => hs.step h) ?_ hinv es]
  · exact and_iff_right hstart
  · intro s e t hs hok h
    rw [(hs.step h).mutexOk_iff, (step_moved h).covered_iff hs.held (hs.mutexOk_iff.mp hok)]
    exact dropped_eq_nil_iff

end

/-- Two requests are answered 401. The first one refreshes the tokens, and that fails. -/
def failedRefresh : List Event :=
  [.setTokens (some "a") (some "r"), .send 1, .send 2, .response 0 (.error (some 401)),
    .response 0 (.error (some 401)), .refreshResponse 0 .failed]

/-- The second request stays pending, and nothing is left that could settle it. -/
theorem failedRefresh_dropsQueued : ¬Throughout step MutexOk {} failedRefresh := by
  intro h
  have hlast := throughout_iff_prefix.mp h failedRefresh [] _ (List.append_nil _).symm rfl
  rcases hlast.waiting 2 rfl with ⟨c, hc, -⟩ | ⟨⟨config, hconfig, -⟩, -⟩
  · exact List.not_mem_nil hc
  · exact List.not_mem_nil hconfig

end LegalForge.Frontend
