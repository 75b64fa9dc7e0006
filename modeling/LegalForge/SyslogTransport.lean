import LegalForge.FieldEncryption
import LegalForge.LineFrames
import LegalForge.TransitionRun

/-! The syslog sender: calls that run at the same time share connections, and go on
with a new one when the old one fails. -/
namespace LegalForge.SyslogSender
open Auth (Bytes)
open Encryption (encodeUtf8)
open Transition

/-- The arguments of `SyslogSender.send`. -/
structure Request where
  host : String
  port : ℕ
  protocol : String
  message : String
  tlsCaCert : Option String := none

/-- The key of a connection. Those over UDP have a table of their own, which the
protocol in the key stands for. -/
structure ConnectionKey where
  host : String
  port : ℕ
  protocol : String
  deriving DecidableEq

def Request.key (req : Request) : ConnectionKey :=
  ⟨req.host, req.port, req.protocol⟩

/-- The byte `\n` -/
def newline : UInt8 := 10

/-- What one write puts on the wire: a datagram, or the message and a newline. -/
def Request.frame (req : Request) : Bytes :=
  if req.protocol = "udp" then encodeUtf8 req.message else encodeUtf8 req.message++[newline]

/-- A connection, with the writes made to it and the calls that made them. -/
structure Connection (Call : Type) where
  key : ConnectionKey
  writes : List (Call × Bytes) := []
  closing : Bool := false

/-- How far a call has come. It waits for the buffer of a connection to drain, or for a
new connection to open. -/
inductive Progress where
  | idle
  | draining (req : Request) (connection : ℕ) (fresh : Bool)
  | opening (req : Request)
  | returned (req : Request)
  | failed (req : Request)

/-- The request a call has been made with. -/
def Progress.request : Progress → Option Request
  | .idle => none
  | .draining req _ _ => some req
  | .opening req => some req
  | .returned req => some req
  | .failed req => some req

structure Sender (Call : Type) where
  connections : List (Connection Call) := []
  /-- `_tcp_connections` and `_udp_transports` -/
  table : ConnectionKey → Option ℕ := fun _ => none
  calls : Call → Progress := fun _ => .idle

/-- A call runs until it waits, the others in between. `wrote` is false where the write
raises. -/
inductive SenderLabel (Call : Type) where
  | send (call : Call) (req : Request) (wrote : Bool)
  | drained (call : Call) (ok : Bool)
  /-- `open_connection` or `create_datagram_endpoint` returns. -/
  | opened (call : Call) (wrote : Bool)
  /-- It raises, or the certificates before it do. -/
  | refused (call : Call)
  | cancelled (call : Call)
  | lost (connection : ℕ)

variable {Call : Type} [DecidableEq Call]

omit [DecidableEq Call] in
def Sender.alterConnection (s : Sender Call) (i : ℕ) (f : Connection Call → Connection Call) :
    Sender Call :=
  { s with connections := s.connections.modify i f }

def Sender.setCall (s : Sender Call) (call : Call) (progress : Progress) : Sender Call :=
  { s with calls := Function.update s.calls call progress }

def Connection.write (call : Call) (bytes : Bytes) (c : Connection Call) : Connection Call :=
  { c with writes := c.writes++[(call, bytes)] }

def Connection.close (c : Connection Call) : Connection Call :=
  { c with closing := true }

/-- The connection in the table, unless it is closing. -/
def Sender.live (s : Sender Call) (key : ConnectionKey) : Option ℕ :=
  (s.table key).filter (fun i => (s.connections[i]?).any (fun c => !c.closing))

def step (s : Sender Call) : SenderLabel Call → Option (Sender Call)
  | .send call req wrote =>
    match s.calls call with
    | .idle =>
      if req.protocol ∉ ["udp", "tcp", "tls"] then some (s.setCall call (.failed req))
      else
        match s.live req.key with
        | none => some (s.setCall call (.opening req))
        | some i =>
          if wrote then
            -- a datagram is not waited for
            let next := if req.protocol = "udp" then .returned req else .draining req i false
            some ((s.alterConnection i (Connection.write call req.frame)).setCall call next)
          else if req.protocol = "udp" then some (s.setCall call (.failed req))
          else some ((s.alterConnection i Connection.close).setCall call (.opening req))
    | _ => none
  | .drained call ok =>
    match s.calls call with
    | .draining req i fresh =>
      if ok then some (s.setCall call (.returned req))
      else if fresh then some (s.setCall call (.failed req))
      else some ((s.alterConnection i Connection.close).setCall call (.opening req))
    | _ => none
  | .opened call wrote =>
    match s.calls call with
    | .opening req =>
      let i := s.connections.length
      let connection : Connection Call := ⟨req.key, if wrote then [(call, req.frame)] else [], false⟩
      let next := if !wrote then .failed req
        else if req.protocol = "udp" then .returned req else .draining req i true
      some (({ s with
        connections := s.connections++[connection]
        table := Function.update s.table req.key (some i) } : Sender Call).setCall call next)
    | _ => none
  | .refused call =>
    match s.calls call with
    | .opening req => some (s.setCall call (.failed req))
    | _ => none
  | .cancelled call =>
    match s.calls call with
    | .opening req => some (s.setCall call (.failed req))
    | .draining req _ _ => some (s.setCall call (.failed req))
    | _ => none
  | .lost i => some (s.alterConnection i Connection.close)

/-- The bytes that have been given to a connection. -/
def Connection.stream (c : Connection Call) : Bytes :=
  c.writes.flatMap Prod.snd

/-- The message of a call. -/
def Sender.messageOf (s : Sender Call) (call : Call) : Bytes :=
  ((s.calls call).request.map (fun req => encodeUtf8 req.message)).getD []

/-- The connections with what has been written to them. -/
def Sender.log (s : Sender Call) : List (ConnectionKey × List (Call × Bytes)) :=
  s.connections.map (fun c => (c.key, c.writes))

/-- All the writes a call has made. -/
def Sender.writesBy (s : Sender Call) (call : Call) : List (Call × Bytes) :=
  (s.connections.flatMap Connection.writes).filter (fun w => w.1 = call)

/-- The call has written its message. -/
def Progress.served : Progress → Bool
  | .draining _ _ _ => true
  | .returned _ => true
  | _ => false

/-- How often a call may have written its message. -/
def Progress.bound : Progress → ℕ
  | .idle => 0
  | .opening _ => 1
  | .draining _ _ fresh => if fresh then 2 else 1
  | _ => 2

omit [DecidableEq Call] in
theorem log_close (s : Sender Call) (i : ℕ) :
    (s.alterConnection i Connection.close).log = s.log := by
  refine List.ext_getElem? fun j => ?_
  simp only [Sender.log, Sender.alterConnection, List.getElem?_map, List.getElem?_modify]
  cases s.connections[j]? with
  | none => rfl
  | some c => by_cases h : i = j <;> simp [h, Connection.close]

omit [DecidableEq Call] in
/-- A live connection has the key it is found under in the log, if the table is right. -/
theorem log_write {s : Sender Call} {i : ℕ} {key : ConnectionKey} (hlive : s.live key = some i)
    (call : Call) (bytes : Bytes) :
    s.table key = some i ∧ ∃ front c back, front.length = i ∧ s.log = front++c :: back ∧
      (s.alterConnection i (Connection.write call bytes)).log =
        front++(c.1, c.2++[(call, bytes)]) :: back := by
  obtain ⟨htable, hopen⟩ := Option.filter_eq_some_iff.mp hlive
  have hlt : i < s.connections.length := by
    by_contra hge
    rw [List.getElem?_eq_none (by omega)] at hopen
    cases hopen
  obtain ⟨front, c, back, hsplit, hlength, hmodify⟩ :=
    List.exists_of_modify (Connection.write call bytes) hlt
  refine ⟨htable, front.map (fun c => (c.key, c.writes)), (c.key, c.writes),
    back.map (fun c => (c.key, c.writes)), ?_, ?_, ?_⟩
  · rw [List.length_map, hlength]
  · rw [Sender.log, hsplit, List.map_append, List.map_cons]
  · rw [Sender.log, Sender.alterConnection, hmodify, List.map_append, List.map_cons]
    rfl

theorem bound_le_two (progress : Progress) : progress.bound ≤ 2 := by
  cases progress with
  | draining req i fresh => cases fresh <;> simp [Progress.bound]
  | _ => simp [Progress.bound]

/-- What a step can do: a connection is lost, or one call goes on with its request. -/
inductive Effect (s t : Sender Call) : Prop where
  | lost (log : t.log = s.log) (table : t.table = s.table) (calls : t.calls = s.calls)
  | waited {call : Call} {req : Request} {next : Progress} (log : t.log = s.log)
      (table : t.table = s.table) (calls : t.calls = Function.update s.calls call next)
      (request : next.request = some req)
      (before : s.calls call = .idle ∨ (s.calls call).request = some req)
      (bound : (s.calls call).bound ≤ next.bound)
      (served : next.served = true → (s.calls call).served = true)
  /-- On the connection that the table has for the key. -/
  | wrote {call : Call} {req : Request} {next : Progress}
      {front back : List (ConnectionKey × List (Call × Bytes))}
      {c : ConnectionKey × List (Call × Bytes)} (log : s.log = front++c :: back)
      (log' : t.log = front++(c.1, c.2++[(call, req.frame)]) :: back)
      (found : s.table req.key = some front.length)
      (table : t.table = s.table) (calls : t.calls = Function.update s.calls call next)
      (request : next.request = some req) (before : s.calls call = .idle)
      (bound : 1 ≤ next.bound)
  | opened {call : Call} {req : Request} {next : Progress} {writes : List (Call × Bytes)}
      (log : t.log = s.log++[(req.key, writes)])
      (table : t.table = Function.update s.table req.key (some s.log.length))
      (calls : t.calls = Function.update s.calls call next)
      (request : next.request = some req) (before : s.calls call = .opening req)
      (bound : next.bound = 2)
      (wrote : (writes = [] ∧ next.served = false) ∨ writes = [(call, req.frame)])

omit [DecidableEq Call] in
theorem length_log (s : Sender Call) : s.log.length = s.connections.length :=
  List.length_map _

theorem effect_send {s t : Sender Call} {call : Call} {req : Request} {wrote : Bool}
    (h : step s (.send call req wrote) = some t) : Effect s t := by
  simp only [step] at h
  cases hcall : s.calls call with
  | idle =>
    rw [hcall] at h
    dsimp only at h
    by_cases hprotocol : req.protocol ∉ ["udp", "tcp", "tls"]
    · rw [if_pos hprotocol] at h
      obtain rfl := Option.some.inj h
      exact .waited rfl rfl rfl rfl (Or.inl hcall) (by simp [hcall, Progress.bound]) (fun hserved => absurd hserved Bool.false_ne_true)
    · rw [if_neg hprotocol] at h
      cases hlive : s.live req.key with
      | none =>
        -- a connection has to be opened first
        rw [hlive] at h
        obtain rfl := Option.some.inj h
        exact .waited rfl rfl rfl rfl (Or.inl hcall) (by simp [hcall, Progress.bound]) (fun hserved => absurd hserved Bool.false_ne_true)
      | some i =>
        rw [hlive] at h
        dsimp only at h
        obtain ⟨htable, front, c, back, rfl, hlog, hlog'⟩ := log_write hlive call req.frame
        by_cases hwrote : wrote = true
        · rw [if_pos hwrote] at h
          obtain rfl := Option.some.inj h
          refine .wrote hlog hlog' htable rfl rfl ?_ hcall ?_
          · split_ifs <;> rfl
          · split_ifs <;> simp [Progress.bound]
        · -- writing has failed: a stream is closed, a datagram socket stays
          rw [if_neg hwrote] at h
          by_cases hudp : req.protocol = "udp"
          · rw [if_pos hudp] at h
            obtain rfl := Option.some.inj h
            exact .waited rfl rfl rfl rfl (Or.inl hcall) (by simp [hcall, Progress.bound]) (fun hserved => absurd hserved Bool.false_ne_true)
          · rw [if_neg hudp] at h
            obtain rfl := Option.some.inj h
            exact .waited (log_close s _) rfl rfl rfl (Or.inl hcall)
              (by simp [hcall, Progress.bound]) (fun hserved => absurd hserved Bool.false_ne_true)
  | draining _ _ _ => rw [hcall] at h; cases h
  | opening _ => rw [hcall] at h; cases h
  | returned _ => rw [hcall] at h; cases h
  | failed _ => rw [hcall] at h; cases h

theorem effect_drained {s t : Sender Call} {call : Call} {ok : Bool}
    (h : step s (.drained call ok) = some t) : Effect s t := by
  simp only [step] at h
  cases hcall : s.calls call with
  | draining req i fresh =>
    rw [hcall] at h
    dsimp only at h
    have hrequest : (s.calls call).request = some req := by rw [hcall]; rfl
    by_cases hok : ok = true
    · rw [if_pos hok] at h
      obtain rfl := Option.some.inj h
      exact .waited rfl rfl rfl rfl (Or.inr hrequest)
        (by rw [hcall]; cases fresh <;> simp [Progress.bound]) (fun _ => by rw [hcall]; rfl)
    · rw [if_neg hok] at h
      cases fresh with
      | true =>
        obtain rfl := Option.some.inj h
        exact .waited rfl rfl rfl rfl (Or.inr hrequest) (by rw [hcall]; exact le_rfl) (fun hserved => absurd hserved Bool.false_ne_true)
      | false =>
        obtain rfl := Option.some.inj h
        exact .waited (log_close s i) rfl rfl rfl (Or.inr hrequest) (by rw [hcall]; exact le_rfl)
          (fun hserved => absurd hserved Bool.false_ne_true)
  | idle => rw [hcall] at h; cases h
  | opening _ => rw [hcall] at h; cases h
  | returned _ => rw [hcall] at h; cases h
  | failed _ => rw [hcall] at h; cases h

theorem effect_opened {s t : Sender Call} {call : Call} {wrote : Bool}
    (h : step s (.opened call wrote) = some t) : Effect s t := by
  simp only [step] at h
  cases hcall : s.calls call with
  | opening req =>
    rw [hcall] at h
    dsimp only at h
    obtain rfl := Option.some.inj h
    have hlog : ∀ writes, (s.connections++[(⟨req.key, writes, false⟩ : Connection Call)]).map
        (fun c => (c.key, c.writes)) = s.log++[(req.key, writes)] := by
      intro writes
      rw [List.map_append]
      rfl
    refine .opened (hlog _) ?_ rfl ?_ hcall ?_ ?_
    · rw [length_log]
      rfl
    · split_ifs <;> rfl
    · split_ifs <;> rfl
    · cases wrote
      · exact Or.inl ⟨rfl, rfl⟩
      · exact Or.inr rfl
  | idle => rw [hcall] at h; cases h
  | draining _ _ _ => rw [hcall] at h; cases h
  | returned _ => rw [hcall] at h; cases h
  | failed _ => rw [hcall] at h; cases h

theorem effect_step {s t : Sender Call} {l : SenderLabel Call} (h : step s l = some t) :
    Effect s t := by
  cases l with
  | send call req wrote => exact effect_send h
  | drained call ok => exact effect_drained h
  | opened call wrote => exact effect_opened h
  | refused call =>
    simp only [step] at h
    cases hcall : s.calls call <;> rw [hcall] at h <;> try cases h
    exact .waited rfl rfl rfl rfl (Or.inr (by rw [hcall]; rfl))
      (by rw [hcall]; simp [Progress.bound]) (fun hserved => absurd hserved Bool.false_ne_true)
  | cancelled call =>
    simp only [step] at h
    cases hcall : s.calls call <;> rw [hcall] at h <;> try cases h
    all_goals
      exact .waited rfl rfl rfl rfl (Or.inr (by rw [hcall]; rfl))
        (by rw [hcall]; exact bound_le_two _) (fun hserved => absurd hserved Bool.false_ne_true)
  | lost i =>
    obtain rfl := Option.some.inj h
    exact .lost (log_close s i) rfl rfl

/-- What every run keeps: the table leads to connections for its keys, each write is of the
message of the call that made it, a call that is done has written, and none writes more
often than it may. -/
structure Sound (s : Sender Call) : Prop where
  keyed : ∀ key i, s.table key = some i → (s.log.map Prod.fst)[i]? = some key
  owned : ∀ c ∈ s.log, ∀ w ∈ c.2, ∃ req, (s.calls w.1).request = some req ∧ c.1 = req.key ∧
    w.2 = req.frame
  served : ∀ call req, (s.calls call).served = true → (s.calls call).request = some req →
    ∃ c ∈ s.log, c.1 = req.key ∧ (call, req.frame) ∈ c.2
  counted : ∀ call, (s.writesBy call).length ≤ (s.calls call).bound

theorem writesBy_eq (s : Sender Call) (call : Call) :
    s.writesBy call = (s.log.flatMap Prod.snd).filter (fun w => w.1 = call) := by
  rw [Sender.writesBy, Sender.log, List.flatMap_map]

/-- A call keeps the request it was made with. -/
theorem request_update {calls : Call → Progress} {call other : Call} {req r : Request}
    {next : Progress} (hnext : next.request = some req)
    (hbefore : calls call = .idle ∨ (calls call).request = some req)
    (h : (calls other).request = some r) :
    (Function.update calls call next other).request = some r := by
  by_cases hother : other = call
  · subst hother
    rw [Function.update_self]
    rcases hbefore with hidle | hreq
    · rw [hidle] at h
      cases h
    · rw [hnext, ← hreq, h]
  · rwa [Function.update_of_ne hother]

theorem sound_start : Sound ({} : Sender Call) where
  keyed := by
    intro key i h
    cases h
  owned := by
    intro c hc
    cases hc
  served := by
    intro call req h
    cases h
  counted := fun call => Nat.zero_le _

/-- A call goes on, and nothing is written. -/
theorem Sound.waited {s t : Sender Call} (hs : Sound s) {call : Call} {req : Request}
    {next : Progress} (hlog : t.log = s.log) (htable : t.table = s.table)
    (hcalls : t.calls = Function.update s.calls call next) (hnext : next.request = some req)
    (hbefore : s.calls call = .idle ∨ (s.calls call).request = some req)
    (hbound : (s.calls call).bound ≤ next.bound)
    (hserved : next.served = true → (s.calls call).served = true) : Sound t where
  keyed := by
    rw [hlog, htable]
    exact hs.keyed
  owned := by
    intro c hc w hw
    rw [hlog] at hc
    obtain ⟨r, hr, hkey, hframe⟩ := hs.owned c hc w hw
    exact ⟨r, by rw [hcalls]; exact request_update hnext hbefore hr, hkey, hframe⟩
  served := by
    intro other r hdone hr
    rw [hcalls] at hdone hr
    rw [hlog]
    by_cases hother : other = call
    · -- the call had its message written before, so this step is not its first
      subst hother
      rw [Function.update_self] at hdone hr
      have hbefore' := hserved hdone
      refine hs.served other r hbefore' ?_
      rcases hbefore with hidle | hreq
      · rw [hidle] at hbefore'
        cases hbefore'
      · rw [hreq, ← hnext, hr]
    · rw [Function.update_of_ne hother] at hdone hr
      exact hs.served other r hdone hr
  counted := by
    intro other
    have hsame : t.writesBy other = s.writesBy other := by rw [writesBy_eq, writesBy_eq, hlog]
    rw [hsame, hcalls]
    by_cases hother : other = call
    · subst hother
      rw [Function.update_self]
      exact (hs.counted other).trans hbound
    · rw [Function.update_of_ne hother]
      exact hs.counted other

/-- A connection to begin with, before anything is written to it. -/
def Sender.withConnection (s : Sender Call) (key : ConnectionKey) : Sender Call :=
  { s with
    connections := s.connections++[⟨key, [], false⟩]
    table := Function.update s.table key (some s.log.length) }

omit [DecidableEq Call] in
theorem log_withConnection (s : Sender Call) (key : ConnectionKey) :
    (s.withConnection key).log = s.log++[(key, [])] := by
  rw [Sender.log, Sender.withConnection, List.map_append]
  rfl

theorem Sound.withConnection {s : Sender Call} (hs : Sound s) (key : ConnectionKey) :
    Sound (s.withConnection key) where
  keyed := by
    intro other i h
    have htable : Function.update s.table key (some s.log.length) other = some i := h
    rw [log_withConnection, List.map_append]
    by_cases hother : other = key
    · -- the new connection is the last one of the log
      subst hother
      rw [Function.update_self] at htable
      rw [← Option.some.inj htable, List.getElem?_append_right (by rw [List.length_map]), List.length_map, Nat.sub_self]
      rfl
    · rw [Function.update_of_ne hother] at htable
      have hold := hs.keyed other i htable
      rwa [List.getElem?_append_left (List.getElem?_eq_some_iff.mp hold).1]
  owned := by
    intro c hc
    rw [log_withConnection, List.mem_append, List.mem_singleton] at hc
    rcases hc with hc | rfl
    · exact hs.owned c hc
    · intro w hw
      cases hw
  served := by
    intro call req hdone hreq
    obtain ⟨c, hc, hwritten⟩ := hs.served call req hdone hreq
    refine ⟨c, ?_, hwritten⟩
    rw [log_withConnection]
    exact List.mem_append_left _ hc
  counted := by
    intro call
    have hsame : (s.withConnection key).writesBy call = s.writesBy call := by
      rw [writesBy_eq, writesBy_eq, log_withConnection, List.flatMap_append]
      simp
    rw [hsame]
    exact hs.counted call

/-- A call writes its message to the connection that the table has for its key. -/
theorem Sound.wrote {s t : Sender Call} (hs : Sound s) {call : Call} {req : Request}
    {next : Progress} {front back : List (ConnectionKey × List (Call × Bytes))}
    {c : ConnectionKey × List (Call × Bytes)} (hlog : s.log = front++c :: back)
    (hlog' : t.log = front++(c.1, c.2++[(call, req.frame)]) :: back)
    (hfound : s.table req.key = some front.length) (htable : t.table = s.table)
    (hcalls : t.calls = Function.update s.calls call next) (hnext : next.request = some req)
    (hbefore : s.calls call = .idle ∨ (s.calls call).request = some req)
    (hbound : (s.calls call).bound+1 ≤ next.bound) : Sound t := by
  have hkeys : t.log.map Prod.fst = s.log.map Prod.fst := by
    rw [hlog, hlog', List.map_append, List.map_append, List.map_cons, List.map_cons]
  have hkey : c.1 = req.key := by
    have hat := hs.keyed req.key front.length hfound
    rw [hlog, List.map_append, List.getElem?_append_right (by rw [List.length_map]),
      List.length_map, Nat.sub_self] at hat
    exact Option.some.inj hat
  -- the connections written to before are there, with what they had
  have hkept : ∀ d ∈ s.log, ∃ d' ∈ t.log, d'.1 = d.1 ∧ d.2 ⊆ d'.2 := by
    intro d hd
    rw [hlog, List.mem_append, List.mem_cons] at hd
    rw [hlog']
    rcases hd with hd | rfl | hd
    · exact ⟨d, List.mem_append_left _ hd, rfl, List.Subset.refl _⟩
    · exact ⟨_, List.mem_append_right _ List.mem_cons_self, rfl, List.subset_append_left _ _⟩
    · exact ⟨d, List.mem_append_right _ (List.mem_cons_of_mem _ hd), rfl, List.Subset.refl _⟩
  refine ⟨?_, ?_, ?_, ?_⟩
  · rw [htable, hkeys]
    exact hs.keyed
  · intro d hd w hw
    have hold : (∃ d' ∈ s.log, d'.1 = d.1 ∧ w ∈ d'.2) ∨ (d.1 = req.key ∧ w = (call, req.frame)) := by
      rw [hlog', List.mem_append, List.mem_cons] at hd
      rw [hlog]
      rcases hd with hd | rfl | hd
      · exact Or.inl ⟨d, List.mem_append_left _ hd, rfl, hw⟩
      · rcases List.mem_append.mp hw with hw | hw
        · exact Or.inl ⟨c, List.mem_append_right _ List.mem_cons_self, rfl, hw⟩
        · exact Or.inr ⟨hkey, List.mem_singleton.mp hw⟩
      · exact Or.inl ⟨d, List.mem_append_right _ (List.mem_cons_of_mem _ hd), rfl, hw⟩
    rw [hcalls]
    rcases hold with ⟨d', hd', hsame, hw'⟩ | ⟨hd, rfl⟩
    · obtain ⟨r, hr, hrkey, hframe⟩ := hs.owned d' hd' w hw'
      exact ⟨r, request_update hnext hbefore hr, by rw [← hsame, hrkey], hframe⟩
    · exact ⟨req, by rw [Function.update_self, hnext], hd, rfl⟩
  · intro other r hdone hr
    rw [hcalls] at hdone hr
    by_cases hother : other = call
    · subst hother
      rw [Function.update_self, hnext] at hr
      obtain rfl := Option.some.inj hr
      refine ⟨(c.1, c.2++[(other, req.frame)]), ?_, hkey, by simp⟩
      rw [hlog']
      exact List.mem_append_right _ List.mem_cons_self
    · rw [Function.update_of_ne hother] at hdone hr
      obtain ⟨d, hd, hdkey, hwritten⟩ := hs.served other r hdone hr
      obtain ⟨d', hd', hsame, hsub⟩ := hkept d hd
      exact ⟨d', hd', by rw [hsame, hdkey], hsub hwritten⟩
  · intro other
    have hcount : (t.writesBy other).length =
        (s.writesBy other).length+if call = other then 1 else 0 := by
      rw [writesBy_eq, writesBy_eq, hlog, hlog']
      simp only [List.flatMap_append, List.flatMap_cons, List.filter_append, List.length_append,
        List.filter_cons, List.filter_nil]
      by_cases hsame : call = other
      · simp only [hsame, decide_true, if_true, List.length_singleton]
        omega
      · simp [hsame]
    rw [hcount, hcalls]
    have hbefore := hs.counted other
    by_cases hother : other = call
    · subst hother
      rw [Function.update_self, if_pos rfl]
      omega
    · rw [Function.update_of_ne hother, if_neg (Ne.symm hother)]
      exact hbefore

theorem Sound.effect {s t : Sender Call} (hs : Sound s) (h : Effect s t) : Sound t := by
  cases h with
  | lost hlog htable hcalls =>
    refine ⟨by rw [hlog, htable]; exact hs.keyed, by rw [hlog, hcalls]; exact hs.owned,
      by rw [hlog, hcalls]; exact hs.served, fun call => ?_⟩
    have hsame : t.writesBy call = s.writesBy call := by rw [writesBy_eq, writesBy_eq, hlog]
    rw [hsame, hcalls]
    exact hs.counted call
  | waited hlog htable hcalls hnext hbefore hbound hserved =>
    exact hs.waited hlog htable hcalls hnext hbefore hbound hserved
  | wrote hlog hlog' hfound htable hcalls hnext hbefore hbound =>
    refine hs.wrote hlog hlog' hfound htable hcalls hnext (Or.inl hbefore) ?_
    rw [hbefore]
    exact hbound
  | @opened call req next writes hlog htable hcalls hnext hbefore hbound hwrote =>
    have hopened := hs.withConnection req.key
    have hrequest : (s.calls call).request = some req := by rw [hbefore]; rfl
    rcases hwrote with ⟨rfl, hserved⟩ | rfl
    · refine hopened.waited (by rw [hlog, log_withConnection]) htable hcalls hnext (Or.inr hrequest)
        ?_ ?_
      · rw [hbound]
        exact bound_le_two _
      · rw [hserved]
        exact fun hfalse => absurd hfalse Bool.false_ne_true
    · refine hopened.wrote (log_withConnection s req.key) hlog (Function.update_self _ _ _) htable
        hcalls hnext (Or.inr hrequest) ?_
      show (s.calls call).bound+1 ≤ next.bound
      rw [hbefore, hbound]
      exact le_rfl

/-- UTF-8 has the byte of a newline for a newline only. -/
theorem newline_mem_utf8EncodeChar {c : Char} (h : newline ∈ String.utf8EncodeChar c) : c = '\n' := by
  have hbyte : ∀ n, newline = UInt8.ofNat n → n%256 = 10 := by
    intro n hn
    have hvalue := congrArg UInt8.toNat hn
    rw [UInt8.toNat_ofNat'] at hvalue
    exact hvalue.symm
  unfold String.utf8EncodeChar at h
  dsimp only at h
  split_ifs at h <;> simp only [List.mem_cons, List.not_mem_nil, or_false] at h
  · have hten := hbyte _ h
    have hval : c.val.toNat = 10 := by omega
    exact Char.ext (UInt32.toNat_inj.mp hval)
  · rcases h with h | h <;> have := hbyte _ h <;> omega
  · rcases h with h | h | h <;> have := hbyte _ h <;> omega
  · rcases h with h | h | h | h <;> have := hbyte _ h <;> omega

theorem newline_notMem_encodeUtf8 {text : String} (h : '\n' ∉ text.toList) :
    newline ∉ encodeUtf8 text := by
  intro hmem
  rw [encodeUtf8, ← String.ofList_toList (s := text), String.toUTF8_eq_toByteArray,
    String.toByteArray_ofList, List.utf8Encode, List.toList_data_toByteArray] at hmem
  obtain ⟨c, hc, hnewline⟩ := List.mem_flatMap.mp hmem
  rw [newline_mem_utf8EncodeChar hnewline] at hc
  exact h hc

omit [DecidableEq Call] in
theorem mem_log {s : Sender Call} {c : Connection Call} (hc : c ∈ s.connections) :
    (c.key, c.writes) ∈ s.log :=
  List.mem_map_of_mem hc

/-- A stream is the messages of its calls, each with a newline behind it. -/
theorem Sound.stream_eq {s : Sender Call} (hs : Sound s) {c : Connection Call}
    (hc : c ∈ s.connections) (hprotocol : c.key.protocol ≠ "udp") :
    c.stream = LineFrames.encode newline (c.writes.map fun w => s.messageOf w.1) := by
  rw [Connection.stream, LineFrames.encode, List.flatMap_map]
  refine List.flatMap_congr fun w hw => ?_
  obtain ⟨req, hreq, hkey, hframe⟩ := hs.owned _ (mem_log hc) w hw
  have htcp : req.protocol ≠ "udp" := by
    have hprotocols := congrArg ConnectionKey.protocol hkey
    exact fun heq => hprotocol (hprotocols.trans heq)
  rw [hframe, Request.frame, if_neg htcp, Sender.messageOf, hreq]
  rfl

end LegalForge.SyslogSender
