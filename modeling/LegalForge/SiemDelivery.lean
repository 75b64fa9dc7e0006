import LegalForge.SiemPush

/-! Which committed audit entries reach the SIEM, over every interleaving of requests and workers. -/
namespace LegalForge.Audit
open Transition ReadCommitted

variable {Tx : Type*}

/-- A webhook or a syslog host is configured. -/
def Configured (config : SiemConfig) : Prop :=
  (nonempty config.webhookUrl).isSome = true ∨ (nonempty config.syslogHost).isSome = true

/-- Every committed entry without a job left has been handed over, if there is a destination; and
what has been handed over is committed. -/
structure SiemComplete (config : Option SiemConfig) (s : SiemState Tx) : Prop where
  delivered : ∀ c ∈ config, Configured c → ∀ e ∈ s.writers.committed,
    (∀ job ∈ s.jobs, job.auditLogId ≠ e.id) → ∃ sending, (e, sending) ∈ s.handed
  committed : ∀ x ∈ s.handed, x.1 ∈ s.writers.committed

/-- The attempt finds what it needs to hand the entry to the first destination. -/
def Delivers (decryptField : String → Option String) (config : SiemConfig) (attempt : Attempt)
    (e : AuditLog) : Prop :=
  attempt.databaseUp = true ∧ (auditEvent e).isSome = true ∧
    if (nonempty config.webhookUrl).isSome then
      (webhookSecret decryptField config).isSome = true ∧ attempt.webhookQueued = true
    else attempt.syslogQueued = true

/-- A transaction commits while the jobs of its entries are still queued, and the last attempt for
a committed entry delivers it, unless an earlier one did. -/
def JobsInTime (decryptField : String → Option String) (config : Option SiemConfig)
    (s : SiemState Tx) : SiemLabel Tx → Prop
  | .request (.commit t) _ =>
    ∀ c ∈ config, Configured c → ∀ e ∈ (s.writers.session t).pending,
      ∃ job ∈ s.jobs, job.auditLogId = e.id
  | .request _ _ => True
  | .work i attempt =>
    ∀ c ∈ config, Configured c → ∀ job ∈ s.jobs[i]?, ∀ e ∈ s.writers.committed,
      e.id = job.auditLogId →
        Delivers decryptField c attempt e ∨ job.retries < 3 ∧ attempt.retryQueued = true ∨
        (∃ sending, (e, sending) ∈ s.handed) ∨
        ∃ k, k ≠ i ∧ ∃ job' ∈ s.jobs[k]?, job'.auditLogId = e.id

section
variable {decryptField : String → Option String} {config : Option SiemConfig} {c : SiemConfig}
  {attempt : Attempt} {rows : List AuditLog} {e : AuditLog}

/-- Only the entry of the job is handed over, and only when it is committed. -/
theorem sent_mem {auditLogId : Uuid} {x : AuditLog × Sending}
    (h : x ∈ (pushSiemEvent decryptField config rows attempt auditLogId).sent) :
    x.1 ∈ rows ∧ x.1.id = auditLogId := by
  unfold pushSiemEvent at h
  split_ifs at h
  · cases h
  · split at h
    · cases h
    · rename_i log hfind
      have hlog : log ∈ rows ∧ log.id = auditLogId :=
        ⟨Table.mem_of_find hfind, Table.key_of_find hfind⟩
      split at h
      · cases h
      · split at h
        · cases h
        · unfold sendEvent at h
          split at h
          · cases h
          · split at h
            · obtain ⟨sending, -, rfl⟩ := List.mem_map.mp h
              exact hlog
            · obtain ⟨sending, -, rfl⟩ := List.mem_map.mp h
              exact hlog

variable (decryptField attempt e) in
/-- Both destinations in turn: the first one configured decides whether anything is sent. -/
theorem sendEvent_of_configured (hconfigured : Configured c) (event : AuditEventJSON) :
    let reached := if (nonempty c.webhookUrl).isSome then
      (webhookSecret decryptField c).isSome = true ∧ attempt.webhookQueued = true
      else attempt.syslogQueued = true
    ((∃ sending, (e, sending) ∈ (sendEvent decryptField c attempt e event).sent) ↔ reached) ∧
      (¬reached → (sendEvent decryptField c attempt e event).raised = true) := by
  intro reached
  cases hurl : nonempty c.webhookUrl with
  | none =>
    have hhost : (nonempty c.syslogHost).isSome = true := by
      rcases hconfigured with hwebhook | hhost
      · rw [hurl] at hwebhook
        cases hwebhook
      · exact hhost
    obtain ⟨host, hhost⟩ := Option.isSome_iff_exists.mp hhost
    by_cases hqueued : attempt.syslogQueued = true
    · simp [reached, sendEvent, pushWebhook, pushSyslog, hurl, hhost, hqueued]
    · simp [reached, sendEvent, pushWebhook, pushSyslog, hurl, hhost, hqueued]
  | some url =>
    cases hsecret : webhookSecret decryptField c with
    | none => simp [reached, sendEvent, pushWebhook, hurl, hsecret]
    | some secret =>
      by_cases hqueued : attempt.webhookQueued = true
      · -- the webhook has the entry, whatever becomes of the syslog
        cases hsyslog : pushSyslog c attempt event with
        | none => simp [reached, sendEvent, pushWebhook, hurl, hsecret, hqueued, hsyslog]
        | some sent' => simp [reached, sendEvent, pushWebhook, hurl, hsecret, hqueued, hsyslog]
      · simp [reached, sendEvent, pushWebhook, hurl, hsecret, hqueued]

/-- An attempt for a committed entry hands it over, or ends with an exception. -/
theorem pushSiemEvent_of_configured (hconfigured : Configured c) {auditLogId : Uuid}
    (hfind : Table.find AuditLog.id auditLogId rows = some e) :
    ((∃ sending, (e, sending) ∈ (pushSiemEvent decryptField (some c) rows attempt auditLogId).sent) ↔
        Delivers decryptField c attempt e) ∧
      (¬Delivers decryptField c attempt e →
        (pushSiemEvent decryptField (some c) rows attempt auditLogId).raised = true) := by
  unfold Delivers
  by_cases hup : attempt.databaseUp = true
  · cases hevent : auditEvent e with
    | none => simp [pushSiemEvent, hup, hfind, hevent]
    | some event =>
      obtain ⟨hsent, hraised⟩ := sendEvent_of_configured decryptField attempt e hconfigured event
      simp only [pushSiemEvent, hup, hfind, hevent, Bool.not_true, Bool.false_eq_true, if_false,
        Option.isSome_some, true_and]
      exact ⟨hsent, hraised⟩
  · simp [pushSiemEvent, hup]

end

section
variable {sha256 : String → String} {decryptField : String → Option String}
  {config : Option SiemConfig} [DecidableEq Tx] {s s' : SiemState Tx}

/-- The identifiers of the entries are distinct, those not committed yet included. -/
def SiemInv (sha256 : String → String) (s : SiemState Tx) : Prop :=
  Holds (RowsHashed sha256) (WriterInv sha256) s.writers

theorem siemStep_request {l : WriterLabel Tx} {queued : Bool}
    (hstep : siemStep sha256 decryptField config s (.request l queued) = some s') :
    ∃ writers, step (auditProgram sha256) s.writers l = some writers ∧
      s' = ⟨writers, s.jobs++enqueueSiemPush queued l, s.handed⟩ := by
  unfold siemStep at hstep
  obtain ⟨writers, hwriters, hs⟩ := Option.map_eq_some_iff.mp hstep
  exact ⟨writers, hwriters, hs.symm⟩

theorem siemInv_step {l : SiemLabel Tx} (h : SiemInv sha256 s)
    (hstep : siemStep sha256 decryptField config s l = some s') : SiemInv sha256 s' := by
  cases l with
  | request l queued =>
    obtain ⟨writers, hwriters, rfl⟩ := siemStep_request hstep
    exact (auditOutline sha256).holds_step h hwriters
  | work i attempt =>
    obtain ⟨job, -, rfl⟩ := Option.map_eq_some_iff.mp hstep
    exact h

omit [DecidableEq Tx] in
/-- A step that adds jobs only. -/
theorem SiemComplete.more_jobs (h : SiemComplete config s) {writers : WriterState Tx}
    (hwriters : writers.committed = s.writers.committed) (jobs : List SiemJob) :
    SiemComplete config ⟨writers, s.jobs++jobs, s.handed⟩ := by
  constructor
  · intro c hc hconfigured e he hnone
    rw [hwriters] at he
    exact h.delivered c hc hconfigured e he fun job hjob =>
      hnone job (List.mem_append_left jobs hjob)
  · intro x hx
    rw [hwriters]
    exact h.committed x hx

/-- A commit is in time exactly when the jobs of its entries are still there. -/
theorem siemComplete_commit_iff {t : Tx} {queued : Bool} (hinv : SiemInv sha256 s)
    (hcomplete : SiemComplete config s)
    (hstep : siemStep sha256 decryptField config s (.request (.commit t) queued) = some s') :
    SiemComplete config s' ↔ JobsInTime decryptField config s (.request (.commit t) queued) := by
  obtain ⟨writers, hwriters, rfl⟩ := siemStep_request hstep
  obtain ⟨db, m, hpub, rfl⟩ := step_commit_eq_some.mp hwriters
  obtain ⟨pending, hsess, rfl, rfl⟩ := publish_eq_some hpub
  have hfresh : ∀ e ∈ s.writers.committed, ∀ f ∈ pending, e.id ≠ f.id := by
    have hrows := (hinv.2 t).1
    rw [hsess] at hrows
    exact (rowsHashed_append.mp hrows).2.2
  simp only [enqueueSiemPush, List.append_nil]
  simp only [JobsInTime, hsess, Writer.pending]
  constructor
  · intro h c hc hconfigured e he
    by_contra hnone
    push Not at hnone
    obtain ⟨sending, hsent⟩ := h.delivered c hc hconfigured e (List.mem_append_right _ he) hnone
    -- nothing has been handed over before it was committed
    exact hfresh e (hcomplete.committed _ hsent) e he rfl
  · intro h
    constructor
    · intro c hc hconfigured e he hnone
      rcases List.mem_append.mp he with hold | hnew
      · exact hcomplete.delivered c hc hconfigured e hold hnone
      · obtain ⟨job, hjob, hid⟩ := h c hc hconfigured e hnew
        exact absurd hid (hnone job hjob)
    · intro x hx
      exact List.mem_append_left _ (hcomplete.committed x hx)

section
variable {rows : List AuditLog} {jobs : List SiemJob} {handed : List (AuditLog × Sending)} {i : ℕ}
  {job : SiemJob} {e : AuditLog} {c : SiemConfig} {attempt : Attempt}

/-- The jobs other than one of them are those that stay when it is worked on. -/
theorem forall_mem_eraseIdx_iff {p : SiemJob → Prop} :
    (∀ job' ∈ jobs.eraseIdx i, p job') ↔ ∀ k, k ≠ i → ∀ job' ∈ jobs[k]?, p job' := by
  constructor
  · intro h k hk job' hget
    exact h job' (List.mem_eraseIdx_iff_getElem?.mpr ⟨k, hk, hget⟩)
  · intro h job' hjob'
    obtain ⟨k, hk, hget⟩ := List.mem_eraseIdx_iff_getElem?.mp hjob'
    exact h k hk job' hget

theorem retry_eq_nil (h : ¬(job.retries < 3 ∧ attempt.retryQueued = true)) : retry attempt job = [] :=
  if_neg h

/-- An attempt for an entry leaves neither a job for it nor a delivery, only if it fails for the
last time. -/
theorem worked_iff (hconfigured : Configured c) (hid : e.id = job.auditLogId)
    (hfind : Table.find AuditLog.id job.auditLogId rows = some e) :
    let pushed := pushSiemEvent decryptField (some c) rows attempt job.auditLogId
    ((∀ job' ∈ jobs.eraseIdx i++(if pushed.raised then retry attempt job else []),
        job'.auditLogId ≠ e.id) → ∃ sending, (e, sending) ∈ handed++pushed.sent) ↔
      Delivers decryptField c attempt e ∨ job.retries < 3 ∧ attempt.retryQueued = true ∨
        (∃ sending, (e, sending) ∈ handed) ∨
        ∃ k, k ≠ i ∧ ∃ job' ∈ jobs[k]?, job'.auditLogId = e.id := by
  intro pushed
  have hpushed : ((∃ sending, (e, sending) ∈ pushed.sent) ↔ Delivers decryptField c attempt e) ∧
      (¬Delivers decryptField c attempt e → pushed.raised = true) :=
    pushSiemEvent_of_configured hconfigured hfind
  obtain ⟨hsent, hraised⟩ := hpushed
  constructor
  · intro h
    by_contra hnot
    push Not at hnot
    obtain ⟨hfails, hlast, hnever, halone⟩ := hnot
    have hretry : retry attempt job = [] := retry_eq_nil fun h => hlast h.1 h.2
    -- no job for the entry is left, and nothing has been sent
    have hnone : ∀ job' ∈ jobs.eraseIdx i++(if pushed.raised then retry attempt job else []),
        job'.auditLogId ≠ e.id := by
      rw [hretry, ite_self, List.append_nil]
      exact forall_mem_eraseIdx_iff.mpr halone
    obtain ⟨sending, hmem⟩ := h hnone
    rcases List.mem_append.mp hmem with hold | hnew
    · exact hnever sending hold
    · exact hfails (hsent.mp ⟨sending, hnew⟩)
  · intro h hnone
    by_cases hdelivers : Delivers decryptField c attempt e
    · obtain ⟨sending, hmem⟩ := hsent.mpr hdelivers
      exact ⟨sending, List.mem_append_right _ hmem⟩
    · rcases h with hdelivers' | hretry | ⟨sending, hmem⟩ | ⟨k, hk, job', hget, hother⟩
      · exact absurd hdelivers' hdelivers
      · -- the exception puts the job back
        have hback : (⟨job.auditLogId, job.retries+1⟩ : SiemJob) ∈
            jobs.eraseIdx i++(if pushed.raised then retry attempt job else []) := by
          rw [hraised hdelivers, if_pos rfl, retry, if_pos hretry]
          exact List.mem_append_right _ (List.mem_singleton_self _)
        have hother := hnone _ hback
        exact absurd hid.symm hother
      · exact ⟨sending, List.mem_append_left _ hmem⟩
      · have hleft := forall_mem_eraseIdx_iff.mp
          (fun job' hjob' => hnone job' (List.mem_append_left _ hjob')) k hk job' hget
        exact absurd hother hleft

end

omit [DecidableEq Tx] in
/-- An attempt for one entry leaves the jobs of the others. -/
theorem SiemComplete.delivered_other (h : SiemComplete config s) {c : SiemConfig} (hc : c ∈ config)
    (hconfigured : Configured c) {i : ℕ} {job : SiemJob} (hjob : s.jobs[i]? = some job) {e : AuditLog}
    (he : e ∈ s.writers.committed) (hid : e.id ≠ job.auditLogId)
    (hnone : ∀ job' ∈ s.jobs.eraseIdx i, job'.auditLogId ≠ e.id) :
    ∃ sending, (e, sending) ∈ s.handed := by
  apply h.delivered c hc hconfigured e he
  intro job' hjob' hsame
  obtain ⟨k, hget⟩ := List.mem_iff_getElem?.mp hjob'
  by_cases hk : k = i
  · rw [hk, hjob] at hget
    obtain rfl := Option.some.inj hget
    exact hid hsame.symm
  · exact forall_mem_eraseIdx_iff.mp hnone k hk job' hget hsame

/-- The last attempt for a committed entry has to deliver it. -/
theorem siemComplete_work_iff {i : ℕ} {attempt : Attempt} (hinv : SiemInv sha256 s)
    (hcomplete : SiemComplete config s)
    (hstep : siemStep sha256 decryptField config s (.work i attempt) = some s') :
    SiemComplete config s' ↔ JobsInTime decryptField config s (.work i attempt) := by
  obtain ⟨job, hjob, rfl⟩ := Option.map_eq_some_iff.mp hstep
  have hnodup : (s.writers.committed.map AuditLog.id).Nodup := hinv.1.1
  simp only [JobsInTime]
  constructor
  · rintro h c rfl hconfigured job' hjob' e he hid
    obtain rfl : job = job' := Option.some.inj (hjob.symm.trans hjob')
    have hfind := (Table.find_eq_some_iff hnodup).mpr ⟨he, hid⟩
    exact (worked_iff hconfigured hid hfind).mp (h.delivered c rfl hconfigured e he)
  · intro h
    constructor
    · rintro c rfl hconfigured e he hnone
      by_cases hid : e.id = job.auditLogId
      · have hfind := (Table.find_eq_some_iff hnodup).mpr ⟨he, hid⟩
        exact (worked_iff hconfigured hid hfind).mpr (h c rfl hconfigured job hjob e he hid) hnone
      · obtain ⟨sending, hmem⟩ := hcomplete.delivered_other rfl hconfigured hjob he hid
          fun job' hjob' => hnone job' (List.mem_append_left _ hjob')
        exact ⟨sending, List.mem_append_left _ hmem⟩
    · intro x hx
      rcases List.mem_append.mp hx with hold | hnew
      · exact hcomplete.committed x hold
      · exact (sent_mem hnew).1

theorem siemComplete_step_iff {l : SiemLabel Tx} (hinv : SiemInv sha256 s)
    (hcomplete : SiemComplete config s)
    (hstep : siemStep sha256 decryptField config s l = some s') :
    SiemComplete config s' ↔ JobsInTime decryptField config s l := by
  cases l with
  | request l queued =>
    cases l with
    | commit t => exact siemComplete_commit_iff hinv hcomplete hstep
    | stmt t a =>
      obtain ⟨writers, hwriters, rfl⟩ := siemStep_request hstep
      exact iff_of_true (hcomplete.more_jobs (step_committed_eq hwriters nofun) _) trivial
    | rollback t =>
      obtain ⟨writers, hwriters, rfl⟩ := siemStep_request hstep
      exact iff_of_true (hcomplete.more_jobs (step_committed_eq hwriters nofun) _) trivial
  | work i attempt => exact siemComplete_work_iff hinv hcomplete hstep

/-- No request is under way, and the audit log is empty. -/
def siemStart : SiemState Tx :=
  ⟨start [] (.active []), [], []⟩

omit [DecidableEq Tx] in
theorem siemInv_start : SiemInv sha256 (siemStart : SiemState Tx) := by
  have hnil : RowsHashed sha256 [] := ⟨List.nodup_nil, fun _ h => absurd h List.not_mem_nil⟩
  exact holds_start hnil ⟨hnil, fun _ h => absurd h List.not_mem_nil⟩

/-- In every interleaving of requests and workers no committed entry is lost, and no other one is
handed over, exactly when the jobs are in time. -/
theorem siemComplete_throughout_iff (sha256 : String → String)
    (decryptField : String → Option String) (config : Option SiemConfig)
    (ls : List (SiemLabel Tx)) :
    Throughout (siemStep sha256 decryptField config) (SiemComplete config) siemStart ls ↔
      Along (siemStep sha256 decryptField config) (fun s l _ => JobsInTime decryptField config s l)
        siemStart ls := by
  have hstart : SiemComplete config (siemStart : SiemState Tx) :=
    ⟨fun _ _ _ _ he => absurd he List.not_mem_nil, fun _ hx => absurd hx List.not_mem_nil⟩
  rw [throughout_iff_along (I := SiemInv sha256) (C := JobsInTime decryptField config)
    (fun _ _ _ hinv hstep => siemInv_step hinv hstep)
    (fun _ _ _ hinv hcomplete hstep => siemComplete_step_iff hinv hcomplete hstep) siemInv_start ls]
  exact and_iff_right hstart

end

/-- A firm that sends its audit entries to a webhook. -/
def webhookConfig : SiemConfig where
  webhookUrl := some "https://siem.firm.test/hook"

/-- The worker is faster than the transaction. -/
def jobFirst : List (SiemLabel ℕ) :=
  [.request (.stmt 0 (.readLast ⟨none, "user", "7", "login", none, none, none, none, "success"⟩ none))
     true,
   .request (.stmt 0 (.insert 1 atNoon)) true, .work 0 {}, .request (.commit 0) true]

/-- The job finds no entry and is not tried again; then the entry is committed. -/
theorem not_siemComplete_jobFirst :
    ¬Throughout (siemStep sampleDigest some (some webhookConfig))
      (SiemComplete (some webhookConfig)) siemStart jobFirst := by
  intro h
  have hlast := throughout_iff_prefix.mp h jobFirst [] _ (List.append_nil _).symm rfl
  obtain ⟨sending, hsent⟩ := hlast.delivered webhookConfig rfl (Or.inl rfl)
    (loginRow sampleDigest)
    (List.mem_singleton_self _) (fun _ hjob => absurd hjob List.not_mem_nil)
  exact absurd hsent List.not_mem_nil

end LegalForge.Audit
