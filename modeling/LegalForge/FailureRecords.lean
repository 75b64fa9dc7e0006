import LegalForge.PaymentLinks
import LegalForge.SignatureExpiry
import LegalForge.WebauthnLogin

/-! Four routes write down why they fail, and then raise. -/
namespace LegalForge.FailureRecords
open UnitOfWork

structure Tables where
  billing : Billing.Db
  esign : Esign.TrailDb
  auth : Auth.WebauthnDb

inductive Request where
  /-- `POST /pay/{access_token}/complete` -/
  | complete (accessToken : String) (data : Payments.CompletePaymentRequest) (now : Datetime)
      (today : Date) (paymentId : Uuid)
  /-- `GET /sign/{access_token}` -/
  | view (env : Esign.Environment) (accessToken : String) (ipAddress userAgent : Option String)
  /-- `POST /sign/{access_token}` -/
  | sign (env : Esign.Environment) (accessToken : String) (ipAddress userAgent : Option String)
  /-- `POST /webauthn/authenticate/complete` -/
  | webauthn (cfg : Auth.Config) (verify : Auth.Verifier) (env : Auth.WebauthnEnvironment)
      (data : Auth.WebAuthnAuthCompleteRequest)

inductive Response where
  | link (link : Billing.PaymentLink)
  | page (info : Esign.SigningPageInfo)
  | signed (signer : Esign.Signer)
  | login (response : Auth.LoginResponse)

/-- A `ValueError` of the service, as the route answers it. -/
def paymentError : Payments.PaymentError → HttpError
  | .foreignKey => .internal
  | error => ⟨400, error.message⟩

/-- A result over a part of the tables. -/
def answer {α σ : Type} (response : α → Response) (put : σ → Tables)
    (result : Except HttpError α × σ) : Except HttpError Response × Tables :=
  (result.1.map response, put result.2)

def handle (r : Request) : Handler Tables HttpError Response := fun t =>
  match r with
  | .complete accessToken data now today paymentId =>
    let (result, db) := Payments.markPaymentLinkPaid t.billing accessToken data now today paymentId none
    answer .link (fun db => { t with billing := db }) (result.mapError paymentError, db)
  | .view env accessToken ipAddress userAgent =>
    answer .page (fun db => { t with esign := db })
      (Esign.getSigningPageInfo env t.esign accessToken ipAddress userAgent)
  | .sign env accessToken ipAddress userAgent =>
    answer .signed (fun db => { t with esign := db })
      (Esign.signDocument env t.esign accessToken ipAddress userAgent)
  | .webauthn cfg verify env data =>
    answer .login (fun db => { t with auth := db })
      (Auth.webauthnAuthenticateComplete cfg verify env data t.auth)

/-- What the route records, for a request that finds the tables `t`, is in the tables `t'`. -/
def Recorded (r : Request) (t t' : Tables) : Prop :=
  match r with
  | .complete accessToken _ _ _ _ =>
    ∃ link, Payments.getPaymentLinkByToken t.billing accessToken = some link ∧
      (Payments.getPaymentLink t'.billing link.id).map Billing.PaymentLink.status = some .expired
  | .view env accessToken _ _ =>
    ∃ signer request, Esign.findSigning t.esign accessToken = .ok (signer, request) ∧
      Esign.requestStatus t'.esign.toDb request.id = some .expired ∧
      Esign.expiredEntry env request ∈ t'.esign.entries
  | .sign _ accessToken _ _ =>
    ∃ signer request, Esign.findSigning t.esign accessToken = .ok (signer, request) ∧
      Esign.requestStatus t'.esign.toDb request.id = some .expired
  | .webauthn _ _ env data =>
    ∃ user e, Auth.pendingUser t.auth.db data.tempToken env.now = .ok user ∧ e ∈ t'.auth.logs ∧
      e.id = env.draw.entryId ∧ e.userId = some user.id ∧ e.action = "webauthn_login_failed"

/-- A route that records its failure before it raises has it recorded afterwards. -/
def RecordSurvives (r : Request) (t : Tables) : Prop :=
  Survives (handle r) (Recorded r t) t

/-- No credential of the user answers a challenge that is still there. -/
def WebauthnRefused (verify : Auth.Verifier) (env : Auth.WebauthnEnvironment) (s : Auth.WebauthnDb)
    (user : Auth.User) (credentialData : Json) : Prop :=
  ∀ challenge matching newSignCount, env.challenge = .ok (some challenge) →
    Auth.matchingCredential s user credentialData = some matching →
    verify credentialData challenge matching.publicKey matching.signCount ≠ .ok newSignCount

/-- The request comes to the place where its route records a failure. -/
def ReachesFailure (r : Request) (t : Tables) : Prop :=
  match r with
  | .complete accessToken _ now _ _ =>
    ∃ link, Payments.getPaymentLinkByToken t.billing accessToken = some link ∧
      link.status = .active ∧ Payments.isExpired link now = true
  | .view env accessToken _ _ =>
    ∃ signer request, Esign.findSigning t.esign accessToken = .ok (signer, request) ∧
      Esign.isExpired request env.now = true ∧ ∀ e ∈ t.esign.entries, e.id ≠ env.entryIds 0
  | .sign env accessToken _ _ =>
    ∃ signer request, Esign.findSigning t.esign accessToken = .ok (signer, request) ∧
      Esign.isExpired request env.now = true
  | .webauthn _ verify env data =>
    ∃ user, Auth.pendingUser t.auth.db data.tempToken env.now = .ok user ∧
      WebauthnRefused verify env t.auth user data.credential ∧
      (Esign.optVarchar 45 env.client).isSome ∧ ∀ e ∈ t.auth.logs, e.id ≠ env.draw.entryId

theorem answer_eq_error {α σ : Type} {response : α → Response} {put : σ → Tables}
    {result : Except HttpError α × σ} {e : HttpError} {t' : Tables} :
    answer response put result = (.error e, t') ↔ ∃ s', result = (.error e, s') ∧ t' = put s' := by
  obtain ⟨⟨e'⟩ | ⟨a⟩, s'⟩ := result
  · constructor
    · intro h
      obtain ⟨he, rfl⟩ := Prod.mk.inj h
      obtain rfl := Except.error.inj he
      exact ⟨s', rfl, rfl⟩
    · rintro ⟨s₁, h, rfl⟩
      obtain ⟨he, rfl⟩ := Prod.mk.inj h
      obtain rfl := Except.error.inj he
      rfl
  · constructor
    · intro h
      cases (Prod.mk.inj h).1
    · rintro ⟨s₁, h, -⟩
      cases (Prod.mk.inj h).1

theorem raisesWith_complete {accessToken : String} {data : Payments.CompletePaymentRequest}
    {now : Datetime} {today : Date} {paymentId : Uuid} {t : Tables}
    (hnot : ¬Recorded (.complete accessToken data now today paymentId) t t) :
    RaisesWith (handle (.complete accessToken data now today paymentId))
        (Recorded (.complete accessToken data now today paymentId) t) t ↔
      ReachesFailure (.complete accessToken data now today paymentId) t := by
  simp only [RaisesWith, handle, Payments.markPaymentLinkPaid]
  constructor
  · rintro ⟨e, t', hresult, hrecorded⟩
    split at hresult
    · obtain ⟨-, rfl⟩ := Prod.mk.inj hresult
      exact absurd hrecorded hnot
    · rename_i link hlink
      split_ifs at hresult with hactive hexpired
      · obtain ⟨-, rfl⟩ := Prod.mk.inj hresult
        exact absurd hrecorded hnot
      · exact ⟨link, hlink, not_not.mp hactive, hexpired⟩
      · split at hresult
        · obtain ⟨-, rfl⟩ := Prod.mk.inj hresult
          exact absurd hrecorded hnot
        · cases (Prod.mk.inj hresult).1
  · rintro ⟨link, hlink, hactive, hexpired⟩
    simp only [hlink, hactive, hexpired, ne_eq, not_true_eq_false, if_false, if_true]
    refine ⟨_, _, rfl, link, hlink, ?_⟩
    have hwritten : Payments.getPaymentLink
        (Payments.setLink t.billing (Payments.expiredLink link)) link.id =
          some (Payments.expiredLink link) :=
      Table.find_alter_const (Table.mem_of_find hlink) rfl rfl
    rw [hwritten, Option.map_some]
    rfl

theorem recordView_requests {env : Esign.Environment} {db db' : Esign.TrailDb}
    {signer signer' : Esign.Signer} {request : Esign.SignatureRequest}
    {ipAddress userAgent : Option String}
    (h : Esign.recordView env db signer request ipAddress userAgent = some (signer', db')) :
    db'.requests = db.requests := by
  unfold Esign.recordView at h
  split_ifs at h
  · obtain ⟨db₁, hentry, h⟩ := Option.map_eq_some_iff.mp h
    obtain ⟨rfl, rfl⟩ := Prod.mk.inj h
    exact (Esign.insertEntry_logged hentry).requests_eq
  · obtain ⟨-, rfl⟩ := Prod.mk.inj (Option.some.inj h)
    rfl

theorem requestStatus_expired {db : Esign.TrailDb} {request : Esign.SignatureRequest}
    (hfound : Esign.getRequest db.toDb request.id = some request) :
    Esign.requestStatus (Esign.setRequest db (Esign.expiredRequest request)).toDb request.id =
      some .expired := by
  have hwritten : Table.find Esign.SignatureRequest.id request.id
      (Esign.setRequest db (Esign.expiredRequest request)).requests =
        some (Esign.expiredRequest request) :=
    Table.find_alter_const (Table.mem_of_find hfound) rfl rfl
  exact congrArg (Option.map Esign.SignatureRequest.status) hwritten

section
variable {env : Esign.Environment} {accessToken : String} {ipAddress userAgent : Option String}
  {t : Tables} {signer signer' : Esign.Signer} {request : Esign.SignatureRequest} {db' : Esign.TrailDb}

/-- The request is open, and a view does not write it. -/
theorem not_recorded_of_recordView
    (hfind : Esign.findSigning t.esign accessToken = .ok (signer, request))
    (hopen : Esign.isOpen request = true)
    (hview : Esign.recordView env t.esign signer request ipAddress userAgent = some (signer', db')) :
    ¬Recorded (.view env accessToken ipAddress userAgent) t { t with esign := db' } := by
  rintro ⟨_, _, hfind', hstatus, -⟩
  rw [hfind] at hfind'
  obtain ⟨-, rfl⟩ := Prod.mk.inj (Except.ok.inj hfind')
  rw [Esign.requestStatus, Esign.getRequest, recordView_requests hview] at hstatus
  have hfound := Esign.findSigning_found hfind
  rw [Esign.getRequest] at hfound
  rw [hfound, Option.map_some, Option.some.injEq] at hstatus
  rw [Esign.isOpen, hstatus] at hopen
  exact absurd hopen (by decide)

theorem textColumn_expiredEntry (env : Esign.Environment) (request : Esign.SignatureRequest) :
    Deadlines.nullable Deadlines.textColumn (Esign.expiredEntry env request).details =
      some (Esign.expiredEntry env request).details := by
  rw [Esign.expiredEntry, Deadlines.nullable, Esign.textColumn_eq_some_iff.mpr ⟨by decide, rfl⟩,
    Option.map_some]

variable (request) in
/-- The entry of an expiry can be stored under a new id. -/
theorem exists_insertEntry_expired (hfresh : ∀ e ∈ t.esign.entries, e.id ≠ env.entryIds 0) :
    ∃ db', Esign.insertEntry (Esign.setRequest t.esign (Esign.expiredRequest request))
      (Esign.expiredEntry env request) = some db' := by
  refine Option.isSome_iff_exists.mp (Esign.insertEntry_isSome_iff.mpr ⟨rfl, rfl, ?_, hfresh⟩)
  rw [textColumn_expiredEntry]
  rfl

theorem recorded_of_insertEntry
    (hfind : Esign.findSigning t.esign accessToken = .ok (signer, request))
    (hentry : Esign.insertEntry (Esign.setRequest t.esign (Esign.expiredRequest request))
      (Esign.expiredEntry env request) = some db') :
    Recorded (.view env accessToken ipAddress userAgent) t { t with esign := db' } := by
  have hlogged := Esign.insertEntry_logged hentry
  refine ⟨signer, request, hfind, ?_, ?_⟩
  · rw [Esign.requestStatus, Esign.getRequest, hlogged.requests_eq]
    exact requestStatus_expired (Esign.findSigning_found hfind)
  · obtain ⟨_, _, _, hip, hagent, hdetails, rfl⟩ := Esign.insertEntry_spec hentry
    obtain rfl := Option.some.inj hip
    obtain rfl := Option.some.inj hagent
    rw [textColumn_expiredEntry] at hdetails
    obtain rfl := Option.some.inj hdetails
    exact List.mem_append_right _ (List.mem_singleton.mpr rfl)

theorem reachesFailure_of_view
    (hnot : ¬Recorded (.view env accessToken ipAddress userAgent) t t) {e : HttpError} {t' : Tables}
    (hresult : handle (.view env accessToken ipAddress userAgent) t = (.error e, t'))
    (hrecorded : Recorded (.view env accessToken ipAddress userAgent) t t') :
    ReachesFailure (.view env accessToken ipAddress userAgent) t := by
  -- where nothing is written, nothing is recorded
  have hwritten : t ≠ t' := fun heq => hnot (heq ▸ hrecorded)
  simp only [handle, Esign.getSigningPageInfo] at hresult
  split at hresult
  · exact absurd (Prod.mk.inj hresult).2 hwritten
  · rename_i signer request hfind
    split_ifs at hresult with hexpired hopen
    · split at hresult
      · exact absurd (Prod.mk.inj hresult).2 hwritten
      · rename_i db' hentry
        have hstored := Esign.insertEntry_isSome_iff.mp (Option.isSome_of_eq_some hentry)
        exact ⟨signer, request, hfind, hexpired, hstored.2.2.2⟩
    · exact absurd (Prod.mk.inj hresult).2 hwritten
    · split at hresult
      · exact absurd (Prod.mk.inj hresult).2 hwritten
      · rename_i signer' db' hview
        have hlater := not_recorded_of_recordView hfind (by simpa using hopen) hview
        split at hresult
        · exact absurd hrecorded ((Prod.mk.inj hresult).2 ▸ hlater)
        · split at hresult
          · exact absurd hrecorded ((Prod.mk.inj hresult).2 ▸ hlater)
          · cases (Prod.mk.inj hresult).1

theorem raisesWith_view (hnot : ¬Recorded (.view env accessToken ipAddress userAgent) t t) :
    RaisesWith (handle (.view env accessToken ipAddress userAgent))
        (Recorded (.view env accessToken ipAddress userAgent) t) t ↔
      ReachesFailure (.view env accessToken ipAddress userAgent) t := by
  constructor
  · rintro ⟨e, t', hresult, hrecorded⟩
    exact reachesFailure_of_view hnot hresult hrecorded
  · rintro ⟨signer, request, hfind, hexpired, hfresh⟩
    obtain ⟨db', hentry⟩ := exists_insertEntry_expired request hfresh
    simp only [RaisesWith, handle, Esign.getSigningPageInfo, hfind, hexpired, if_true, hentry]
    exact ⟨_, _, rfl, recorded_of_insertEntry hfind hentry⟩

end

theorem raisesWith_sign {env : Esign.Environment} {accessToken : String}
    {ipAddress userAgent : Option String} {t : Tables}
    (hnot : ¬Recorded (.sign env accessToken ipAddress userAgent) t t) :
    RaisesWith (handle (.sign env accessToken ipAddress userAgent))
        (Recorded (.sign env accessToken ipAddress userAgent) t) t ↔
      ReachesFailure (.sign env accessToken ipAddress userAgent) t := by
  simp only [RaisesWith, handle, Esign.signDocument]
  constructor
  · rintro ⟨e, t', hresult, hrecorded⟩
    -- every other exception comes before the first write
    have hsame (h : t' = t) : False := hnot (h ▸ hrecorded)
    split at hresult
    · exact (hsame (Prod.mk.inj hresult).2.symm).elim
    · rename_i signer request hfind
      split_ifs at hresult with hexpired hopen hsigned hdeclined
      · exact ⟨signer, request, hfind, hexpired⟩
      · exact (hsame (Prod.mk.inj hresult).2.symm).elim
      · exact (hsame (Prod.mk.inj hresult).2.symm).elim
      · exact (hsame (Prod.mk.inj hresult).2.symm).elim
      · cases hrecord : Esign.recordSignature env t.esign signer request ipAddress userAgent with
        | none =>
          rw [hrecord] at hresult
          exact (hsame (Prod.mk.inj hresult).2.symm).elim
        | some pair =>
          rw [hrecord] at hresult
          cases (Prod.mk.inj hresult).1
  · rintro ⟨signer, request, hfind, hexpired⟩
    simp only [hfind, hexpired, if_true]
    exact ⟨_, _, rfl, signer, request, hfind, requestStatus_expired (Esign.findSigning_found hfind)⟩

theorem verifyCredential_eq_error {verify : Auth.Verifier} {env : Auth.WebauthnEnvironment}
    {s : Auth.WebauthnDb} {user : Auth.User} {credentialData : Json} :
    (∃ e, Auth.verifyCredential verify env s user credentialData = .error e) ↔
      WebauthnRefused verify env s user credentialData := by
  unfold Auth.verifyCredential
  split
  · rename_i message hchallenge
    refine iff_of_true ⟨_, rfl⟩ fun challenge _ _ h => ?_
    rw [hchallenge] at h
    cases h
  · rename_i hchallenge
    refine iff_of_true ⟨_, rfl⟩ fun challenge _ _ h => ?_
    rw [hchallenge] at h
    cases h
  · rename_i challenge hchallenge
    cases hmatching : Auth.matchingCredential s user credentialData with
    | none =>
      refine iff_of_true ⟨_, rfl⟩ fun _ _ _ _ h => ?_
      rw [hmatching] at h
      cases h
    | some matching =>
      -- the verifier answers or raises
      cases hverify : verify credentialData challenge matching.publicKey matching.signCount with
      | error e =>
        have herror : (verify credentialData challenge matching.publicKey matching.signCount).map
            (fun n => (matching, n)) = .error e := by
          rw [hverify]
          rfl
        refine iff_of_true ⟨e, herror⟩ fun challenge' matching' n h h' => ?_
        rw [hchallenge] at h
        rw [hmatching] at h'
        obtain rfl := Option.some.inj (Except.ok.inj h)
        obtain rfl := Option.some.inj h'
        rw [hverify]
        rintro ⟨⟩
      | ok n =>
        refine iff_of_false ?_ fun h => h challenge matching n hchallenge hmatching hverify
        rintro ⟨e, he⟩
        have hok : (Except.ok n : Except Auth.WebauthnException ℤ).map (fun n => (matching, n)) =
            .error e := hverify ▸ he
        cases hok

theorem insertAuditLog_isSome_iff {sha256 : String → String} {s : Auth.WebauthnDb}
    {call : Audit.AuditCall} {draw : Audit.AuditDraw} :
    (Auth.insertAuditLog sha256 s call draw).isSome = true ↔
      (Esign.optVarchar 45 call.ipAddress).isSome ∧ ∀ e ∈ s.logs, e.id ≠ draw.entryId := by
  unfold Auth.insertAuditLog
  cases Esign.optVarchar 45 call.ipAddress with
  | none => simp
  | some ipAddress =>
    simp only [List.all_eq_true, decide_eq_true_eq, Option.isSome_some, true_and]
    split_ifs with hfresh
    · exact iff_of_true rfl hfresh
    · exact iff_of_false (by decide) hfresh

theorem logs_issueWebauthn {cfg : Auth.Config} {env : Auth.WebauthnEnvironment}
    {s s' : Auth.WebauthnDb} {user : Auth.User} {e : HttpError}
    (h : Auth.issueWebauthn cfg env s user = (.error e, s')) : s'.logs = s.logs := by
  unfold Auth.issueWebauthn at h
  split at h
  · obtain ⟨-, rfl⟩ := Prod.mk.inj h
    rfl
  · dsimp only at h
    split at h
    · obtain ⟨-, rfl⟩ := Prod.mk.inj h
      rfl
    · cases (Prod.mk.inj h).1

theorem mem_insertAuditLog {sha256 : String → String} {s s' : Auth.WebauthnDb}
    {call : Audit.AuditCall} {draw : Audit.AuditDraw}
    (h : Auth.insertAuditLog sha256 s call draw = some s') :
    ∃ e ∈ s'.logs, e.id = draw.entryId ∧ e.userId = call.userId ∧ e.action = call.action := by
  unfold Auth.insertAuditLog at h
  split at h
  · cases h
  · split_ifs at h
    · obtain rfl := Option.some.inj h
      exact ⟨_, List.mem_append_right _ (List.mem_singleton_self _), rfl, rfl, rfl⟩

/-- The exception of a failed login, and the row if it can be flushed. -/
theorem failWebauthn_cases {cfg : Auth.Config} {env : Auth.WebauthnEnvironment}
    {s : Auth.WebauthnDb} (user : Auth.User) (message detail : String) :
    ∃ e s', Auth.failWebauthn cfg env s user message detail = (.error e, s') ∧
      (((Esign.optVarchar 45 env.client).isSome ∧ ∀ e ∈ s.logs, e.id ≠ env.draw.entryId) ∧
          (∃ e ∈ s'.logs, e.id = env.draw.entryId ∧ e.userId = some user.id ∧
            e.action = "webauthn_login_failed") ∨
        ¬((Esign.optVarchar 45 env.client).isSome ∧ ∀ e ∈ s.logs, e.id ≠ env.draw.entryId) ∧
          s' = s) := by
  have hiff : (Auth.insertAuditLog cfg.sha256 s (Auth.webauthnLoginFailed user message env.client)
      env.draw).isSome = true ↔
      (Esign.optVarchar 45 env.client).isSome ∧ ∀ e ∈ s.logs, e.id ≠ env.draw.entryId :=
    insertAuditLog_isSome_iff
  unfold Auth.failWebauthn
  split
  · rename_i hnone
    rw [hnone] at hiff
    exact ⟨_, _, rfl, Or.inr ⟨fun h => absurd (hiff.mpr h) (by decide), rfl⟩⟩
  · rename_i s' hsome
    rw [hsome] at hiff
    exact ⟨_, _, rfl, Or.inl ⟨hiff.mp rfl, mem_insertAuditLog hsome⟩⟩

/-- Whatever the second factor is refused for. -/
theorem webauthnAuthenticateComplete_refused {cfg : Auth.Config} {verify : Auth.Verifier}
    {env : Auth.WebauthnEnvironment} {data : Auth.WebAuthnAuthCompleteRequest}
    {s : Auth.WebauthnDb} {user : Auth.User}
    (huser : Auth.pendingUser s.db data.tempToken env.now = .ok user)
    (hrefused : WebauthnRefused verify env s user data.credential) :
    ∃ message detail, Auth.webauthnAuthenticateComplete cfg verify env data s =
      Auth.failWebauthn cfg env s user message detail := by
  obtain ⟨e, herror⟩ := verifyCredential_eq_error.mpr hrefused
  rw [Auth.webauthnAuthenticateComplete, huser]
  simp only [herror]
  cases e with
  | valueError message => exact ⟨_, _, rfl⟩
  | other message => exact ⟨_, _, rfl⟩

theorem webauthnAuthenticateComplete_error {cfg : Auth.Config} {verify : Auth.Verifier}
    {env : Auth.WebauthnEnvironment} {data : Auth.WebAuthnAuthCompleteRequest}
    {s s' : Auth.WebauthnDb} {e : HttpError}
    (h : Auth.webauthnAuthenticateComplete cfg verify env data s = (.error e, s')) :
    s'.logs = s.logs ∨ ∃ user, Auth.pendingUser s.db data.tempToken env.now = .ok user ∧
      WebauthnRefused verify env s user data.credential := by
  rw [Auth.webauthnAuthenticateComplete] at h
  cases huser : Auth.pendingUser s.db data.tempToken env.now with
  | error error =>
    rw [huser] at h
    obtain ⟨-, rfl⟩ := Prod.mk.inj h
    exact Or.inl rfl
  | ok user =>
    simp only [huser] at h
    cases hverify : Auth.verifyCredential verify env s user data.credential with
    | error failure => exact Or.inr ⟨user, rfl, verifyCredential_eq_error.mp ⟨failure, hverify⟩⟩
    | ok pair =>
      obtain ⟨matching, newSignCount⟩ := pair
      simp only [hverify] at h
      cases hset : Auth.setSignCount s matching newSignCount with
      | none =>
        rw [hset] at h
        obtain ⟨-, rfl⟩ := Prod.mk.inj h
        exact Or.inl rfl
      | some s₁ =>
        rw [hset] at h
        obtain ⟨signCount, -, rfl⟩ := Option.map_eq_some_iff.mp hset
        change Auth.issueWebauthn cfg env _ user = _ at h
        exact Or.inl ((logs_issueWebauthn h).trans rfl)

theorem raisesWith_webauthn {cfg : Auth.Config} {verify : Auth.Verifier}
    {env : Auth.WebauthnEnvironment} {data : Auth.WebAuthnAuthCompleteRequest} {t : Tables}
    (hnot : ¬Recorded (.webauthn cfg verify env data) t t) :
    RaisesWith (handle (.webauthn cfg verify env data)) (Recorded (.webauthn cfg verify env data) t)
        t ↔ ReachesFailure (.webauthn cfg verify env data) t := by
  constructor
  · rintro ⟨e, t', hresult, hrecorded⟩
    obtain ⟨s', hroute, rfl⟩ := answer_eq_error.mp hresult
    have hsame (h : s'.logs = t.auth.logs) : False := by
      refine hnot ?_
      rw [Recorded, ← h]
      exact hrecorded
    rcases webauthnAuthenticateComplete_error hroute with hlogs | ⟨user, huser, hrefused⟩
    · exact (hsame hlogs).elim
    · obtain ⟨message, detail, heq⟩ := webauthnAuthenticateComplete_refused huser hrefused
      rw [heq] at hroute
      obtain ⟨e', s₁, hfail, hcases⟩ := failWebauthn_cases user message detail
      obtain ⟨-, rfl⟩ := Prod.mk.inj (hroute.symm.trans hfail)
      rcases hcases with ⟨hfits, -⟩ | ⟨-, rfl⟩
      · exact ⟨user, huser, hrefused, hfits⟩
      · exact (hsame rfl).elim
  · rintro ⟨user, huser, hrefused, hfits⟩
    obtain ⟨message, detail, heq⟩ := webauthnAuthenticateComplete_refused huser hrefused
    obtain ⟨e, s', hfail, hcases⟩ := failWebauthn_cases user message detail
    obtain ⟨entry, hmem, hid, huserId, haction⟩ := (hcases.resolve_right fun h => h.1 hfits).2
    exact ⟨e, _, answer_eq_error.mpr ⟨s', heq.trans hfail, rfl⟩, user, entry, huser, hmem, hid,
      huserId, haction⟩

theorem raisesWith_iff {r : Request} {t : Tables} (hnot : ¬Recorded r t t) :
    RaisesWith (handle r) (Recorded r t) t ↔ ReachesFailure r t := by
  cases r with
  | complete accessToken data now today paymentId => exact raisesWith_complete hnot
  | view env accessToken ipAddress userAgent => exact raisesWith_view hnot
  | sign env accessToken ipAddress userAgent => exact raisesWith_sign hnot
  | webauthn cfg verify env data => exact raisesWith_webauthn hnot

/-- A failure is there after the response exactly when its route does not come to record it,
or when it was there before: the exception takes back what its session has written. -/
theorem recordSurvives_iff (r : Request) (t : Tables) :
    RecordSurvives r t ↔ ¬(ReachesFailure r t ∧ ¬Recorded r t t) := by
  rw [RecordSurvives, survives_iff]
  exact not_congr (and_congr_left fun hnot => raisesWith_iff hnot)

def lapsedTables : Tables where
  billing := .empty
  esign := Esign.lapsedDb
  auth := { db := ⟨[], [], [], []⟩, logs := [], credentials := [] }

/-- The signing page is opened after the expiry: its expiry is written and rolled back. -/
theorem not_recordSurvives_lapsed :
    ¬RecordSurvives (.view Esign.afterExpiry "9d41" none none) lapsedTables := by
  have hnot : ¬Recorded (.view Esign.afterExpiry "9d41" none none) lapsedTables lapsedTables := by
    rintro ⟨signer, request, -, -, hmem⟩
    cases hmem
  have hreaches : ReachesFailure (.view Esign.afterExpiry "9d41" none none) lapsedTables :=
    ⟨Esign.lapsedSigner, Esign.lapsedRequest, rfl, by decide, by decide⟩
  rw [RecordSurvives, survives_iff, not_not]
  exact ⟨(raisesWith_iff hnot).mpr hreaches, hnot⟩

end LegalForge.FailureRecords
