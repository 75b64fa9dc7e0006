import LegalForge.SignatureHistory

/-! What a signer can still do after the expiry of a request. -/
namespace LegalForge.Esign
open Auth Transition UnitOfWork Deadlines

def TrailCall.BySigner : TrailCall → Prop
  | .view _ _ _ => True
  | .sign _ _ _ => True
  | .decline _ _ _ _ => True
  | _ => False

/-- No signer of an expired request changes, and the request becomes nothing but expired. -/
def ExpiredStays (now : Instant) (db db' : Db) : Prop :=
  ∀ requestId request, getRequest db requestId = some request → isExpired request now = true →
    (requestStatus db' requestId = some request.status ∨
      requestStatus db' requestId = some .expired) ∧
    ∀ s ∈ signersOf db requestId, signerStatus db' s.id = signerStatus db s.id

/-- The entries of a refusal can be flushed. -/
structure DeclineFits (env : Environment) (db : TrailDb) (signer : Signer) (reason : String)
    (ipAddress userAgent : Option String) : Prop where
  reason_fits : '\x00' ∉ reason.toList
  name_fits : '\x00' ∉ signer.name.toList
  ip_fits : (optVarchar 45 ipAddress).isSome
  agent_fits : (optVarchar 500 userAgent).isSome
  fresh : ∀ e ∈ db.entries, e.id ≠ env.entryIds 0
  fresh_next : ∀ e ∈ db.entries, e.id ≠ env.entryIds 1
  ids_ne : env.entryIds 0 ≠ env.entryIds 1

/-- A signer whose request has expired, but is still open, declines it. -/
def LateDecline (db : TrailDb) (r : Environment × TrailCall) : Prop :=
  match r.2 with
  | .decline accessToken reason ipAddress userAgent =>
    ∃ signer request, findSigning db accessToken = .ok (signer, request) ∧
      isExpired request r.1.now = true ∧ isOpen request = true ∧
      signer.status ≠ .signed ∧ signer.status ≠ .declined ∧
      DeclineFits r.1 db signer reason.text ipAddress userAgent
  | _ => False

theorem textColumn_eq_some_iff {text text' : String} :
    textColumn text = some text' ↔ '\x00' ∉ text.toList ∧ text = text' := by
  unfold textColumn
  split_ifs with h
  · simp [h]
  · simp [h]

theorem insertEntry_isSome_iff {db : TrailDb} {entry : SignatureAuditEntry} :
    (insertEntry db entry).isSome = true ↔ (optVarchar 45 entry.ipAddress).isSome ∧
      (optVarchar 500 entry.userAgent).isSome ∧ (nullable textColumn entry.details).isSome ∧
      ∀ e ∈ db.entries, e.id ≠ entry.id := by
  rw [← Table.find_eq_none_iff, insertEntry]
  cases optVarchar 45 entry.ipAddress with
  | none => simp
  | some ip =>
    cases optVarchar 500 entry.userAgent with
    | none => simp
    | some agent =>
      cases nullable textColumn entry.details with
      | none => simp
      | some details =>
        cases hfind : Table.find SignatureAuditEntry.id entry.id db.entries with
        | none => simp [Table.insert, hfind]
        | some e => simp [Table.insert, hfind]

theorem insertEntry_entries {db db' : TrailDb} {entry : SignatureAuditEntry}
    (h : insertEntry db entry = some db') :
    ∃ e : SignatureAuditEntry, e.id = entry.id ∧ db'.entries = db.entries++[e] := by
  obtain ⟨ipAddress, userAgent, details, -, -, -, rfl⟩ := insertEntry_spec h
  refine ⟨_, ?_, rfl⟩
  rfl

section
variable {env : Environment} {db db' : TrailDb} {signer : Signer} {request : SignatureRequest}
  {reason : String} {ipAddress userAgent : Option String}

/-- What the first entry of a refusal needs. -/
theorem declinedEntry_isSome_iff :
    (insertEntry db (declinedEntry env signer request reason ipAddress userAgent)).isSome = true ↔
      (optVarchar 45 ipAddress).isSome ∧ (optVarchar 500 userAgent).isSome ∧
        ('\x00' ∉ signer.name.toList ∧ '\x00' ∉ reason.toList) ∧
        ∀ e ∈ db.entries, e.id ≠ env.entryIds 0 := by
  have hplain : '\x00' ∉ " declined to sign. Reason: ".toList := by decide
  rw [insertEntry_isSome_iff, declinedEntry]
  refine and_congr_right fun _ => and_congr_right fun _ => and_congr_left fun _ => ?_
  rw [nullable, Option.isSome_map, Option.isSome_iff_exists]
  simp only [textColumn_eq_some_iff, exists_and_left, exists_eq', and_true, String.toList_append,
    List.mem_append, not_or, hplain, not_false_eq_true]

theorem cancelledEntry_isSome_iff :
    (insertEntry db (cancelledEntry env request)).isSome = true ↔
      ∀ e ∈ db.entries, e.id ≠ env.entryIds 1 := by
  have hdetails : (nullable textColumn (cancelledEntry env request).details).isSome = true := by
    rw [cancelledEntry, nullable, Option.isSome_map, Option.isSome_iff_exists]
    exact ⟨_, textColumn_eq_some_iff.mpr ⟨by decide, rfl⟩⟩
  rw [insertEntry_isSome_iff]
  exact ⟨fun h => h.2.2.2, fun h => ⟨rfl, rfl, hdetails, h⟩⟩

theorem recordDecline_isSome_iff :
    (recordDecline env db signer request reason ipAddress userAgent).isSome = true ↔
      DeclineFits env db signer reason ipAddress userAgent := by
  constructor
  · intro h
    obtain ⟨result, h⟩ := Option.isSome_iff_exists.mp h
    obtain ⟨declineReason, -, h⟩ := Option.bind_eq_some_iff.mp h
    obtain ⟨db₁, hdeclined, h⟩ := Option.bind_eq_some_iff.mp h
    obtain ⟨db₂, hcancelled, -⟩ := Option.bind_eq_some_iff.mp h
    obtain ⟨hip, hagent, ⟨hname, hreason⟩, hfresh⟩ :=
      declinedEntry_isSome_iff.mp (Option.isSome_of_eq_some hdeclined)
    have hnext := cancelledEntry_isSome_iff.mp (Option.isSome_of_eq_some hcancelled)
    -- the second entry is written after the first
    obtain ⟨e, hid, hentries⟩ := insertEntry_entries hdeclined
    rw [hentries] at hnext
    refine ⟨hreason, hname, hip, hagent, hfresh, fun e he => ?_, fun heq => ?_⟩
    · exact hnext e (List.mem_append_left _ he)
    · exact hnext e (List.mem_append_right _ (List.mem_singleton_self e)) (hid.trans heq)
  · intro h
    have hreason : textColumn reason = some reason :=
      textColumn_eq_some_iff.mpr ⟨h.reason_fits, rfl⟩
    let changed := setRequest (setSigner db
      { signer with status := .declined, declineReason := some reason })
      { request with status := .cancelled }
    have hdeclined : (insertEntry changed
        (declinedEntry env signer request reason ipAddress userAgent)).isSome = true :=
      declinedEntry_isSome_iff.mpr
        ⟨h.ip_fits, h.agent_fits, ⟨h.name_fits, h.reason_fits⟩, h.fresh⟩
    obtain ⟨db₁, hdb₁⟩ := Option.isSome_iff_exists.mp hdeclined
    obtain ⟨e, hid, hentries⟩ := insertEntry_entries hdb₁
    have hcancelled : (insertEntry db₁ (cancelledEntry env request)).isSome = true := by
      refine cancelledEntry_isSome_iff.mpr fun e' he' => ?_
      rw [hentries] at he'
      rcases List.mem_append.mp he' with he' | he'
      · exact h.fresh_next e' he'
      · rw [List.mem_singleton.mp he', hid]
        exact h.ids_ne
    obtain ⟨db₂, hdb₂⟩ := Option.isSome_iff_exists.mp hcancelled
    simp only [changed] at hdb₁
    simp only [recordDecline, hreason, hdb₁, hdb₂, Option.bind_eq_bind, Option.bind_some,
      Option.isSome_some]

/-- A call on one request leaves the rows of the others and of their signers. -/
structure Touches (db db' : TrailDb) (signer : Signer) (request : SignatureRequest) : Prop where
  request_eq : ∀ requestId, requestId ≠ request.id →
    getRequest db'.toDb requestId = getRequest db.toDb requestId
  signer_eq : ∀ signerId, signerId ≠ signer.id →
    getSigner db'.toDb signerId = getSigner db.toDb signerId
  signers_ids : db'.signers.map Signer.id = db.signers.map Signer.id

theorem Logged.touches {db₁ : TrailDb} {requestId : Uuid} {new : List (Option Uuid × String)}
    (h : Logged requestId new db₁ db') (htouches : Touches db db₁ signer request) :
    Touches db db' signer request where
  request_eq := by
    intro id hid
    rw [getRequest, h.requests_eq]
    exact htouches.request_eq id hid
  signer_eq := by
    intro id hid
    rw [getSigner, h.signers_eq]
    exact htouches.signer_eq id hid
  signers_ids := by
    rw [h.signers_eq]
    exact htouches.signers_ids

theorem touches_setSigner {signer' : Signer} (request : SignatureRequest)
    (hid : signer'.id = signer.id) : Touches db (setSigner db signer') signer request where
  request_eq := fun _ _ => rfl
  signer_eq := fun _ hne =>
    Table.find_alter_of_ne (fun _ _ => rfl) (fun heq => hne (heq.trans hid)) db.signers
  signers_ids := Table.map_key_alter (fun _ _ => rfl) db.signers

theorem Touches.setRequest {request' : SignatureRequest} (h : Touches db db' signer request)
    (hid : request'.id = request.id) : Touches db (setRequest db' request') signer request where
  request_eq := by
    intro id hne
    rw [← h.request_eq id hne]
    exact Table.find_alter_of_ne (fun _ _ => rfl) (fun heq => hne (heq.trans hid)) db'.requests
  signer_eq := h.signer_eq
  signers_ids := h.signers_ids

theorem touches_refl (db : TrailDb) (signer : Signer) (request : SignatureRequest) :
    Touches db db signer request :=
  ⟨fun _ _ => rfl, fun _ _ => rfl, rfl⟩

theorem recordView_touches {signer' : Signer}
    (h : recordView env db signer request ipAddress userAgent = some (signer', db')) :
    Touches db db' signer request := by
  unfold recordView at h
  split_ifs at h
  · obtain ⟨db₁, hentry, h⟩ := Option.map_eq_some_iff.mp h
    obtain ⟨rfl, rfl⟩ := Prod.mk.inj h
    refine (insertEntry_logged hentry).touches (touches_setSigner request ?_)
    rfl
  · obtain ⟨-, rfl⟩ := Prod.mk.inj (Option.some.inj h)
    exact touches_refl db signer request

theorem recordSignature_touches {signer' : Signer}
    (h : recordSignature env db signer request ipAddress userAgent = some (signer', db')) :
    Touches db db' signer request := by
  obtain ⟨db₁, hid, -, -, hlogged, h⟩ := recordSignature_spec h
  have hbefore := (hlogged.touches (touches_setSigner request hid)).setRequest
    (id_requestAfterSign signer request (signersOf db₁.toDb request.id) env.now)
  split_ifs at h
  · exact h.touches hbefore
  · exact h ▸ hbefore

theorem recordDecline_touches {signer' : Signer}
    (h : recordDecline env db signer request reason ipAddress userAgent = some (signer', db')) :
    Touches db db' signer request := by
  obtain ⟨declineReason, -, h⟩ := Option.bind_eq_some_iff.mp h
  obtain ⟨db₁, hdeclined, h⟩ := Option.bind_eq_some_iff.mp h
  obtain ⟨db₂, hcancelled, h⟩ := Option.bind_eq_some_iff.mp h
  obtain ⟨rfl, rfl⟩ := Prod.mk.inj (Option.some.inj h)
  refine (insertEntry_logged hcancelled).touches ((insertEntry_logged hdeclined).touches ?_)
  refine Touches.setRequest (touches_setSigner request ?_) ?_
  · rfl
  · rfl

theorem expiredStays_refl (now : Instant) (db : Db) : ExpiredStays now db db := by
  intro requestId request hfound _
  refine ⟨Or.inl ?_, fun _ _ => rfl⟩
  rw [requestStatus, hfound, Option.map_some]

/-- A call on a request that has not expired. -/
theorem Touches.expiredStays {now : Instant} (h : Touches db db' signer request)
    (hkeys : (db.signers.map Signer.id).Nodup)
    (hfound : getRequest db.toDb request.id = some request)
    (hmem : signer ∈ signersOf db.toDb request.id) (hexpired : isExpired request now = false) :
    ExpiredStays now db.toDb db'.toDb := by
  intro requestId other hother hlate
  have hne : requestId ≠ request.id := by
    rintro rfl
    rw [hfound, Option.some.injEq] at hother
    rw [hother, hlate] at hexpired
    cases hexpired
  refine ⟨Or.inl ?_, fun s hs => ?_⟩
  · rw [requestStatus, h.request_eq requestId hne, hother, Option.map_some]
  · obtain ⟨hs, hrequest⟩ := mem_signersOf.mp hs
    obtain ⟨hsigner, hsame⟩ := mem_signersOf.mp hmem
    have hid : s.id ≠ signer.id := by
      intro heq
      rw [List.inj_on_of_nodup_map hkeys hs hsigner heq, hsame] at hrequest
      exact hne hrequest.symm
    rw [signerStatus, h.signer_eq s.id hid, signerStatus]

/-- Once a request is declined it is cancelled. -/
theorem requestStatus_recordDecline {signer' : Signer}
    (hfound : getRequest db.toDb request.id = some request)
    (h : recordDecline env db signer request reason ipAddress userAgent = some (signer', db')) :
    requestStatus db'.toDb request.id = some .cancelled := by
  obtain ⟨declineReason, -, h⟩ := Option.bind_eq_some_iff.mp h
  obtain ⟨db₁, hdeclined, h⟩ := Option.bind_eq_some_iff.mp h
  obtain ⟨db₂, hcancelled, h⟩ := Option.bind_eq_some_iff.mp h
  obtain ⟨rfl, rfl⟩ := Prod.mk.inj (Option.some.inj h)
  rw [requestStatus, getRequest, (insertEntry_logged hcancelled).requests_eq,
    (insertEntry_logged hdeclined).requests_eq]
  have hwritten : Table.find SignatureRequest.id request.id
      (setRequest db { request with status := .cancelled }).requests =
        some { request with status := .cancelled } :=
    Table.find_alter_const (Table.mem_of_find hfound) rfl rfl
  exact congrArg (Option.map SignatureRequest.status) hwritten

theorem lateDecline_not_stays {r : Environment × TrailCall} (h : LateDecline db r) :
    ∃ response db', esignHandle r db = (.ok response, db') ∧
      ¬ExpiredStays r.1.now db.toDb db'.toDb := by
  obtain ⟨env, call⟩ := r
  cases call with
  | decline accessToken reason ipAddress userAgent =>
    obtain ⟨signer, request, hfind, hexpired, hopen, hsigned, hdeclined, hfits⟩ := h
    have hsome : (recordDecline env db signer request reason.text ipAddress userAgent).isSome = true :=
      recordDecline_isSome_iff.mpr hfits
    obtain ⟨⟨signer', db'⟩, hrecord⟩ := Option.isSome_iff_exists.mp hsome
    have hresult : declineDocument env db accessToken reason.text ipAddress userAgent =
        (.ok signer', db') := by
      have hfinal : ¬(signer.status = .signed ∨ signer.status = .declined) :=
        not_or.mpr ⟨hsigned, hdeclined⟩
      simp only [declineDocument, hfind, hopen, hfinal, hrecord, Bool.not_true, flushed, if_false,
        Bool.false_eq_true]
    refine ⟨.declined signer'.name, db', ?_, fun hstays => ?_⟩
    · exact congrArg (respondWith fun signer => .declined signer.name) hresult
    · have hcancelled := requestStatus_recordDecline (findSigning_found hfind) hrecord
      -- an open request has neither been cancelled nor expired
      rcases (hstays request.id request (findSigning_found hfind) hexpired).1 with hsame | hsame
      · rw [hcancelled, Option.some.injEq] at hsame
        rw [isOpen, ← hsame] at hopen
        exact absurd hopen (by decide)
      · rw [hcancelled] at hsame
        exact absurd hsame (by decide)
  | create data createdBy => exact h.elim
  | send requestId ipAddress => exact h.elim
  | view accessToken ipAddress userAgent => exact h.elim
  | sign accessToken ipAddress userAgent => exact h.elim
  | cancel requestId ipAddress => exact h.elim

theorem stays_of_not_lateDecline {r : Environment × TrailCall} {response : TrailResponse}
    (hkeys : (db.signers.map Signer.id).Nodup) (hsigner : r.2.BySigner)
    (hlate : ¬LateDecline db r) (h : esignHandle r db = (.ok response, db')) :
    ExpiredStays r.1.now db.toDb db'.toDb := by
  obtain ⟨env, call⟩ := r
  cases call with
  | view accessToken ipAddress userAgent =>
    obtain ⟨info, hresult⟩ := respondWith_eq_ok h
    obtain ⟨signer, request, signer', hfind, hexpired, -, hview⟩ := getSigningPageInfo_eq_ok hresult
    exact (recordView_touches hview).expiredStays hkeys (findSigning_found hfind)
      (findSigning_mem hfind) hexpired
  | sign accessToken ipAddress userAgent =>
    obtain ⟨signer', hresult⟩ := respondWith_eq_ok h
    obtain ⟨signer, request, hfind, hexpired, -, -, -, hrecord⟩ := signDocument_eq_ok hresult
    exact (recordSignature_touches hrecord).expiredStays hkeys (findSigning_found hfind)
      (findSigning_mem hfind) hexpired
  | decline accessToken reason ipAddress userAgent =>
    obtain ⟨signer', hresult⟩ := respondWith_eq_ok h
    obtain ⟨signer, request, hfind, hopen, hsigned, hdeclined, hrecord⟩ :=
      declineDocument_eq_ok hresult
    have hfits := recordDecline_isSome_iff.mp (Option.isSome_of_eq_some hrecord)
    have hexpired : isExpired request env.now = false := by
      by_contra hexpired
      exact hlate ⟨signer, request, hfind, Bool.eq_true_of_not_eq_false hexpired, hopen, hsigned,
        hdeclined, hfits⟩
    exact (recordDecline_touches hrecord).expiredStays hkeys (findSigning_found hfind)
      (findSigning_mem hfind) hexpired
  | create data createdBy => exact hsigner.elim
  | send requestId ipAddress => exact hsigner.elim
  | cancel requestId ipAddress => exact hsigner.elim

theorem esignHandle_keys {r : Environment × TrailCall} {response : TrailResponse}
    (hkeys : (db.signers.map Signer.id).Nodup) (h : esignHandle r db = (.ok response, db')) :
    (db'.signers.map Signer.id).Nodup := by
  obtain ⟨env, call⟩ := r
  cases call with
  | create data createdBy =>
    obtain ⟨request, hresult⟩ := respondWith_eq_ok h
    obtain ⟨signers, hcreates⟩ :=
      createSignatureRequest_creates (flushed_eq_ok (andLog_eq_ok hresult))
    exact hcreates.signers_nodup hkeys
  | send requestId ipAddress =>
    obtain ⟨request', hresult⟩ := respondWith_eq_ok h
    obtain ⟨request, hchanges⟩ := sendSignatureRequest_changes (andLog_eq_ok hresult)
    rw [hchanges.signers_ids]
    exact hkeys
  | view accessToken ipAddress userAgent =>
    obtain ⟨info, hresult⟩ := respondWith_eq_ok h
    obtain ⟨signer, request, signer', -, -, -, hview⟩ := getSigningPageInfo_eq_ok hresult
    rw [(recordView_touches hview).signers_ids]
    exact hkeys
  | sign accessToken ipAddress userAgent =>
    obtain ⟨signer', hresult⟩ := respondWith_eq_ok h
    obtain ⟨signer, request, -, -, -, -, -, hrecord⟩ := signDocument_eq_ok hresult
    rw [(recordSignature_touches hrecord).signers_ids]
    exact hkeys
  | decline accessToken reason ipAddress userAgent =>
    obtain ⟨signer', hresult⟩ := respondWith_eq_ok h
    obtain ⟨signer, request, -, -, -, -, hrecord⟩ := declineDocument_eq_ok hresult
    rw [(recordDecline_touches hrecord).signers_ids]
    exact hkeys
  | cancel requestId ipAddress =>
    obtain ⟨request', hresult⟩ := respondWith_eq_ok h
    obtain ⟨request, hchanges⟩ := cancelSignatureRequest_changes (andLog_eq_ok hresult)
    rw [hchanges.signers_ids]
    exact hkeys

theorem expiredStays_iff {r : Environment × TrailCall} {t : TrailDb}
    (hkeys : (db.signers.map Signer.id).Nodup) (hstep : serve esignHandle db r = some t) :
    (r.2.BySigner → ExpiredStays r.1.now db.toDb t.toDb) ↔ ¬LateDecline db r := by
  have ht : committed (esignHandle r) db = t := Option.some.inj hstep
  constructor
  · intro hstays hlate
    have hsigner : r.2.BySigner := by
      obtain ⟨env, call⟩ := r
      cases call with
      | decline => trivial
      | _ => exact hlate.elim
    obtain ⟨response, db', hresult, hnot⟩ := lateDecline_not_stays hlate
    rw [← ht, committed_of_ok hresult] at hstays
    exact hnot (hstays hsigner)
  · intro hlate hsigner
    rcases committed_cases (esignHandle r) db with ⟨e, db', -, hsame⟩ | ⟨response, db', hresult, hnew⟩
    · rw [← ht, hsame]
      exact expiredStays_refl _ _
    · rw [← ht, hnew]
      exact stays_of_not_lateDecline hkeys hsigner hlate hresult

/-- In any run of the routes, at any times, no view, signature or refusal changes a signer of
an expired request or makes the request anything but expired, exactly when no signer
declines a request after its expiry while it is still open. -/
theorem expiredStays_along_iff (db : TrailDb) (hkeys : (db.signers.map Signer.id).Nodup)
    (rs : List (Environment × TrailCall)) :
    Along (serve esignHandle)
        (fun db r db' => r.2.BySigner → ExpiredStays r.1.now db.toDb db'.toDb) db rs ↔
      Along (serve esignHandle) (fun db r _ => ¬LateDecline db r) db rs := by
  refine along_congr (I := fun db => (db.signers.map Signer.id).Nodup) ?_ ?_ hkeys
  · exact fun s r t hs hstep _ =>
      serve_invariant (fun _ _ _ _ hkeys h => esignHandle_keys hkeys h) hs hstep
  · exact fun s r t hs hstep => expiredStays_iff hs hstep

end

/-- A request that was sent and has expired since. -/
def lapsedRequest : SignatureRequest :=
  { id := 1, title := "Engagement letter", status := .pending, expiresAt := some 10 }

def lapsedSigner : Signer :=
  { id := 2, signatureRequestId := 1, name := "Ann Lee", email := "ann@client.test"
    accessToken := "9d41" }

def lapsedDb : TrailDb where
  requests := [lapsedRequest]
  signers := [lapsedSigner]
  origins := [⟨1, 4, 3, 9⟩]
  documents := [{ id := 4, matterId := 3, uploadedBy := 9, filename := "letter.pdf"
                  storageKey := "3/letter.pdf", mimeType := "application/pdf", sizeBytes := 2048 }]
  matters := [{ id := 3, matterNumber := some 1001, title := "Lee v. Park", clientId := 8
                dateOpened := ⟨739300, by decide, by decide⟩ }]

def afterExpiry : Environment where
  now := 20
  requestId := 5
  signerIds := fun i => BitVec.ofNat 128 (100+i)
  accessTokens := fun i => BitVec.ofNat 128 (200+i)
  entryIds := fun i => BitVec.ofNat 128 (300+i)
  downloadUrl := some
  certificateStored := true
  auditLogged := true

/-- The signer declines too late. -/
def lateRefusal : Environment × TrailCall :=
  (afterExpiry, .decline "9d41" ⟨"The terms have changed", by decide⟩ none none)

theorem lateDecline_lateRefusal : LateDecline lapsedDb lateRefusal := by
  refine ⟨lapsedSigner, lapsedRequest, rfl, by decide, by decide, by decide, by decide, ?_⟩
  exact ⟨by decide, by decide, by decide, by decide, by decide, by decide, by decide⟩

/-- The expired request becomes a cancelled one. -/
theorem not_expiredStays_lateRefusal :
    ¬Along (serve esignHandle)
      (fun db r db' => r.2.BySigner → ExpiredStays r.1.now db.toDb db'.toDb) lapsedDb
      [lateRefusal] := by
  intro h
  obtain ⟨response, db', hresult, hnot⟩ := lateDecline_not_stays lateDecline_lateRefusal
  exact hnot ((h db' (congrArg some (committed_of_ok hresult))).1 trivial)

theorem expiredStays_along_iff_lateRefusal :
    (lapsedDb.signers.map Signer.id).Nodup ∧
      (Along (serve esignHandle)
          (fun db r db' => r.2.BySigner → ExpiredStays r.1.now db.toDb db'.toDb) lapsedDb
          [lateRefusal] ↔
        Along (serve esignHandle) (fun db r _ => ¬LateDecline db r) lapsedDb [lateRefusal]) :=
  ⟨by decide, expiredStays_along_iff lapsedDb (by decide) [lateRefusal]⟩

end LegalForge.Esign
