import LegalForge.SignatureReplay

/-! What one call does to the requests, the signers and the entries, and from it that the
entries tell the statuses along every run. -/
namespace LegalForge.Esign
open Auth Transition UnitOfWork

/-- From `db` to `db'` only entries of one request are added. -/
structure Logged (requestId : Uuid) (new : List (Option Uuid × String)) (db db' : TrailDb) :
    Prop where
  requests_eq : db'.requests = db.requests
  signers_eq : db'.signers = db.signers
  trail_eq : ∀ id, trail db' id = trail db id++if id = requestId then new else []
  entries_mem : ∀ e ∈ db'.entries, e ∈ db.entries ∨ e.signatureRequestId = requestId

theorem Logged.refl (requestId : Uuid) (db : TrailDb) : Logged requestId [] db db where
  requests_eq := rfl
  signers_eq := rfl
  trail_eq := by simp
  entries_mem := fun _ he => Or.inl he

theorem Logged.append {requestId : Uuid} {new new' : List (Option Uuid × String)}
    {db db' db'' : TrailDb} (h : Logged requestId new db db')
    (h' : Logged requestId new' db' db'') : Logged requestId (new++new') db db'' where
  requests_eq := h'.requests_eq.trans h.requests_eq
  signers_eq := h'.signers_eq.trans h.signers_eq
  trail_eq := by
    intro id
    rw [h'.trail_eq, h.trail_eq, List.append_assoc]
    split_ifs
    · rfl
    · rfl
  entries_mem := by
    intro e he
    rcases h'.entries_mem e he with he | he
    · exact h.entries_mem e he
    · exact Or.inr he

theorem insertEntry_spec {db db' : TrailDb} {entry : SignatureAuditEntry}
    (h : insertEntry db entry = some db') : ∃ ipAddress userAgent details,
      optVarchar 45 entry.ipAddress = some ipAddress ∧
      optVarchar 500 entry.userAgent = some userAgent ∧
      Deadlines.nullable Deadlines.textColumn entry.details = some details ∧
      db' = { db with entries := db.entries++
        [{ entry with ipAddress := ipAddress, userAgent := userAgent, details := details }] } := by
  obtain ⟨ipAddress, hip, h⟩ := Option.bind_eq_some_iff.mp h
  obtain ⟨userAgent, hagent, h⟩ := Option.bind_eq_some_iff.mp h
  obtain ⟨details, hdetails, h⟩ := Option.bind_eq_some_iff.mp h
  obtain ⟨entries, hinsert, hdb⟩ := Option.bind_eq_some_iff.mp h
  obtain ⟨-, rfl⟩ := Table.insert_eq_some_iff.mp hinsert
  exact ⟨ipAddress, userAgent, details, hip, hagent, hdetails, (Option.some.inj hdb).symm⟩

theorem insertEntry_logged {db db' : TrailDb} {entry : SignatureAuditEntry}
    (h : insertEntry db entry = some db') :
    Logged entry.signatureRequestId [entry.event] db db' := by
  obtain ⟨ipAddress, userAgent, details, -, -, -, rfl⟩ := insertEntry_spec h
  refine ⟨rfl, rfl, fun id => ?_, fun e he => ?_⟩
  · rw [trail, entriesOf, List.filter_append, List.map_append]
    congr 1
    by_cases hid : id = entry.signatureRequestId
    · simp [hid, SignatureAuditEntry.event]
    · simp [hid, Ne.symm hid]
  · rcases List.mem_append.mp he with he | he
    · exact Or.inl he
    · rw [List.mem_singleton.mp he]
      exact Or.inr rfl

theorem insertSent_logged {env : Environment} {request : SignatureRequest}
    {ipAddress : Option String} {signers : List Signer} {i : ℕ} {db db' : TrailDb}
    (h : insertSent env request ipAddress signers i db = some db') :
    Logged request.id (signers.map fun s => (some s.id, "sent")) db db' := by
  induction signers generalizing i db with
  | nil =>
    obtain rfl := Option.some.inj h
    exact Logged.refl _ _
  | cons s signers ih =>
    obtain ⟨db₁, hentry, hrest⟩ := Option.bind_eq_some_iff.mp h
    exact (insertEntry_logged hentry).append (ih hrest)

/-- The tables once a session has changed a request and one of its signers. -/
def changedDb (db : TrailDb) (request' : SignatureRequest) : Option (Signer × Signer) → TrailDb
  | none => setRequest db request'
  | some (_, signer') => setRequest (setSigner db signer') request'

/-- One call on a request that exists. -/
structure Changes (db db' : TrailDb) (request request' : SignatureRequest)
    (pair : Option (Signer × Signer)) (new : List (Option Uuid × String)) : Prop where
  found : getRequest db.toDb request.id = some request
  id_eq : request'.id = request.id
  signer_mem : ∀ signer signer', pair = some (signer, signer') →
    signer ∈ signersOf db.toDb request.id
  signer_id : ∀ signer signer', pair = some (signer, signer') → signer'.id = signer.id
  signer_request : ∀ signer signer', pair = some (signer, signer') →
    signer'.signatureRequestId = signer.signatureRequestId
  change : Change (signersOf db.toDb request.id) request.status request'.status pair new
  logged : Logged request.id new (changedDb db request' pair) db'

/-- A new request. -/
structure Creates (db db' : TrailDb) (request : SignatureRequest) (signers : List Signer) :
    Prop where
  fresh : ∀ r ∈ db.requests, r.id ≠ request.id
  status_eq : request.status = .draft
  requests_eq : db'.requests = db.requests++[request]
  signers_eq : db'.signers = db.signers++signers
  signers_nodup : (db.signers.map Signer.id).Nodup → (db'.signers.map Signer.id).Nodup
  signers_ne_nil : signers ≠ []
  signer_request : ∀ s ∈ signers, s.signatureRequestId = request.id
  signer_status : ∀ s ∈ signers, s.status = .pending
  trail_eq : ∀ id,
    trail db' id = trail db id++if id = request.id then [(none, "created")] else []
  entries_mem : ∀ e ∈ db'.entries, e ∈ db.entries ∨ e.signatureRequestId = request.id

/-- What a call can have done when it returns. -/
inductive Effect (db db' : TrailDb) : Prop where
  | same (h : db' = db)
  | created (request : SignatureRequest) (signers : List Signer)
      (h : Creates db db' request signers)
  | changed (request request' : SignatureRequest) (pair : Option (Signer × Signer))
      (new : List (Option Uuid × String)) (h : Changes db db' request request' pair new)

/-- Unique ids, no row without its request, and statuses that the entries tell. -/
structure Valid (db : TrailDb) : Prop where
  requests_nodup : (db.requests.map SignatureRequest.id).Nodup
  signers_nodup : (db.signers.map Signer.id).Nodup
  signer_known : ∀ s ∈ db.signers, s.signatureRequestId ∈ db.requests.map SignatureRequest.id
  entry_known : ∀ e ∈ db.entries, e.signatureRequestId ∈ db.requests.map SignatureRequest.id
  reconstructed : ∀ request ∈ db.requests,
    Reconstructed request.status (signersOf db.toDb request.id) (trail db request.id)

section
variable {env : Environment} {db db' : TrailDb} {request : SignatureRequest} {signer : Signer}

theorem insertSigner_spec (h : insertSigner db signer = some db') :
    (∀ s ∈ db.signers, s.id ≠ signer.id) ∧ db' = { db with signers := db.signers++[signer] } := by
  obtain ⟨signers, hinsert, h⟩ := Option.bind_eq_some_iff.mp h
  obtain ⟨-, -, hdb⟩ := Option.bind_eq_some_iff.mp h
  obtain ⟨hfresh, rfl⟩ := Table.insert_eq_some_iff.mp hinsert
  exact ⟨hfresh, (Option.some.inj hdb).symm⟩

theorem insertRequest_spec (h : insertRequest db request = some db') :
    (∀ r ∈ db.requests, r.id ≠ request.id) ∧
      db' = { db with requests := db.requests++[request] } := by
  obtain ⟨requests, hinsert, hdb⟩ := Option.bind_eq_some_iff.mp h
  obtain ⟨hfresh, rfl⟩ := Table.insert_eq_some_iff.mp hinsert
  exact ⟨hfresh, (Option.some.inj hdb).symm⟩

theorem insertOrigin_spec {origin : RequestOrigin} (h : insertOrigin db origin = some db') :
    db' = { db with origins := db.origins++[origin] } := by
  obtain ⟨-, -, h⟩ := Option.bind_eq_some_iff.mp h
  obtain ⟨-, -, h⟩ := Option.bind_eq_some_iff.mp h
  exact (Option.some.inj h).symm

theorem insertSigners_spec {data : List SignerCreate} {i : ℕ}
    (h : insertSigners env data i db = some db') :
    ∃ signers, db'.requests = db.requests ∧ db'.entries = db.entries ∧
      db'.signers = db.signers++signers ∧ signers.length = data.length ∧
      ((db.signers.map Signer.id).Nodup → (db'.signers.map Signer.id).Nodup) ∧
      ∀ s ∈ signers, s.signatureRequestId = env.requestId ∧ s.status = .pending := by
  induction data generalizing i db with
  | nil =>
    obtain rfl := Option.some.inj h
    exact ⟨[], rfl, rfl, (List.append_nil _).symm, rfl, id, by simp⟩
  | cons d data ih =>
    obtain ⟨name, -, h⟩ := Option.bind_eq_some_iff.mp h
    obtain ⟨email, -, h⟩ := Option.bind_eq_some_iff.mp h
    obtain ⟨role, -, h⟩ := Option.bind_eq_some_iff.mp h
    obtain ⟨order, -, h⟩ := Option.bind_eq_some_iff.mp h
    obtain ⟨db₁, hsigner, hrest⟩ := Option.bind_eq_some_iff.mp h
    obtain ⟨hfresh, rfl⟩ := insertSigner_spec hsigner
    obtain ⟨signers, hrequests, hentries, hrows, hlength, hnodup, hnew⟩ := ih hrest
    rw [List.append_assoc, List.singleton_append] at hrows
    refine ⟨_, hrequests, hentries, hrows, congrArg Nat.succ hlength, ?_, ?_⟩
    · exact fun hold => hnodup (Table.nodup_append_singleton hold hfresh)
    · intro s hs
      rcases List.mem_cons.mp hs with rfl | hs
      · exact ⟨rfl, rfl⟩
      · exact hnew s hs

theorem createSignatureRequest_creates {data : SignatureRequestCreate} {createdBy : Uuid}
    (h : createSignatureRequest env db data createdBy = some (request, db')) :
    ∃ signers, Creates db db' request signers := by
  obtain ⟨title, -, h⟩ := Option.bind_eq_some_iff.mp h
  obtain ⟨message, -, h⟩ := Option.bind_eq_some_iff.mp h
  obtain ⟨db₁, hrequest, h⟩ := Option.bind_eq_some_iff.mp h
  obtain ⟨db₂, horigin, h⟩ := Option.bind_eq_some_iff.mp h
  obtain ⟨db₃, hsigners, h⟩ := Option.bind_eq_some_iff.mp h
  obtain ⟨db₄, hentry, h⟩ := Option.bind_eq_some_iff.mp h
  obtain ⟨rfl, rfl⟩ := Prod.mk.inj (Option.some.inj h)
  -- the request and its origin, the signers, the entry in the trail
  obtain ⟨hfresh, rfl⟩ := insertRequest_spec hrequest
  obtain rfl := insertOrigin_spec horigin
  obtain ⟨signers, hrequests, hentries, hrows, hlength, hnodup, hnew⟩ := insertSigners_spec hsigners
  have hlogged := insertEntry_logged hentry
  have htrail (id : Uuid) : trail db₃ id = trail db id := by
    rw [trail, entriesOf, hentries]
    rfl
  refine ⟨signers, hfresh, rfl, ?_, ?_, ?_, ?_, ?_, ?_, ?_, ?_⟩
  · rw [hlogged.requests_eq, hrequests]
  · rw [hlogged.signers_eq, hrows]
  · rw [hlogged.signers_eq]
    exact hnodup
  · intro hnil
    rw [hnil, List.length_nil] at hlength
    exact data.signers_ne_nil (List.eq_nil_of_length_eq_zero hlength.symm)
  · exact fun s hs => (hnew s hs).1
  · exact fun s hs => (hnew s hs).2
  · intro id
    rw [hlogged.trail_eq, htrail]
    rfl
  · intro e he
    rcases hlogged.entries_mem e he with he | he
    · rw [hentries] at he
      exact Or.inl he
    · exact Or.inr he

theorem getRequest_id {requestId : Uuid} (h : getRequest db.toDb requestId = some request) :
    getRequest db.toDb request.id = some request := by
  rw [Table.key_of_find h]
  exact h

theorem findSigning_eq_ok {accessToken : String}
    (h : findSigning db accessToken = .ok (signer, request)) :
    getSignerByToken db.toDb accessToken = some signer ∧
      getRequest db.toDb signer.signatureRequestId = some request := by
  unfold findSigning at h
  split at h
  · cases h
  · split at h
    · cases h
    · rename_i hsigner _ _ hrequest
      obtain ⟨rfl, rfl⟩ := Prod.mk.inj (Except.ok.inj h)
      exact ⟨hsigner, hrequest⟩

theorem findSigning_mem {accessToken : String}
    (h : findSigning db accessToken = .ok (signer, request)) :
    signer ∈ signersOf db.toDb request.id := by
  obtain ⟨hsigner, hrequest⟩ := findSigning_eq_ok h
  exact mem_signersOf.mpr ⟨Table.mem_of_find hsigner, (Table.key_of_find hrequest).symm⟩

theorem Logged.setRequest {requestId : Uuid} {new : List (Option Uuid × String)}
    (h : Logged requestId new db db') (request : SignatureRequest) :
    Logged requestId new (setRequest db request) (setRequest db' request) where
  requests_eq := congrArg (Table.alter SignatureRequest.id request.id fun _ => request) h.requests_eq
  signers_eq := h.signers_eq
  trail_eq := h.trail_eq
  entries_mem := h.entries_mem

/-- The signers of a request once one signer has been written. -/
theorem signersOf_setSigner {signer' : Signer} (hnodup : (db.signers.map Signer.id).Nodup)
    (hmem : signer ∈ db.signers) (hid : signer'.id = signer.id)
    (hrequest : signer'.signatureRequestId = signer.signatureRequestId) (requestId : Uuid) :
    signersOf (setSigner db signer').toDb requestId =
      changedSigners (signersOf db.toDb requestId) (some (signer, signer')) := by
  simp only [signersOf, setSigner, Table.alter, changedSigners, List.filter_map, hid]
  congr 1
  refine List.filter_congr fun s hs => ?_
  rw [Function.comp_apply]
  split_ifs with hsame
  · rw [hrequest, List.inj_on_of_nodup_map hnodup hs hmem hsame]
  · rfl

/-- The signers of the other requests stay. -/
theorem changedSigners_of_ne {signer' : Signer} {requestId : Uuid}
    (hnodup : (db.signers.map Signer.id).Nodup) (hmem : signer ∈ db.signers)
    (hne : signer.signatureRequestId ≠ requestId) :
    changedSigners (signersOf db.toDb requestId) (some (signer, signer')) =
      signersOf db.toDb requestId := by
  conv_rhs => rw [← List.map_id (signersOf db.toDb requestId)]
  refine List.map_congr_left fun s hs => ?_
  obtain ⟨hs, hrequest⟩ := mem_signersOf.mp hs
  have hother : s.id ≠ signer.id := by
    intro hsame
    rw [List.inj_on_of_nodup_map hnodup hs hmem hsame] at hrequest
    exact hne hrequest
  rw [if_neg hother, id]

theorem allSigned_changed {signers : List Signer} {signer' : Signer}
    (hid : signer'.id = signer.id) :
    allSigned (changedSigners signers (some (signer, signer'))) signer.id = true ↔
      ∀ s ∈ signers, s.id ≠ signer.id → s.status = .signed := by
  rw [allSigned, changedSigners, List.all_map, List.all_eq_true]
  refine forall₂_congr fun s _ => ?_
  rw [Function.comp_apply, decide_eq_true_iff]
  split_ifs with hsame
  · exact iff_of_true (Or.inr hid) fun hne => absurd hsame hne
  · exact ⟨fun h _ => h.resolve_right hsame, fun h => Or.inl (h hsame)⟩

/-- A call that returns has flushed its writes. -/
theorem flushed_eq_ok {α : Type} {result : Option (α × TrailDb)} {a : α}
    (h : flushed db result = (.ok a, db')) : result = some (a, db') := by
  cases result with
  | none => cases h
  | some pair =>
    obtain ⟨ha, hdb⟩ := Prod.mk.inj h
    exact congrArg some (Prod.ext (Except.ok.inj ha) hdb)

theorem sendSignatureRequest_changes {requestId : Uuid} {ipAddress : Option String}
    {request' : SignatureRequest}
    (h : sendSignatureRequest env db requestId ipAddress = (.ok request', db')) :
    ∃ request, Changes db db' request request' none
      ((signersOf db.toDb request.id).map fun s => (some s.id, "sent")) := by
  unfold sendSignatureRequest at h
  split at h
  · cases h
  · rename_i request hfound
    split_ifs at h with hdraft
    · cases h
    · obtain ⟨db₁, hsent, hpair⟩ := Option.map_eq_some_iff.mp (flushed_eq_ok h)
      obtain ⟨rfl, rfl⟩ := Prod.mk.inj hpair
      have hchange : Change (signersOf db.toDb request.id) .draft .pending none
          ((signersOf db.toDb request.id).map fun s => (some s.id, "sent")) := .send
      rw [← not_not.mp hdraft] at hchange
      exact ⟨request, getRequest_id hfound, rfl, by simp, by simp, by simp, hchange,
        insertSent_logged hsent⟩

theorem cancelSignatureRequest_changes {requestId : Uuid} {ipAddress : Option String}
    {request' : SignatureRequest}
    (h : cancelSignatureRequest env db requestId ipAddress = (.ok request', db')) :
    ∃ request, Changes db db' request request' none [(none, "cancelled")] := by
  unfold cancelSignatureRequest at h
  split at h
  · cases h
  · rename_i request hfound
    split_ifs at h with hfinal
    · cases h
    · obtain ⟨db₁, hentry, hpair⟩ := Option.map_eq_some_iff.mp (flushed_eq_ok h)
      obtain ⟨rfl, rfl⟩ := Prod.mk.inj hpair
      exact ⟨request, getRequest_id hfound, rfl, by simp, by simp, by simp,
        .cancel fun hcompleted => hfinal (Or.inl hcompleted), insertEntry_logged hentry⟩

theorem isOpen_iff {request : SignatureRequest} :
    isOpen request = true ↔ request.status = .pending ∨ request.status = .partiallySigned :=
  decide_eq_true_iff

/-- The signer, the request and the entries once a signature is recorded. -/
theorem recordSignature_spec {ipAddress userAgent : Option String} {signer' : Signer}
    (h : recordSignature env db signer request ipAddress userAgent = some (signer', db')) :
    ∃ db₁, signer'.id = signer.id ∧ signer'.signatureRequestId = signer.signatureRequestId ∧
      signer'.status = .signed ∧
      Logged request.id [(some signer.id, "signed")] (setSigner db signer') db₁ ∧
      let request' := requestAfterSign signer request (signersOf db₁.toDb request.id) env.now
      if allSigned (signersOf db₁.toDb request.id) signer.id then
        Logged request.id [(none, "completed")] (setRequest db₁ request') db'
      else db' = setRequest db₁ request' := by
  obtain ⟨signedIp, -, h⟩ := Option.bind_eq_some_iff.mp h
  obtain ⟨signedUserAgent, -, h⟩ := Option.bind_eq_some_iff.mp h
  obtain ⟨db₁, hentry, h⟩ := Option.bind_eq_some_iff.mp h
  dsimp only at h
  have hlogged := insertEntry_logged hentry
  split_ifs at h with hall hstored
  · obtain ⟨db₂, hcompleted, h⟩ := Option.bind_eq_some_iff.mp h
    obtain ⟨rfl, rfl⟩ := Prod.mk.inj (Option.some.inj h)
    refine ⟨db₁, rfl, rfl, rfl, hlogged, ?_⟩
    rw [if_pos hall]
    exact insertEntry_logged hcompleted
  · obtain ⟨rfl, rfl⟩ := Prod.mk.inj (Option.some.inj h)
    refine ⟨db₁, rfl, rfl, rfl, hlogged, ?_⟩
    rw [if_neg hall]

theorem id_requestAfterSign (signer : Signer) (request : SignatureRequest) (signers : List Signer)
    (now : Instant) : (requestAfterSign signer request signers now).id = request.id := by
  unfold requestAfterSign
  split_ifs
  · rfl
  · rfl

/-- A change of a request by one of its signers. -/
theorem changes_of_signer {request' : SignatureRequest} {signer' : Signer}
    {new : List (Option Uuid × String)} (hfound : getRequest db.toDb request.id = some request)
    (hmem : signer ∈ signersOf db.toDb request.id) (hid : signer'.id = signer.id)
    (hrequest : signer'.signatureRequestId = signer.signatureRequestId)
    (hsame : request'.id = request.id)
    (hchange : Change (signersOf db.toDb request.id) request.status request'.status
      (some (signer, signer')) new)
    (hlogged : Logged request.id new (setRequest (setSigner db signer') request') db') :
    Changes db db' request request' (some (signer, signer')) new := by
  refine ⟨hfound, hsame, ?_, ?_, ?_, hchange, hlogged⟩
  · rintro _ _ ⟨⟩
    exact hmem
  · rintro _ _ ⟨⟩
    exact hid
  · rintro _ _ ⟨⟩
    exact hrequest

theorem recordSignature_changes {ipAddress userAgent : Option String} {signer' : Signer}
    (hvalid : Valid db) (hfound : getRequest db.toDb request.id = some request)
    (hmem : signer ∈ signersOf db.toDb request.id) (hcancelled : request.status ≠ .cancelled)
    (hbefore : signer.status ≠ .signed)
    (h : recordSignature env db signer request ipAddress userAgent = some (signer', db')) :
    ∃ request' new, Changes db db' request request' (some (signer, signer')) new := by
  obtain ⟨db₁, hid, hrequest, hafter, hlogged, h⟩ := recordSignature_spec h
  have hsigners : signersOf db₁.toDb request.id =
      changedSigners (signersOf db.toDb request.id) (some (signer, signer')) := by
    rw [← signersOf_setSigner hvalid.signers_nodup (mem_signersOf.mp hmem).1 hid hrequest, signersOf,
      hlogged.signers_eq]
    rfl
  set request' := requestAfterSign signer request (signersOf db₁.toDb request.id) env.now
    with hrequest'
  have hsame : request'.id = request.id := id_requestAfterSign _ _ _ _
  -- what the change is depends on whether the others have signed
  split_ifs at h with hall
  · have hcompleted : request'.status = .completed := by rw [hrequest', requestAfterSign, if_pos hall]
    rw [hsigners, allSigned_changed hid] at hall
    refine ⟨request', [(some signer.id, "signed"), (none, "completed")],
      changes_of_signer hfound hmem hid hrequest hsame ?_ ((hlogged.setRequest request').append h)⟩
    rw [hcompleted]
    exact .complete hcancelled hbefore hafter hall
  · have hpart : request'.status = .partiallySigned := by
      rw [hrequest', requestAfterSign, if_neg hall]
    rw [hsigners, allSigned_changed hid] at hall
    push Not at hall
    obtain ⟨other, hother, hne, hunsigned⟩ := hall
    refine ⟨request', [(some signer.id, "signed")],
      changes_of_signer hfound hmem hid hrequest hsame ?_ (h ▸ hlogged.setRequest request')⟩
    rw [hpart]
    exact .sign hcancelled hbefore hafter hother hne hunsigned

theorem recordDecline_changes {reason : String} {ipAddress userAgent : Option String}
    {signer' : Signer} (hfound : getRequest db.toDb request.id = some request)
    (hmem : signer ∈ signersOf db.toDb request.id) (hbefore : signer.status ≠ .signed)
    (h : recordDecline env db signer request reason ipAddress userAgent = some (signer', db')) :
    Changes db db' request { request with status := .cancelled } (some (signer, signer'))
      [(some signer.id, "declined"), (none, "cancelled")] := by
  obtain ⟨declineReason, -, h⟩ := Option.bind_eq_some_iff.mp h
  obtain ⟨db₁, hdeclined, h⟩ := Option.bind_eq_some_iff.mp h
  obtain ⟨db₂, hcancelled, h⟩ := Option.bind_eq_some_iff.mp h
  obtain ⟨rfl, rfl⟩ := Prod.mk.inj (Option.some.inj h)
  exact changes_of_signer hfound hmem rfl rfl rfl (.decline hbefore rfl)
    ((insertEntry_logged hdeclined).append (insertEntry_logged hcancelled))

theorem recordView_effect {ipAddress userAgent : Option String} {signer' : Signer}
    (hvalid : Valid db) (hfound : getRequest db.toDb request.id = some request)
    (hmem : signer ∈ signersOf db.toDb request.id) (hopen : isOpen request = true)
    (h : recordView env db signer request ipAddress userAgent = some (signer', db')) :
    Effect db db' := by
  unfold recordView at h
  split_ifs at h with hpending
  · obtain ⟨db₁, hentry, h⟩ := Option.map_eq_some_iff.mp h
    obtain ⟨rfl, rfl⟩ := Prod.mk.inj h
    have hcompleted : request.status ≠ .completed := by
      rcases isOpen_iff.mp hopen with h | h
      · simp [h]
      · simp [h]
    -- the request is not written, which is the same as writing what was found
    have hsame (signer' : Signer) :
        setRequest (setSigner db signer') request = setSigner db signer' :=
      congrArg (fun rows => { setSigner db signer' with requests := rows })
        (Table.alter_found hvalid.requests_nodup hfound)
    refine .changed request request (some (signer, { signer with status := .viewed }))
      [(some signer.id, "viewed")]
      (changes_of_signer hfound hmem rfl rfl rfl (.view hcompleted hpending rfl) ?_)
    rw [hsame]
    exact insertEntry_logged hentry
  · obtain ⟨-, rfl⟩ := Prod.mk.inj (Option.some.inj h)
    exact .same rfl

theorem findSigning_found {accessToken : String}
    (h : findSigning db accessToken = .ok (signer, request)) :
    getRequest db.toDb request.id = some request :=
  getRequest_id (findSigning_eq_ok h).2

theorem getSigningPageInfo_eq_ok {accessToken : String} {ipAddress userAgent : Option String}
    {info : SigningPageInfo}
    (h : getSigningPageInfo env db accessToken ipAddress userAgent = (.ok info, db')) :
    ∃ signer request signer', findSigning db accessToken = .ok (signer, request) ∧
      isExpired request env.now = false ∧ isOpen request = true ∧
      recordView env db signer request ipAddress userAgent = some (signer', db') := by
  unfold getSigningPageInfo at h
  split at h
  · cases h
  · rename_i signer request hfind
    split_ifs at h with hexpired hopen
    · split at h
      · cases h
      · cases h
    · cases h
    · split at h
      · cases h
      · rename_i signer' db₁ hview
        split at h
        · cases h
        · split at h
          · cases h
          · obtain ⟨-, rfl⟩ := Prod.mk.inj h
            exact ⟨signer, request, signer', hfind, Bool.eq_false_of_not_eq_true hexpired,
              by simpa using hopen, hview⟩

theorem signDocument_eq_ok {accessToken : String} {ipAddress userAgent : Option String}
    {signer' : Signer}
    (h : signDocument env db accessToken ipAddress userAgent = (.ok signer', db')) :
    ∃ signer request, findSigning db accessToken = .ok (signer, request) ∧
      isExpired request env.now = false ∧ isOpen request = true ∧
      signer.status ≠ .signed ∧ signer.status ≠ .declined ∧
      recordSignature env db signer request ipAddress userAgent = some (signer', db') := by
  unfold signDocument at h
  split at h
  · cases h
  · rename_i signer request hfind
    split_ifs at h with hexpired hopen hsigned hdeclined
    · cases h
    · cases h
    · cases h
    · cases h
    · exact ⟨signer, request, hfind, Bool.eq_false_of_not_eq_true hexpired, by simpa using hopen,
        hsigned, hdeclined, flushed_eq_ok h⟩

theorem declineDocument_eq_ok {accessToken reason : String} {ipAddress userAgent : Option String}
    {signer' : Signer}
    (h : declineDocument env db accessToken reason ipAddress userAgent = (.ok signer', db')) :
    ∃ signer request, findSigning db accessToken = .ok (signer, request) ∧
      isOpen request = true ∧ signer.status ≠ .signed ∧ signer.status ≠ .declined ∧
      recordDecline env db signer request reason ipAddress userAgent = some (signer', db') := by
  unfold declineDocument at h
  split at h
  · cases h
  · rename_i signer request hfind
    split_ifs at h with hopen hfinal
    · cases h
    · cases h
    · push Not at hfinal
      exact ⟨signer, request, hfind, by simpa using hopen, hfinal.1, hfinal.2, flushed_eq_ok h⟩

theorem getSigningPageInfo_effect {accessToken : String} {ipAddress userAgent : Option String}
    {info : SigningPageInfo} (hvalid : Valid db)
    (h : getSigningPageInfo env db accessToken ipAddress userAgent = (.ok info, db')) :
    Effect db db' := by
  obtain ⟨signer, request, signer', hfind, -, hopen, hview⟩ := getSigningPageInfo_eq_ok h
  exact recordView_effect hvalid (findSigning_found hfind) (findSigning_mem hfind) hopen hview

theorem signDocument_effect {accessToken : String} {ipAddress userAgent : Option String}
    {signer' : Signer} (hvalid : Valid db)
    (h : signDocument env db accessToken ipAddress userAgent = (.ok signer', db')) :
    Effect db db' := by
  obtain ⟨signer, request, hfind, -, hopen, hsigned, -, hrecord⟩ := signDocument_eq_ok h
  have hcancelled : request.status ≠ .cancelled := by
    intro hcancelled
    rw [isOpen, hcancelled] at hopen
    exact absurd hopen (by decide)
  obtain ⟨request', new, hchanges⟩ := recordSignature_changes hvalid (findSigning_found hfind)
    (findSigning_mem hfind) hcancelled hsigned hrecord
  exact .changed _ _ _ _ hchanges

theorem declineDocument_effect {accessToken reason : String} {ipAddress userAgent : Option String}
    {signer' : Signer}
    (h : declineDocument env db accessToken reason ipAddress userAgent = (.ok signer', db')) :
    Effect db db' := by
  obtain ⟨signer, request, hfind, -, hsigned, -, hrecord⟩ := declineDocument_eq_ok h
  exact .changed _ _ _ _
    (recordDecline_changes (findSigning_found hfind) (findSigning_mem hfind) hsigned hrecord)

theorem respondWith_eq_ok {α : Type} {response : α → TrailResponse}
    {result : Except HttpError α × TrailDb} {r : TrailResponse}
    (h : respondWith response result = (.ok r, db')) : ∃ a, result = (.ok a, db') := by
  obtain ⟨⟨e⟩ | ⟨a⟩, db₁⟩ := result
  · cases h
  · obtain ⟨-, rfl⟩ := Prod.mk.inj h
    exact ⟨a, rfl⟩

theorem andLog_eq_ok {result : Except HttpError SignatureRequest × TrailDb}
    (h : andLog env result = (.ok request, db')) : result = (.ok request, db') := by
  unfold andLog at h
  split at h
  · cases h
  · split_ifs at h
    · exact h
    · cases h

/-- A call that returns. -/
theorem esignHandle_effect {r : Environment × TrailCall} {response : TrailResponse}
    (hvalid : Valid db) (h : esignHandle r db = (.ok response, db')) : Effect db db' := by
  obtain ⟨env, call⟩ := r
  cases call with
  | create data createdBy =>
    obtain ⟨request, hresult⟩ := respondWith_eq_ok h
    obtain ⟨signers, hcreates⟩ :=
      createSignatureRequest_creates (flushed_eq_ok (andLog_eq_ok hresult))
    exact .created request signers hcreates
  | send requestId ipAddress =>
    obtain ⟨request', hresult⟩ := respondWith_eq_ok h
    obtain ⟨request, hchanges⟩ := sendSignatureRequest_changes (andLog_eq_ok hresult)
    exact .changed _ _ _ _ hchanges
  | view accessToken ipAddress userAgent =>
    obtain ⟨info, hresult⟩ := respondWith_eq_ok h
    exact getSigningPageInfo_effect hvalid hresult
  | sign accessToken ipAddress userAgent =>
    obtain ⟨signer', hresult⟩ := respondWith_eq_ok h
    exact signDocument_effect hvalid hresult
  | decline accessToken reason ipAddress userAgent =>
    obtain ⟨signer', hresult⟩ := respondWith_eq_ok h
    exact declineDocument_effect hresult
  | cancel requestId ipAddress =>
    obtain ⟨request', hresult⟩ := respondWith_eq_ok h
    obtain ⟨request, hchanges⟩ := cancelSignatureRequest_changes (andLog_eq_ok hresult)
    exact .changed _ _ _ _ hchanges

/-! The invariant. -/

theorem requests_changedDb (db : TrailDb) (request' : SignatureRequest)
    (pair : Option (Signer × Signer)) : (changedDb db request' pair).requests =
      Table.alter SignatureRequest.id request'.id (fun _ => request') db.requests := by
  cases pair with
  | none => rfl
  | some pair => rfl

theorem trail_changedDb (db : TrailDb) (request' : SignatureRequest)
    (pair : Option (Signer × Signer)) (requestId : Uuid) :
    trail (changedDb db request' pair) requestId = trail db requestId := by
  cases pair with
  | none => rfl
  | some pair => rfl

theorem Changes.signersOf_eq {request' : SignatureRequest} {pair : Option (Signer × Signer)}
    {new : List (Option Uuid × String)} (h : Changes db db' request request' pair new)
    (hvalid : Valid db) (requestId : Uuid) : signersOf db'.toDb requestId =
      if requestId = request.id then changedSigners (signersOf db.toDb requestId) pair
      else signersOf db.toDb requestId := by
  have hlogged : signersOf db'.toDb requestId =
      signersOf (changedDb db request' pair).toDb requestId := by
    rw [signersOf, h.logged.signers_eq, signersOf]
  rw [hlogged]
  cases pair with
  | none =>
    split_ifs
    · rfl
    · rfl
  | some pair =>
    obtain ⟨signer, signer'⟩ := pair
    obtain ⟨hmem, hrequest⟩ := mem_signersOf.mp (h.signer_mem _ _ rfl)
    have hself := signersOf_setSigner hvalid.signers_nodup hmem (h.signer_id _ _ rfl)
      (h.signer_request _ _ rfl) requestId
    split_ifs with hid
    · exact hself
    · exact hself.trans (changedSigners_of_ne hvalid.signers_nodup hmem
        fun hsame => hid (hsame.symm.trans hrequest))

theorem Changes.requests_mem {request' r : SignatureRequest} {pair : Option (Signer × Signer)}
    {new : List (Option Uuid × String)} (h : Changes db db' request request' pair new)
    (hr : r ∈ db'.requests) : r = request' ∨ r ∈ db.requests ∧ r.id ≠ request.id := by
  rw [h.logged.requests_eq, requests_changedDb] at hr
  obtain ⟨r₀, hr₀, rfl⟩ := Table.mem_alter.mp hr
  split_ifs with hid
  · exact Or.inl rfl
  · exact Or.inr ⟨hr₀, fun hsame => hid (hsame.trans h.id_eq.symm)⟩

theorem Changes.requests_ids {request' : SignatureRequest} {pair : Option (Signer × Signer)}
    {new : List (Option Uuid × String)} (h : Changes db db' request request' pair new) :
    db'.requests.map SignatureRequest.id = db.requests.map SignatureRequest.id := by
  rw [h.logged.requests_eq, requests_changedDb, Table.map_key_alter fun _ _ => rfl]

theorem Changes.signers_ids {request' : SignatureRequest} {pair : Option (Signer × Signer)}
    {new : List (Option Uuid × String)} (h : Changes db db' request request' pair new) :
    db'.signers.map Signer.id = db.signers.map Signer.id := by
  rw [h.logged.signers_eq]
  cases pair with
  | none => rfl
  | some pair => exact Table.map_key_alter (fun _ _ => rfl) db.signers

theorem Changes.signers_requests {request' : SignatureRequest} {pair : Option (Signer × Signer)}
    {new : List (Option Uuid × String)} (h : Changes db db' request request' pair new) :
    ∀ s ∈ db'.signers, ∃ s₀ ∈ db.signers, s.signatureRequestId = s₀.signatureRequestId := by
  rw [h.logged.signers_eq]
  cases pair with
  | none => exact fun s hs => ⟨s, hs, rfl⟩
  | some pair =>
    obtain ⟨signer, signer'⟩ := pair
    intro s hs
    obtain ⟨s₀, hs₀, rfl⟩ := Table.mem_alter.mp hs
    split_ifs
    · exact ⟨signer, (mem_signersOf.mp (h.signer_mem _ _ rfl)).1, h.signer_request _ _ rfl⟩
    · exact ⟨s₀, hs₀, rfl⟩

theorem Changes.valid {request' : SignatureRequest} {pair : Option (Signer × Signer)}
    {new : List (Option Uuid × String)} (h : Changes db db' request request' pair new)
    (hvalid : Valid db) : Valid db' where
  requests_nodup := h.requests_ids ▸ hvalid.requests_nodup
  signers_nodup := h.signers_ids ▸ hvalid.signers_nodup
  signer_known := by
    intro s hs
    obtain ⟨s₀, hs₀, hsame⟩ := h.signers_requests s hs
    rw [h.requests_ids, hsame]
    exact hvalid.signer_known s₀ hs₀
  entry_known := by
    intro e he
    rw [h.requests_ids]
    rcases h.logged.entries_mem e he with he | he
    · have hentries : (changedDb db request' pair).entries = db.entries := by
        cases pair with
        | none => rfl
        | some pair => rfl
      exact hvalid.entry_known e (hentries ▸ he)
    · rw [he]
      exact List.mem_map_of_mem (Table.mem_of_find h.found)
  reconstructed := by
    intro r hr
    rw [h.signersOf_eq hvalid, h.logged.trail_eq, trail_changedDb]
    rcases h.requests_mem hr with rfl | ⟨hr, hne⟩
    · rw [if_pos h.id_eq, if_pos h.id_eq, h.id_eq]
      refine (hvalid.reconstructed request (Table.mem_of_find h.found)).change ?_ h.change
      exact fun signer signer' hpair =>
        ⟨h.signer_mem signer signer' hpair, h.signer_id signer signer' hpair⟩
    · rw [if_neg hne, if_neg hne, List.append_nil]
      exact hvalid.reconstructed r hr

theorem Reconstructed.created {signers : List Signer} (hne : signers ≠ [])
    (hstatus : ∀ s ∈ signers, s.status = .pending) :
    Reconstructed .draft signers [(none, "created")] := by
  obtain ⟨s₀, hs₀⟩ := List.exists_mem_of_ne_nil signers hne
  refine ⟨rfl, fun s hs => (hstatus s hs).symm, fun s hs => ?_, ?_,
    fun hpart => absurd hpart (by decide), ?_⟩
  · rw [hstatus s hs, if_neg (by decide)]
    exact signatures_eq_zero (by simp)
  · refine iff_of_false (by decide) fun hall => ?_
    have hsigned := hall s₀ hs₀
    rw [hstatus s₀ hs₀] at hsigned
    cases hsigned
  · exact iff_of_false (by decide) (by simp)

theorem Creates.valid {signers : List Signer} (h : Creates db db' request signers)
    (hvalid : Valid db) : Valid db' where
  requests_nodup := by
    rw [h.requests_eq]
    exact Table.nodup_append_singleton hvalid.requests_nodup h.fresh
  signers_nodup := h.signers_nodup hvalid.signers_nodup
  signer_known := by
    intro s hs
    rw [h.requests_eq, List.map_append, List.mem_append]
    rw [h.signers_eq] at hs
    rcases List.mem_append.mp hs with hs | hs
    · exact Or.inl (hvalid.signer_known s hs)
    · exact Or.inr (List.mem_singleton.mpr (h.signer_request s hs))
  entry_known := by
    intro e he
    rw [h.requests_eq, List.map_append, List.mem_append]
    rcases h.entries_mem e he with he | he
    · exact Or.inl (hvalid.entry_known e he)
    · exact Or.inr (List.mem_singleton.mpr he)
  reconstructed := by
    intro r hr
    have hsigners : signersOf db'.toDb r.id =
        signersOf db.toDb r.id++signers.filter (fun s => s.signatureRequestId = r.id) := by
      rw [signersOf, h.signers_eq, List.filter_append]
      rfl
    rw [h.requests_eq] at hr
    rw [hsigners, h.trail_eq]
    rcases List.mem_append.mp hr with hr | hr
    · -- the new rows belong to the new request
      have hnone : signers.filter (fun s => s.signatureRequestId = r.id) = [] := by
        refine List.filter_eq_nil_iff.mpr fun s hs => ?_
        rw [h.signer_request s hs, decide_eq_true_iff]
        exact Ne.symm (h.fresh r hr)
      rw [hnone, if_neg (h.fresh r hr), List.append_nil, List.append_nil]
      exact hvalid.reconstructed r hr
    · obtain rfl := List.mem_singleton.mp hr
      -- and the old ones to older requests
      have hunknown : r.id ∉ db.requests.map SignatureRequest.id := by
        intro hmem
        obtain ⟨r₀, hr₀, hid⟩ := List.mem_map.mp hmem
        exact h.fresh r₀ hr₀ hid
      have hall : signers.filter (fun s => s.signatureRequestId = r.id) = signers :=
        List.filter_eq_self.mpr fun s hs => decide_eq_true (h.signer_request s hs)
      have hnone : signersOf db.toDb r.id = [] := by
        refine List.filter_eq_nil_iff.mpr fun s hs hid => hunknown ?_
        rw [← of_decide_eq_true hid]
        exact hvalid.signer_known s hs
      have hentries : entriesOf db r.id = [] := by
        refine List.filter_eq_nil_iff.mpr fun e he hid => hunknown ?_
        rw [← of_decide_eq_true hid]
        exact hvalid.entry_known e he
      have htrail : trail db r.id = [] := by rw [trail, hentries, List.map_nil]
      rw [hnone, hall, htrail, if_pos rfl, h.status_eq]
      exact .created h.signers_ne_nil h.signer_status

theorem Effect.valid (h : Effect db db') (hvalid : Valid db) : Valid db' := by
  cases h with
  | same h => exact h ▸ hvalid
  | created request signers h => exact h.valid hvalid
  | changed request request' pair new h => exact h.valid hvalid

theorem Valid.trailReconstructs (hvalid : Valid db) : TrailReconstructs db :=
  fun request hmem => (hvalid.reconstructed request hmem).trailTells

end

/-- The e-signature tables of a new installation. -/
def noRequests (documents : List Matters.Document) (matters : List Matters.Matter) : TrailDb where
  requests := []
  signers := []
  documents := documents
  matters := matters

theorem noRequests_valid (documents : List Matters.Document) (matters : List Matters.Matter) :
    Valid (noRequests documents matters) where
  requests_nodup := List.nodup_nil
  signers_nodup := List.nodup_nil
  signer_known := by simp [noRequests]
  entry_known := by simp [noRequests]
  reconstructed := by simp [noRequests]

/-- Whatever calls follow each other, the committed entries of every request, taken in the
order they were written, tell its committed status and those of all its signers. -/
theorem trail_reconstructs_throughout (documents : List Matters.Document)
    (matters : List Matters.Matter) (rs : List (Environment × TrailCall)) :
    Throughout (serve esignHandle) TrailReconstructs (noRequests documents matters) rs := by
  refine throughout_iff_prefix.mpr fun bs _ t _ hrun => ?_
  refine (exec_invariant (I := Valid) (fun s r t hs hstep => ?_) (noRequests_valid documents matters)
    hrun).trailReconstructs
  exact serve_invariant (fun _ _ _ _ hvalid h => (esignHandle_effect hvalid h).valid hvalid) hs hstep

end LegalForge.Esign
