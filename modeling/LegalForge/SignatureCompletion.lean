import LegalForge.SignatureFinality

/-! When a request is completed that all its signers have signed, over every
interleaving of `sign_document` calls. -/
namespace LegalForge.Esign
open Auth Transition ReadCommitted

/-- The request is completed, with its time and its certificate. -/
def Done (db : Db) (requestId : Uuid) : Prop :=
  ∃ request, getRequest db requestId = some request ∧ request.status = .completed ∧
    request.completedAt.isSome = true ∧ request.certificateStorageKey.isSome = true

/-- A call of the signer has committed. -/
def Called {Tx : Type*} (s : EsignState Tx) (signerId : Uuid) : Prop :=
  ∃ t w loaded changed, s.session t = .returned w ∧ w.signer = some (loaded, changed) ∧
    loaded.id = signerId

/-- Once a call of every signer has committed, the request is completed. -/
def CompletedOnceSigned {Tx : Type*} (requestId : Uuid) (s : EsignState Tx) : Prop :=
  (∀ signer ∈ signersOf s.committed requestId, Called s signer.id) → Done s.committed requestId

/-- The last signature is committed by a session that has read all the others, or by
one that leaves the row of a completed request alone. -/
def SeesLast (requestId : Uuid) (db : Db) : Session → Prop
  | .writing w _ => ∀ signer signer' request request', w.signer = some (signer, signer') →
      w.request = some (request, request') → request.id = requestId →
      (∀ other ∈ signersOf db requestId, other.id ≠ signer.id → other.status = .signed) →
      allSigned w.signers signer.id = true ∨
        request.status = .partiallySigned ∧ requestStatus db requestId = some .completed
  | _ => True

/-- The statement does not begin a call other than `sign_document`. -/
def SignLabel {Tx : Type*} (l : EsignLabel Tx) : Prop :=
  ∀ t call, l = .stmt t (.query call) → ∃ accessToken ipAddress userAgent,
    call = .sign accessToken ipAddress userAgent

/-- A request that was sent and that nobody has signed. -/
structure Unsigned (requestId : Uuid) (db : Db) : Prop where
  unique : (db.signers.map Signer.id).Nodup
  request : ∃ request, getRequest db requestId = some request ∧ request.status ≠ .completed ∧
    request.completedAt = none ∧ request.certificateStorageKey = none
  signer : signersOf db requestId ≠ []
  unsigned : ∀ signer ∈ signersOf db requestId, signer.status ≠ .signed

/-! One call. -/

/-- What a `sign_document` call writes. -/
structure SignWrites (w : Writes) (signer signer' : Signer) (request request' : SignatureRequest) :
    Prop where
  writesSigner : w.signer = some (signer, signer')
  writesRequest : w.request = some (request, request')
  unsigned : signer.status ≠ .signed
  signed : signer'.status = .signed
  isOpen : request.status = .pending ∨ request.status = .partiallySigned
  owner : signer.signatureRequestId = request.id
  after : ∃ now, request' = requestAfterSign signer request w.signers now

theorem signDecision_cases {signer : Signer} {request : SignatureRequest} (signers : List Signer)
    (ipAddress userAgent : Option String) (now : Instant)
    (howner : signer.signatureRequestId = request.id) :
    (∃ error, signDecision signer request signers ipAddress userAgent now = .raised error) ∨
    ∃ w signer' unsent, signDecision signer request signers ipAddress userAgent now =
        .writing w unsent ∧ w.signers = signers ∧
      SignWrites w signer signer' request (requestAfterSign signer request signers now) := by
  unfold signDecision
  split_ifs with hexpired hclosed hsigned hdeclined
  · exact Or.inl ⟨_, rfl⟩
  · exact Or.inl ⟨_, rfl⟩
  · exact Or.inl ⟨_, rfl⟩
  · exact Or.inl ⟨_, rfl⟩
  · -- the request is open and the signer has neither signed nor declined
    have hopen : request.status = .pending ∨ request.status = .partiallySigned := by
      simpa only [isOpen, Bool.not_eq_true', decide_eq_false_iff_not, not_not] using hclosed
    split
    · exact Or.inr ⟨_, _, _, rfl, rfl, rfl, rfl, hsigned, rfl, hopen, howner, now, rfl⟩
    · exact Or.inl ⟨_, rfl⟩

/-- What a statement of a call does to its session. -/
theorem esignStmt_cases {db : Db} {m m' : Session} {a : Statement}
    (h : esignStmt db m a = some m') :
    (∃ call, m = .idle ∧ a = .query call ∧ m' = query db call) ∨
    (∃ call signer, m = .signerLoaded call signer ∧
      ((∃ error, m' = .raised error) ∨ ∃ request,
        getRequest db signer.signatureRequestId = some request ∧
        m' = .requestLoaded call (some signer) request)) ∨
    (∃ call signer request now, m = .requestLoaded call signer request ∧
      m' = decision call signer request (signersOf db request.id) now) ∨
    ∃ w update unsent, m = .writing w (update :: unsent) ∧ m' = .writing w unsent := by
  unfold esignStmt at h
  split at h
  · rename_i call
    exact Or.inl ⟨call, rfl, rfl, (Option.some.inj h).symm⟩
  · rename_i call signer
    refine Or.inr (Or.inl ⟨call, signer, rfl, ?_⟩)
    split at h
    · exact Or.inl ⟨_, (Option.some.inj h).symm⟩
    · rename_i request hrequest
      exact Or.inr ⟨request, hrequest, (Option.some.inj h).symm⟩
  · rename_i call signer request now
    exact Or.inr (Or.inr (Or.inl ⟨call, signer, request, now, rfl, (Option.some.inj h).symm⟩))
  · rename_i w update unsent
    exact Or.inr (Or.inr (Or.inr ⟨w, update, unsent, rfl, (Option.some.inj h).symm⟩))
  · cases h

/-! What the commits of `sign_document` do to the tables. -/

/-- Rows stay, and signatures stay. -/
structure Advances (db db' : Db) : Prop where
  forth : ∀ cur ∈ db.signers, ∃ cur' ∈ db'.signers, cur'.id = cur.id ∧
    cur'.signatureRequestId = cur.signatureRequestId ∧
    (cur.status = .signed → cur'.status = .signed)
  back : ∀ cur' ∈ db'.signers, ∃ cur ∈ db.signers, cur.id = cur'.id ∧
    cur.signatureRequestId = cur'.signatureRequestId ∧
    (cur.status = .signed → cur'.status = .signed)

section
variable {db : Db} {w : Writes} {signer signer' : Signer} {request request' : SignatureRequest}

theorem mem_applyWrites (hw : w.signer = some (signer, signer')) {cur' : Signer} :
    cur' ∈ (applyWrites db w).signers ↔ ∃ cur ∈ db.signers,
      (if cur.id = signer.id then updatedSigner signer signer' cur else cur) = cur' := by
  simp only [applyWrites, hw, writeSigner, Table.mem_alter]

theorem SignWrites.updatedSigner_status (hw : SignWrites w signer signer' request request')
    (cur : Signer) : (updatedSigner signer signer' cur).status = .signed := by
  have hne : signer'.status ≠ signer.status := by
    rw [hw.signed]
    exact Ne.symm hw.unsigned
  exact (if_neg hne).trans hw.signed

theorem SignWrites.advances (hw : SignWrites w signer signer' request request') :
    Advances db (applyWrites db w) := by
  have hrow : ∀ cur : Signer, ∀ cur', (if cur.id = signer.id then updatedSigner signer signer' cur
      else cur) = cur' → cur'.id = cur.id ∧ cur'.signatureRequestId = cur.signatureRequestId ∧
      (cur.status = .signed → cur'.status = .signed) := by
    rintro cur cur' rfl
    split_ifs
    · exact ⟨rfl, rfl, fun _ => hw.updatedSigner_status cur⟩
    · exact ⟨rfl, rfl, id⟩
  constructor
  · intro cur hcur
    exact ⟨_, (mem_applyWrites hw.writesSigner).mpr ⟨cur, hcur, rfl⟩, hrow cur _ rfl⟩
  · intro cur' hcur'
    obtain ⟨cur, hcur, heq⟩ := (mem_applyWrites hw.writesSigner).mp hcur'
    obtain ⟨hid, howner, hsigned⟩ := hrow cur cur' heq
    exact ⟨cur, hcur, hid.symm, howner.symm, hsigned⟩

theorem map_id_applyWrites (hw : w.signer = some (signer, signer')) :
    (applyWrites db w).signers.map Signer.id = db.signers.map Signer.id := by
  simp only [applyWrites, hw, writeSigner]
  exact Table.map_key_alter (by intro x hx; exact hx) db.signers

/-- The row of the request after the commit of a signature. -/
theorem SignWrites.getRequest_applyWrites (hw : SignWrites w signer signer' request request')
    {row : SignatureRequest} (hrow : getRequest db request.id = some row) :
    getRequest (applyWrites db w) request.id = some (updatedRequest request request' row) := by
  rw [Esign.getRequest_applyWrites hw.writesRequest, if_pos rfl, hrow]
  rfl

/-- A session that has read all the others as signed completes the request. -/
theorem updatedRequest_completed (hw : SignWrites w signer signer' request request')
    (hall : allSigned w.signers signer.id = true) (hnew : request.completedAt = none ∧
      request.certificateStorageKey = none) (row : SignatureRequest) :
    (updatedRequest request request' row).status = .completed ∧
      (updatedRequest request request' row).completedAt.isSome = true ∧
      (updatedRequest request request' row).certificateStorageKey.isSome = true := by
  obtain ⟨now, rfl⟩ := hw.after
  have hstatus : request.status ≠ .completed := by
    rcases hw.isOpen with h | h <;> rw [h] <;> decide
  simp only [updatedRequest, requestAfterSign, hall, if_true, hnew.1, hnew.2]
  refine ⟨?_, rfl, rfl⟩
  rw [Table.assigned, if_neg hstatus.symm]

/-- Any other session leaves the time and the certificate alone. -/
theorem updatedRequest_partial (hw : SignWrites w signer signer' request request')
    (hall : ¬allSigned w.signers signer.id = true) (row : SignatureRequest) :
    (updatedRequest request request' row).status =
        Table.assigned request.status .partiallySigned row.status ∧
      (updatedRequest request request' row).completedAt = row.completedAt ∧
      (updatedRequest request request' row).certificateStorageKey = row.certificateStorageKey := by
  obtain ⟨now, rfl⟩ := hw.after
  have hafter : requestAfterSign signer request w.signers now =
      { request with status := .partiallySigned } := if_neg hall
  rw [hafter]
  exact ⟨rfl, Table.assigned_self _ _, Table.assigned_self _ _⟩

end

/-! What holds of the tables and of each session. -/

/-- A request that is not completed has neither time nor certificate; a completed
one has both, and all its signers have signed. -/
structure RequestOk (requestId : Uuid) (db : Db) : Prop where
  exists_row : ∃ request, getRequest db requestId = some request
  unfinished : ∀ request, getRequest db requestId = some request → request.status ≠ .completed →
    request.completedAt = none ∧ request.certificateStorageKey = none
  finished : ∀ request, getRequest db requestId = some request → request.status = .completed →
    request.completedAt.isSome = true ∧ request.certificateStorageKey.isSome = true ∧
    ∀ signer ∈ signersOf db requestId, signer.status = .signed

/-- The row of a loaded signer. -/
def Stored (db : Db) (signer : Signer) : Prop :=
  ∃ cur ∈ db.signers, cur.id = signer.id ∧ cur.signatureRequestId = signer.signatureRequestId

def IsSign (call : Call) : Prop :=
  ∃ accessToken ipAddress userAgent, call = .sign accessToken ipAddress userAgent

/-- A session has read every signer of the request, and whom it read as signed has
signed. -/
def ReadAll (requestId : Uuid) (db : Db) (signers : List Signer) : Prop :=
  ∀ cur ∈ signersOf db requestId, ∃ read ∈ signers, read.id = cur.id ∧
    (read.status = .signed → cur.status = .signed)

def Unfinished (request : SignatureRequest) : Prop :=
  request.status ≠ .completed → request.completedAt = none ∧ request.certificateStorageKey = none

/-- What a session of `sign_document` relies on. -/
def SessionOk (requestId : Uuid) (db : Db) : Session → Prop
  | .idle => True
  | .signerLoaded call signer => IsSign call ∧ Stored db signer
  | .requestLoaded call signer request => IsSign call ∧ ∃ loaded, signer = some loaded ∧
      Stored db loaded ∧ loaded.signatureRequestId = request.id ∧
      (request.id = requestId → Unfinished request)
  | .writing w _ => ∃ signer signer' request request',
      SignWrites w signer signer' request request' ∧ Stored db signer ∧
      (request.id = requestId → Unfinished request ∧ ReadAll requestId db w.signers)
  | .returned w => ∃ signer signer', w.signer = some (signer, signer') ∧ Stored db signer ∧
      ∀ cur ∈ db.signers, cur.id = signer.id → cur.status = .signed
  | .raised _ => True

theorem Stored.advance {db db' : Db} (h : Advances db db') {signer : Signer}
    (hs : Stored db signer) : Stored db' signer := by
  obtain ⟨cur, hcur, hid, howner⟩ := hs
  obtain ⟨cur', hcur', hid', howner', -⟩ := h.forth cur hcur
  exact ⟨cur', hcur', hid'.trans hid, howner'.trans howner⟩

theorem ReadAll.advance {db db' : Db} (h : Advances db db') {requestId : Uuid}
    {signers : List Signer} (hs : ReadAll requestId db signers) : ReadAll requestId db' signers := by
  intro cur' hcur'
  obtain ⟨hmem, howner⟩ := mem_signersOf.mp hcur'
  obtain ⟨cur, hcur, hid, howner', hsigned⟩ := h.back cur' hmem
  obtain ⟨read, hread, hreadId, hreadSigned⟩ :=
    hs cur (mem_signersOf.mpr ⟨hcur, howner'.trans howner⟩)
  exact ⟨read, hread, hreadId.trans hid, fun hr => hsigned (hreadSigned hr)⟩

/-- No commit of the others takes anything of it away. -/
theorem SessionOk.advance {db db' : Db} (h : Advances db db') {requestId : Uuid} {m : Session}
    (hm : SessionOk requestId db m) : SessionOk requestId db' m := by
  cases m with
  | idle => trivial
  | signerLoaded call signer => exact ⟨hm.1, hm.2.advance h⟩
  | requestLoaded call signer request =>
    obtain ⟨hcall, loaded, heq, hstored, hrest⟩ := hm
    exact ⟨hcall, loaded, heq, hstored.advance h, hrest⟩
  | writing w unsent =>
    obtain ⟨signer, signer', request, request', hw, hstored, hread⟩ := hm
    exact ⟨signer, signer', request, request', hw, hstored.advance h,
      fun hid => ⟨(hread hid).1, (hread hid).2.advance h⟩⟩
  | returned w =>
    obtain ⟨signer, signer', hw, hstored, hsigned⟩ := hm
    refine ⟨signer, signer', hw, hstored.advance h, fun cur' hcur' hid => ?_⟩
    obtain ⟨cur, hcur, hid', -, hkeep⟩ := h.back cur' hcur'
    exact hkeep (hsigned cur hcur (hid'.trans hid))
  | raised error => trivial

theorem querySigner_ok {db : Db} {call : Call} {accessToken : String} {requestId : Uuid}
    (hcall : IsSign call) : SessionOk requestId db (querySigner db call accessToken) := by
  unfold querySigner
  split
  · trivial
  · rename_i signer hsigner
    exact ⟨hcall, signer, Table.mem_of_find hsigner, rfl, rfl⟩

theorem sessionOk_stmt {db : Db} {requestId : Uuid} {m m' : Session} {a : Statement}
    (hdb : RequestOk requestId db) (hm : SessionOk requestId db m)
    (hquery : ∀ call, a = .query call → IsSign call) (h : esignStmt db m a = some m') :
    SessionOk requestId db m' := by
  rcases esignStmt_cases h with ⟨call, -, ha, rfl⟩ | ⟨call, signer, rfl, hnext⟩ |
    ⟨call, signer, request, now, rfl, rfl⟩ | ⟨w, update, unsent, rfl, rfl⟩
  · obtain ⟨accessToken, ipAddress, userAgent, rfl⟩ := hquery call ha
    exact querySigner_ok ⟨accessToken, ipAddress, userAgent, rfl⟩
  · rcases hnext with ⟨error, rfl⟩ | ⟨request, hrequest, rfl⟩
    · trivial
    · have hid : request.id = signer.signatureRequestId := Table.key_of_find hrequest
      refine ⟨hm.1, signer, rfl, hm.2, hid.symm, fun hsame => ?_⟩
      rw [← hid, hsame] at hrequest
      exact hdb.unfinished request hrequest
  · obtain ⟨⟨accessToken, ipAddress, userAgent, rfl⟩, loaded, rfl, hstored, howner, hfresh⟩ := hm
    rcases signDecision_cases (signersOf db request.id) ipAddress userAgent now howner with
      ⟨error, heq⟩ | ⟨w, signer', unsent, heq, hsigners, hw⟩
    · rw [decision, heq]
      trivial
    · rw [decision, heq]
      refine ⟨loaded, signer', request, _, hw, hstored, fun hid => ⟨hfresh hid, ?_⟩⟩
      rw [hsigners, hid]
      exact fun cur hcur => ⟨cur, hcur, rfl, id⟩
  · exact hm

/-! A commit, for the request it belongs to and for another one. -/

section
variable {db : Db} {w : Writes} {signer signer' : Signer} {request request' : SignatureRequest}
  {requestId : Uuid}

def OthersSigned (db : Db) (requestId signerId : Uuid) : Prop :=
  ∀ other ∈ signersOf db requestId, other.id ≠ signerId → other.status = .signed

theorem signed_after_iff (hw : SignWrites w signer signer' request request') :
    (∀ cur' ∈ signersOf (applyWrites db w) requestId, cur'.status = .signed) ↔
      OthersSigned db requestId signer.id := by
  constructor
  · intro h other hother hne
    obtain ⟨hmem, howner⟩ := mem_signersOf.mp hother
    refine h other (mem_signersOf.mpr ⟨?_, howner⟩)
    exact (mem_applyWrites hw.writesSigner).mpr ⟨other, hmem, if_neg hne⟩
  · intro h cur' hcur'
    obtain ⟨hmem', howner'⟩ := mem_signersOf.mp hcur'
    obtain ⟨cur, hcur, rfl⟩ := (mem_applyWrites hw.writesSigner).mp hmem'
    split_ifs at howner' ⊢ with hid
    · exact hw.updatedSigner_status cur
    · exact h cur (mem_signersOf.mpr ⟨hcur, howner'⟩) hid

/-- The signers of another request have other keys. -/
theorem ne_of_otherRequest (hunique : (db.signers.map Signer.id).Nodup) (hstored : Stored db signer)
    (hother : signer.signatureRequestId ≠ requestId) {cur : Signer}
    (hcur : cur ∈ signersOf db requestId) : cur.id ≠ signer.id := by
  obtain ⟨row, hrow, hid, howner⟩ := hstored
  obtain ⟨hmem, hcurOwner⟩ := mem_signersOf.mp hcur
  intro hsame
  have heq : cur = row := List.inj_on_of_nodup_map hunique hmem hrow (hsame.trans hid.symm)
  rw [heq, howner] at hcurOwner
  exact hother hcurOwner

theorem othersSigned_iff_of_otherRequest (hunique : (db.signers.map Signer.id).Nodup)
    (hstored : Stored db signer) (hother : signer.signatureRequestId ≠ requestId) :
    OthersSigned db requestId signer.id ↔
      ∀ cur ∈ signersOf db requestId, cur.status = .signed := by
  refine forall_congr' fun cur => imp_congr_right fun hcur => ?_
  exact imp_iff_right (ne_of_otherRequest hunique hstored hother hcur)

theorem getRequest_of_otherRequest (hw : SignWrites w signer signer' request request')
    (hother : request.id ≠ requestId) : getRequest (applyWrites db w) requestId =
      getRequest db requestId := by
  rw [getRequest_applyWrites hw.writesRequest, if_neg hother]

theorem isOpen_ne_completed (hw : SignWrites w signer signer' request request') :
    request.status ≠ .completed := by
  rcases hw.isOpen with h | h <;> rw [h] <;> decide

/-- Whether the request is completed after the last signature. -/
theorem done_after_iff (hw : SignWrites w signer signer' request request')
    (hdb : RequestOk request.id db) (hfresh : Unfinished request) :
    Done (applyWrites db w) request.id ↔ allSigned w.signers signer.id = true ∨
      request.status = .partiallySigned ∧ requestStatus db request.id = some .completed := by
  obtain ⟨row, hrow⟩ := hdb.exists_row
  have hafter := hw.getRequest_applyWrites hrow
  have hdone : Done (applyWrites db w) request.id ↔
      (updatedRequest request request' row).status = .completed ∧
      (updatedRequest request request' row).completedAt.isSome = true ∧
      (updatedRequest request request' row).certificateStorageKey.isSome = true := by
    rw [Done, hafter]
    constructor
    · rintro ⟨row', heq, h⟩
      rwa [Option.some.inj heq]
    · exact fun h => ⟨_, rfl, h⟩
  rw [hdone]
  by_cases hall : allSigned w.signers signer.id = true
  · exact iff_of_true (updatedRequest_completed hw hall (hfresh (isOpen_ne_completed hw)) row)
      (Or.inl hall)
  · obtain ⟨hstatus, htime, hkey⟩ := updatedRequest_partial hw hall row
    rw [hstatus, htime, hkey, or_iff_right hall, requestStatus, hrow]
    rcases hw.isOpen with hpending | hpart
    · -- the session writes partially_signed over whatever is there
      have hwritten : Table.assigned SignatureRequestStatus.pending .partiallySigned row.status =
          .partiallySigned := if_neg (by decide)
      rw [hpending, hwritten]
      exact iff_of_false (fun h => absurd h.1 (by decide)) (fun h => absurd h.1 (by decide))
    · rw [hpart, Table.assigned_self, Option.map_some, Option.some.injEq]
      constructor
      · exact fun h => ⟨rfl, h.1⟩
      · rintro ⟨-, hcompleted⟩
        obtain ⟨htime', hkey', -⟩ := hdb.finished row hrow hcompleted
        exact ⟨hcompleted, htime', hkey'⟩

/-- The request stays in order when its last signature completes it. -/
theorem requestOk_after (hw : SignWrites w signer signer' request request')
    (hdb : RequestOk request.id db) (hfresh : Unfinished request)
    (hread : ReadAll request.id db w.signers)
    (hlast : OthersSigned db request.id signer.id → Done (applyWrites db w) request.id) :
    RequestOk request.id (applyWrites db w) := by
  obtain ⟨row, hrow⟩ := hdb.exists_row
  have hafter := hw.getRequest_applyWrites hrow
  by_cases hall : allSigned w.signers signer.id = true
  · obtain ⟨hstatus, htime, hkey⟩ :=
      updatedRequest_completed hw hall (hfresh (isOpen_ne_completed hw)) row
    have hothers : OthersSigned db request.id signer.id := by
      intro other hother hne
      obtain ⟨read, hmem, hid, hsigned⟩ := hread other hother
      have hcase := of_decide_eq_true (List.all_eq_true.mp hall read hmem)
      exact hsigned (hcase.resolve_right fun hsame => hne (hid.symm.trans hsame))
    refine ⟨⟨_, hafter⟩, fun q hq hne => ?_, fun q hq _ => ?_⟩
    · rw [hafter] at hq
      exact absurd (Option.some.inj hq ▸ hstatus) hne
    · rw [hafter] at hq
      obtain rfl := Option.some.inj hq
      exact ⟨htime, hkey, (signed_after_iff hw).mpr hothers⟩
  · obtain ⟨hstatus, htime, hkey⟩ := updatedRequest_partial hw hall row
    refine ⟨⟨_, hafter⟩, fun q hq hne => ?_, fun q hq hcompleted => ?_⟩
    · -- a completed request would have been completed again
      rw [hafter] at hq
      have hunfinished : row.status ≠ .completed := by
        intro hcompleted
        obtain ⟨-, -, hsigned⟩ := hdb.finished row hrow hcompleted
        obtain ⟨q', hq', hq'status, -⟩ := hlast fun other hother _ => hsigned other hother
        rw [hafter] at hq'
        rw [Option.some.inj (hq.symm.trans hq')] at hne
        exact hne hq'status
      have hnone := hdb.unfinished row hrow hunfinished
      obtain rfl := Option.some.inj hq
      exact ⟨htime.trans hnone.1, hkey.trans hnone.2⟩
    · rw [hafter] at hq
      obtain rfl := Option.some.inj hq
      rcases hw.isOpen with hpending | hpart
      · have hwritten : Table.assigned SignatureRequestStatus.pending .partiallySigned row.status =
            .partiallySigned := if_neg (by decide)
        rw [hstatus, hpending, hwritten] at hcompleted
        exact absurd hcompleted (by decide)
      · rw [hstatus, hpart, Table.assigned_self] at hcompleted
        obtain ⟨htime', hkey', hsigned⟩ := hdb.finished row hrow hcompleted
        refine ⟨by rw [htime]; exact htime', by rw [hkey]; exact hkey', ?_⟩
        exact (signed_after_iff hw).mpr fun other hother _ => hsigned other hother

theorem requestOk_of_otherRequest (hw : SignWrites w signer signer' request request')
    (hdb : RequestOk requestId db) (hother : request.id ≠ requestId) :
    RequestOk requestId (applyWrites db w) := by
  have hsame : getRequest (applyWrites db w) requestId = getRequest db requestId :=
    getRequest_of_otherRequest hw hother
  refine ⟨hsame ▸ hdb.exists_row, fun q hq => hdb.unfinished q (hsame ▸ hq), fun q hq hstatus => ?_⟩
  obtain ⟨htime, hkey, hsigned⟩ := hdb.finished q (hsame ▸ hq) hstatus
  exact ⟨htime, hkey, (signed_after_iff hw).mpr fun other hmem _ => hsigned other hmem⟩

end

/-! Runs. -/

variable {Tx : Type*} [DecidableEq Tx] {s s' : EsignState Tx} {requestId : Uuid}

structure SignInv (requestId : Uuid) (s : EsignState Tx) : Prop where
  unique : (s.committed.signers.map Signer.id).Nodup
  request : RequestOk requestId s.committed
  sessions : ∀ t, SessionOk requestId s.committed (s.session t)
  called : ∀ signer ∈ signersOf s.committed requestId, signer.status = .signed →
    Called s signer.id

omit [DecidableEq Tx] in
/-- The signers whose calls have committed are those that have signed. -/
theorem completedOnceSigned_iff
    (hsessions : ∀ t, SessionOk requestId s.committed (s.session t))
    (hcalled : ∀ signer ∈ signersOf s.committed requestId, signer.status = .signed →
      Called s signer.id) :
    CompletedOnceSigned requestId s ↔
      ((∀ signer ∈ signersOf s.committed requestId, signer.status = .signed) →
        Done s.committed requestId) := by
  refine imp_congr_left (forall_congr' fun signer => forall_congr' fun hsigner => ?_)
  constructor
  · rintro ⟨t, w, loaded, changed, hsess, hw, hid⟩
    have hok := hsessions t
    rw [hsess] at hok
    obtain ⟨loaded', changed', hw', -, hsigned⟩ := hok
    have hsame : loaded' = loaded := (Prod.mk.inj (Option.some.inj (hw'.symm.trans hw))).1
    exact hsigned signer (mem_signersOf.mp hsigner).1 (by rw [hsame, hid])
  · exact hcalled signer hsigner

theorem Called.step {l : EsignLabel Tx} (hstep : step esignProgram s l = some s')
    {signerId : Uuid} (h : Called s signerId) : Called s' signerId := by
  obtain ⟨t, w, loaded, changed, hsess, hw, hid⟩ := h
  refine ⟨t, w, loaded, changed, ?_, hw, hid⟩
  rcases step_session_cases hstep t with hsame | ⟨a, -, hm⟩ | ⟨-, hpub⟩ | ⟨-, habort⟩
  · exact hsame.trans hsess
  · rw [hsess] at hm
    cases hm
  · rw [hsess] at hpub
    cases hpub
  · rw [habort, hsess]
    rfl

/-- The commit of a `sign_document` call. -/
theorem sign_commit {t : Tx} (h : SignInv requestId s)
    (hstep : step esignProgram s (.commit t) = some s') :
    ∃ w signer signer' request request', s.session t = .writing w [] ∧
      SignWrites w signer signer' request request' ∧ Stored s.committed signer ∧
      (request.id = requestId → Unfinished request ∧ ReadAll requestId s.committed w.signers) ∧
      s'.committed = applyWrites s.committed w ∧ s'.session t = .returned w := by
  obtain ⟨db, m, hpub, rfl⟩ := step_commit_eq_some.mp hstep
  obtain ⟨w, hsess, rfl, rfl⟩ := esign_publish hpub
  have hok := h.sessions t
  rw [hsess] at hok
  obtain ⟨signer, signer', request, request', hw, hstored, hread⟩ := hok
  exact ⟨w, signer, signer', request, request', hsess, hw, hstored, hread, rfl,
    Function.update_self t _ s.session⟩

theorem sessions_step {l : EsignLabel Tx} (h : SignInv requestId s) (hl : SignLabel l)
    (hstep : step esignProgram s l = some s') :
    ∀ u, SessionOk requestId s'.committed (s'.session u) := by
  intro u
  by_cases hcommit : ∃ t, l = .commit t
  · obtain ⟨t, rfl⟩ := hcommit
    obtain ⟨w, signer, signer', request, request', -, hw, hstored, -, hdb, hreturned⟩ :=
      sign_commit h hstep
    have hadvance : Advances s.committed (applyWrites s.committed w) := hw.advances
    rw [hdb]
    by_cases hu : u = t
    · subst hu
      rw [hreturned]
      refine ⟨signer, signer', hw.writesSigner, hstored.advance hadvance, fun cur' hcur' hid => ?_⟩
      obtain ⟨cur, hcur, rfl⟩ := (mem_applyWrites hw.writesSigner).mp hcur'
      split_ifs at hid ⊢ with hsame
      · exact hw.updatedSigner_status cur
      · exact absurd hid hsame
    · rw [step_session_of_ne hstep hu]
      exact (h.sessions u).advance hadvance
  · have hno : ∀ t, l ≠ .commit t := fun t ht => hcommit ⟨t, ht⟩
    rw [step_committed_eq hstep hno]
    rcases step_session_cases hstep u with hsame | ⟨a, ha, hm⟩ | ⟨ha, -⟩ | ⟨-, habort⟩
    · rw [hsame]
      exact h.sessions u
    · refine sessionOk_stmt h.request (h.sessions u) (fun call hcall => ?_) hm
      exact hl u call (by rw [ha, hcall])
    · exact absurd ha (hno u)
    · rw [habort]
      have hold := h.sessions u
      cases hsess : s.session u with
      | returned w => rwa [hsess] at hold
      | _ => trivial

theorem called_step {l : EsignLabel Tx} (h : SignInv requestId s)
    (hstep : step esignProgram s l = some s') {cur' : Signer}
    (hcur' : cur' ∈ signersOf s'.committed requestId) (hsigned : cur'.status = .signed) :
    Called s' cur'.id := by
  by_cases hcommit : ∃ t, l = .commit t
  · obtain ⟨t, rfl⟩ := hcommit
    obtain ⟨w, signer, signer', _, _, -, hw, -, -, hdb, hreturned⟩ := sign_commit h hstep
    rw [hdb] at hcur'
    obtain ⟨hmem, howner⟩ := mem_signersOf.mp hcur'
    obtain ⟨cur, hcur, rfl⟩ := (mem_applyWrites hw.writesSigner).mp hmem
    split_ifs at hsigned howner ⊢ with hid
    · exact ⟨t, w, signer, signer', hreturned, hw.writesSigner, hid.symm⟩
    · exact (h.called cur (mem_signersOf.mpr ⟨hcur, howner⟩) hsigned).step hstep
  · rw [step_committed_eq hstep fun t ht => hcommit ⟨t, ht⟩] at hcur'
    exact (h.called cur' hcur' hsigned).step hstep

/-- A commit completes the request after the last signature exactly when it sees that
it is the last. -/
theorem completedOnceSigned_commit_iff {t : Tx} (h : SignInv requestId s)
    (hnow : CompletedOnceSigned requestId s)
    (hstep : step esignProgram s (.commit t) = some s') :
    CompletedOnceSigned requestId s' ↔ SeesLast requestId s.committed (s.session t) := by
  rw [completedOnceSigned_iff (sessions_step h (fun _ _ hl => by cases hl) hstep)
    fun _ hcur' hsigned => called_step h hstep hcur' hsigned]
  obtain ⟨w, signer, signer', request, request', hsess, hw, hstored, hread, hdb, -⟩ :=
    sign_commit h hstep
  rw [hdb, signed_after_iff hw, hsess]
  by_cases hid : request.id = requestId
  · subst hid
    rw [done_after_iff hw h.request (hread rfl).1]
    constructor
    · intro hlast signer₂ _ request₂ _ hs hq _
      obtain ⟨rfl, -⟩ := Prod.mk.inj (Option.some.inj (hw.writesSigner.symm.trans hs))
      obtain ⟨rfl, -⟩ := Prod.mk.inj (Option.some.inj (hw.writesRequest.symm.trans hq))
      exact hlast
    · exact fun hsees => hsees signer signer' request request' hw.writesSigner hw.writesRequest rfl
  · -- the request that is looked at is not the one of the commit
    have howner : signer.signatureRequestId ≠ requestId := fun heq => hid (hw.owner.symm.trans heq)
    rw [othersSigned_iff_of_otherRequest h.unique hstored howner]
    refine iff_of_true (fun hsigned => ?_) ?_
    · obtain ⟨row, hrow, hrest⟩ := (completedOnceSigned_iff h.sessions h.called).mp hnow hsigned
      exact ⟨row, (getRequest_of_otherRequest hw hid).trans hrow, hrest⟩
    · intro _ _ request₂ _ _ hq hid₂
      obtain ⟨rfl, -⟩ := Prod.mk.inj (Option.some.inj (hw.writesRequest.symm.trans hq))
      exact absurd hid₂ hid

theorem signInv_step {l : EsignLabel Tx} (h : SignInv requestId s)
    (hnow : CompletedOnceSigned requestId s) (hl : SignLabel l)
    (hstep : step esignProgram s l = some s') (hnext : CompletedOnceSigned requestId s') :
    SignInv requestId s' := by
  have hsessions := sessions_step h hl hstep
  by_cases hcommit : ∃ t, l = .commit t
  · obtain ⟨t, rfl⟩ := hcommit
    obtain ⟨w, signer, signer', request, request', -, hw, -, hread, hdb, -⟩ := sign_commit h hstep
    have hunique : (s'.committed.signers.map Signer.id).Nodup := by
      rw [hdb, map_id_applyWrites hw.writesSigner]
      exact h.unique
    have hrequest : RequestOk requestId s'.committed := by
      rw [hdb]
      by_cases hid : request.id = requestId
      · subst hid
        obtain ⟨hfresh, hall⟩ := hread rfl
        refine requestOk_after hw h.request hfresh hall fun hothers => ?_
        rw [← hdb]
        refine hnext fun cur' hcur' => called_step h hstep hcur' ?_
        rw [hdb] at hcur'
        exact (signed_after_iff hw).mpr hothers cur' hcur'
      · exact requestOk_of_otherRequest hw h.request hid
    exact ⟨hunique, hrequest, hsessions, fun _ hcur' hsigned => called_step h hstep hcur' hsigned⟩
  · have hdb := step_committed_eq hstep fun t ht => hcommit ⟨t, ht⟩
    exact ⟨hdb ▸ h.unique, hdb ▸ h.request, hsessions,
      fun _ hcur' hsigned => called_step h hstep hcur' hsigned⟩

omit [DecidableEq Tx] in
theorem signInv_start {db : Db} (h : Unsigned requestId db) :
    SignInv requestId (start db .idle : EsignState Tx) := by
  obtain ⟨request, hrow, hstatus, hnone⟩ := h.request
  refine ⟨h.unique, ⟨⟨request, hrow⟩, fun q hq _ => ?_, fun q hq hcompleted => ?_⟩,
    fun _ => trivial, fun signer hsigner hsigned => absurd hsigned (h.unsigned signer hsigner)⟩
  · obtain rfl := Option.some.inj (hrow.symm.trans hq)
    exact hnone
  · obtain rfl := Option.some.inj (hrow.symm.trans hq)
    exact absurd hcompleted hstatus

/-- In every interleaving of `sign_document` calls a request is completed as soon as a
call of every signer has committed, exactly when every commit that is the last
signature sees that it is. -/
theorem completedOnceSigned_throughout_iff {db : Db} {requestId : Uuid}
    (h : Unsigned requestId db) {ls : List (EsignLabel Tx)} (hsign : ∀ l ∈ ls, SignLabel l) :
    Throughout (step esignProgram) (CompletedOnceSigned requestId) (start db .idle) ls ↔
      Along (step esignProgram) (fun s l _ => AtCommit (SeesLast requestId) s l)
        (start db .idle) ls := by
  have hstart : CompletedOnceSigned requestId (start db .idle : EsignState Tx) := by
    intro hcalled
    obtain ⟨signer, hsigner⟩ := List.exists_mem_of_ne_nil _ h.signer
    obtain ⟨t, w, _, _, hsess, -⟩ := hcalled signer hsigner
    cases hsess
  rw [throughout_atCommit_iff_of_labels (I := SignInv requestId) (C := SeesLast requestId)
    (L := SignLabel)
    (fun _ _ _ hinv hnow hl hstep hnext => signInv_step hinv hnow hl hstep hnext)
    (fun s l s' hinv hnow hl hstep hno => by
      have hdb := step_committed_eq hstep hno
      rw [completedOnceSigned_iff (sessions_step hinv hl hstep)
        fun _ hcur' hsigned => called_step hinv hstep hcur' hsigned, hdb]
      exact (completedOnceSigned_iff hinv.sessions hinv.called).mp hnow)
    (fun _ _ _ hinv hnow hstep => completedOnceSigned_commit_iff hinv hnow hstep)
    (signInv_start h) hsign]
  exact and_iff_right hstart

def secondSigner : Signer :=
  { id := 3, signatureRequestId := 1, name := "Bob Ray", email := "bob@client.test"
    accessToken := "77e0" }

def pairDb : Db := ⟨[sentRequest], [loneSigner, secondSigner]⟩

/-- Two signers that both read the signers before either commits. -/
def lastTwo : List (EsignLabel ℕ) :=
  [.stmt 0 (.query (.sign "9d41" none none)), .stmt 0 .selectRequest, .stmt 0 (.selectSigners 5),
   .stmt 1 (.query (.sign "77e0" none none)), .stmt 1 .selectRequest, .stmt 1 (.selectSigners 6),
   .stmt 0 .flush, .stmt 0 .flush, .commit 0, .stmt 1 .flush, .stmt 1 .flush, .commit 1]

theorem unsigned_pairDb : Unsigned 1 pairDb where
  unique := by decide
  request := ⟨sentRequest, rfl, by decide, rfl, rfl⟩
  signer := by decide
  unsigned := by decide

theorem signLabel_lastTwo : ∀ l ∈ lastTwo, SignLabel l := by
  intro l hl t call heq
  subst heq
  simp only [lastTwo, List.mem_cons, Label.stmt.injEq, Statement.query.injEq, reduceCtorEq,
    and_false, false_or, or_false, List.not_mem_nil] at hl
  rcases hl with ⟨-, rfl⟩ | ⟨-, rfl⟩
  · exact ⟨_, _, _, rfl⟩
  · exact ⟨_, _, _, rfl⟩

theorem completedOnceSigned_throughout_lastTwo :
    Throughout (step esignProgram) (CompletedOnceSigned 1) (start pairDb .idle) lastTwo ↔
      Along (step esignProgram) (fun s l _ => AtCommit (SeesLast 1) s l) (start pairDb .idle)
        lastTwo :=
  completedOnceSigned_throughout_iff unsigned_pairDb signLabel_lastTwo

/-- The signer whose call has committed. -/
def returnedSigner : Session → Option Uuid
  | .returned w => w.signer.map fun pair => pair.1.id
  | _ => none

theorem called_of_returnedSigner {Tx : Type*} {s : EsignState Tx} {t : Tx} {signerId : Uuid}
    (h : returnedSigner (s.session t) = some signerId) : Called s signerId := by
  cases hsess : s.session t with
  | returned w =>
    rw [hsess] at h
    obtain ⟨⟨loaded, changed⟩, hw, hid⟩ := Option.map_eq_some_iff.mp h
    exact ⟨t, w, loaded, changed, hsess, hw, hid⟩
  | _ => rw [hsess] at h; cases h

theorem exec_lastTwo :
    (exec (step esignProgram) (start pairDb .idle) lastTwo).map (fun s =>
        (requestStatus s.committed 1, (signersOf s.committed 1).map Signer.id,
          returnedSigner (s.session 0), returnedSigner (s.session 1))) =
      some (some .partiallySigned, [2, 3], some 2, some 3) := by
  decide +kernel

/-- Both have signed, and the request stays partially signed. -/
theorem not_completedOnceSigned_lastTwo :
    ¬Throughout (step esignProgram) (CompletedOnceSigned 1) (start pairDb .idle) lastTwo := by
  intro h
  obtain ⟨s, hrun, hs⟩ := Option.map_eq_some_iff.mp exec_lastTwo
  obtain ⟨hstatus, hrest⟩ := Prod.mk.inj hs
  obtain ⟨hids, hcalls⟩ := Prod.mk.inj hrest
  obtain ⟨hfirst, hsecond⟩ := Prod.mk.inj hcalls
  have hcalled : ∀ signer ∈ signersOf s.committed 1, Called s signer.id := by
    intro signer hsigner
    have hmem : signer.id ∈ (signersOf s.committed 1).map Signer.id :=
      List.mem_map_of_mem hsigner
    rw [hids] at hmem
    rcases List.mem_cons.mp hmem with hid | hmem
    · exact hid ▸ called_of_returnedSigner hfirst
    · exact List.mem_singleton.mp hmem ▸ called_of_returnedSigner hsecond
  obtain ⟨request, hrow, hcompleted, -⟩ := h.final hrun hcalled
  rw [requestStatus, hrow, Option.map_some, hcompleted] at hstatus
  cases hstatus

end LegalForge.Esign
