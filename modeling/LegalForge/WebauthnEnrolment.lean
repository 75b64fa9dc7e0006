import LegalForge.AccessControl
import LegalForge.WebauthnLogin

/-! Security keys of users: registration, removal, and the flag that says whether a user has
any. -/
namespace LegalForge.Auth
open Transition UnitOfWork
open Access (scalarOneOrNone exists_scalarOneOrNone_iff)
open Deadlines (BoundedText intColumn)
open Esign (optVarchar)

/-- A credential with what only its registration sets. -/
structure RegisteredCredential extends WebAuthnCredential where
  name : String
  transports : Option (List Json)
  aaguid : Option String

structure EnrolmentDb where
  users : List User
  credentials : List RegisteredCredential

/-- What `verify_registration_response` returns. -/
structure RegistrationVerification where
  credentialId : Bytes
  credentialPublicKey : Bytes
  signCount : ℤ
  aaguid : Option String

/-- `verify_registration_response` of a credential and a challenge, or the text of the
exception. -/
abbrev Registrar := Json → String → Except String RegistrationVerification

/-- What a registration meets outside the tables. -/
structure RegistrationEnvironment where
  /-- The challenge in Redis, or the text of the exception -/
  challenge : Except String (Option String)
  id : Uuid
  /-- The text of an exception that the request itself runs into. -/
  exception : String

inductive EnrolmentCall where
  | complete (userId : Uuid) (credential : Json) (name : BoundedText 1 200)
      (env : RegistrationEnvironment)
  | delete (userId credentialId : Uuid)

def credentialsOf (s : EnrolmentDb) (userId : Uuid) : List RegisteredCredential :=
  s.credentials.filter fun c => c.userId = userId

/-- `get_current_user`, once the token has named the user. -/
def currentUser (s : EnrolmentDb) (userId : Uuid) : Except HttpError User :=
  match Table.find User.id userId s.users with
  | none => .error ⟨401, "User not found or inactive"⟩
  | some user => if user.isActive then .ok user else .error ⟨401, "User not found or inactive"⟩

/-- The list `credential_data["response"]["transports"]`, where it is one and not empty. Nothing
for a response without `get`. -/
def transportsList (credentialData : Json) : Option (Option (List Json)) :=
  let response :=
    if credentialData.has "response" then credentialData.get "response" else .obj []
  match response with
  | .obj _ =>
    match response.get "transports" with
    | .arr (t :: ts) => some (some (t :: ts))
    | _ => some none
  | _ => none

def newCredential (user : User) (verification : RegistrationVerification) (name : String)
    (transports : Option (List Json)) (id : Uuid) : Option RegisteredCredential := do
  let signCount ← intColumn verification.signCount
  let name ← varchar 200 name
  let aaguid ← optVarchar 100 (verification.aaguid.filter (· ≠ ""))
  some
    { id := id
      userId := user.id
      credentialId := verification.credentialId
      publicKey := verification.credentialPublicKey
      signCount := signCount
      name := name
      transports := transports
      aaguid := aaguid }

def setWebauthnEnabled (users : List User) (userId : Uuid) (enabled : Bool) : List User :=
  Table.alter User.id userId (fun user => { user with webauthnEnabled := enabled }) users

/-- The flush of a new credential, with the flag of its user. -/
def insertCredential (s : EnrolmentDb) (c : RegisteredCredential) : Option EnrolmentDb :=
  if s.credentials.all (fun e => e.id ≠ c.id ∧ e.credentialId ≠ c.credentialId) then
    some
      { users := setWebauthnEnabled s.users c.userId true
        credentials := s.credentials++[c] }
  else none

/-- `webauthn_registration_complete`, or the text of the exception. -/
def webauthnRegistrationComplete (verify : Registrar) (s : EnrolmentDb) (user : User)
    (credentialData : Json) (name : String) (env : RegistrationEnvironment) :
    Except String EnrolmentDb :=
  match env.challenge with
  | .error message => .error message
  | .ok none => .error "Registration challenge expired or not found"
  | .ok (some challenge) =>
    match verify credentialData challenge with
    | .error message => .error message
    | .ok verification =>
      match transportsList credentialData with
      | none => .error env.exception
      | some transports =>
        match (newCredential user verification name transports env.id).bind (insertCredential s) with
        | none => .error env.exception
        | some s' => .ok s'

def credentialNotFound : HttpError := ⟨404, "Credential not found"⟩

/-- `delete_webauthn_credential` -/
def deleteWebauthnCredential (s : EnrolmentDb) (credentialId userId : Uuid) :
    Except HttpError EnrolmentDb :=
  match scalarOneOrNone
      (s.credentials.filter fun c => c.id = credentialId ∧ c.userId = userId) with
  | .error error => .error error
  | .ok none => .error credentialNotFound
  | .ok (some credential) =>
    let s' := { s with
      credentials := Table.remove (fun c => c.id) credential.id s.credentials }
    match scalarOneOrNone (credentialsOf s' userId) with
    | .error error => .error error
    | .ok (some _) => .ok s'
    | .ok none =>
      match Table.find User.id userId s'.users with
      | none => .ok s'
      | some user => .ok { s' with users := setWebauthnEnabled s'.users user.id false }

def enrolmentResult (verify : Registrar) (s : EnrolmentDb) :
    EnrolmentCall → Except HttpError EnrolmentDb
  | .complete userId credentialData name env =>
    match currentUser s userId with
    | .error error => .error error
    | .ok user =>
      match webauthnRegistrationComplete verify s user credentialData name.text env with
      | .error message => .error ⟨400, message⟩
      | .ok s' => .ok s'
  | .delete userId credentialId =>
    match currentUser s userId with
    | .error error => .error error
    | .ok user => deleteWebauthnCredential s credentialId user.id

def enrol (verify : Registrar) (call : EnrolmentCall) : Handler EnrolmentDb HttpError Unit := fun s =>
  match enrolmentResult verify s call with
  | .error error => (.error error, s)
  | .ok s' => (.ok (), s')

/-- Nobody has a credential yet. -/
def unenrolled (users : List User) : EnrolmentDb where
  users := users.map fun user => { user with webauthnEnabled := false }
  credentials := []

/-- The flag of the user says whether they have a credential, and each of them can be deleted. -/
structure EnrolmentOk (userId : Uuid) (s : EnrolmentDb) : Prop where
  enabled : ∀ user ∈ s.users, user.id = userId →
    (user.webauthnEnabled = true ↔ credentialsOf s userId ≠ [])
  deletable : ∀ c ∈ credentialsOf s userId, ∃ s', deleteWebauthnCredential s c.id userId = .ok s'

/-- What every sequence of calls keeps. -/
structure EnrolmentInv (s : EnrolmentDb) : Prop where
  ids : (s.credentials.map fun c => c.id).Nodup
  enabled : ∀ user ∈ s.users, user.webauthnEnabled = true ↔ credentialsOf s user.id ≠ []

section
variable {s s' : EnrolmentDb} {userId : Uuid} {c : RegisteredCredential}

theorem mem_credentialsOf : c ∈ credentialsOf s userId ↔ c ∈ s.credentials ∧ c.userId = userId := by
  simp [credentialsOf]

/-- The flags after one was set. -/
theorem mem_setWebauthnEnabled {users : List User} {enabled : Bool} {user : User}
    (h : user ∈ setWebauthnEnabled users userId enabled) :
    user.id = userId ∧ user.webauthnEnabled = enabled ∨ user.id ≠ userId ∧ user ∈ users := by
  obtain ⟨before, hbefore, rfl⟩ := Table.mem_alter.mp h
  split_ifs with hid
  · exact Or.inl ⟨hid, rfl⟩
  · exact Or.inr ⟨hid, hbefore⟩

theorem EnrolmentInv.insertCredential (h : EnrolmentInv s) (hs : insertCredential s c = some s') :
    EnrolmentInv s' := by
  unfold Auth.insertCredential at hs
  split_ifs at hs with hfresh
  cases hs
  have hids : ∀ e ∈ s.credentials, e.id ≠ c.id := by
    intro e he
    have hkeys := of_decide_eq_true (List.all_eq_true.mp hfresh e he)
    exact hkeys.1
  refine ⟨Table.nodup_append_singleton h.ids hids, fun user huser => ?_⟩
  rw [credentialsOf, List.filter_append]
  rcases mem_setWebauthnEnabled huser with ⟨hid, henabled⟩ | ⟨hne, hbefore⟩
  · rw [henabled, List.filter_cons_of_pos (by simpa using hid.symm)]
    exact iff_of_true rfl (List.append_ne_nil_of_right_ne_nil _ (List.cons_ne_nil _ _))
  · rw [List.filter_cons_of_neg (by simpa using Ne.symm hne), List.filter_nil, List.append_nil]
    exact h.enabled user hbefore

/-- A registration that succeeds has stored one credential. -/
theorem webauthnRegistrationComplete_eq_ok {verify : Registrar} {user : User} {credentialData : Json}
    {name : String} {env : RegistrationEnvironment}
    (h : webauthnRegistrationComplete verify s user credentialData name env = .ok s') :
    ∃ c, Auth.insertCredential s c = some s' := by
  unfold webauthnRegistrationComplete at h
  split at h
  · cases h
  · cases h
  · split at h
    · cases h
    · split at h
      · cases h
      · split at h
        · cases h
        · rename_i hbind
          cases h
          obtain ⟨c, -, hinsert⟩ := Option.bind_eq_some_iff.mp hbind
          exact ⟨c, hinsert⟩

/-- The credentials that are left when one is deleted. -/
theorem credentialsOf_remove (userId credentialId : Uuid) (credentials : List RegisteredCredential) :
    (Table.remove (fun c => c.id) credentialId credentials).filter (fun c => c.userId = userId) =
      Table.remove (fun c => c.id) credentialId (credentials.filter fun c => c.userId = userId) := by
  simp only [Table.remove, List.filter_filter]
  exact List.filter_congr fun c _ => Bool.and_comm _ _

/-- The credential of a deletion that succeeds, and what is left. -/
theorem deleteWebauthnCredential_eq_ok {credentialId : Uuid}
    (h : deleteWebauthnCredential s credentialId userId = .ok s') :
    ∃ c ∈ credentialsOf s userId, c.id = credentialId ∧
      s'.credentials = Table.remove (fun c => c.id) credentialId s.credentials ∧
      (s'.users = s.users ∧ (credentialsOf s' userId ≠ [] ∨ ∀ user ∈ s.users, user.id ≠ userId) ∨
        s'.users = setWebauthnEnabled s.users userId false ∧ credentialsOf s' userId = []) := by
  unfold deleteWebauthnCredential at h
  split at h
  · cases h
  · cases h
  · rename_i c hc
    rw [Access.scalarOneOrNone_eq_ok] at hc
    have hmem : c ∈ s.credentials.filter fun c => c.id = credentialId ∧ c.userId = userId := by
      rw [hc]
      exact List.mem_singleton_self c
    obtain ⟨hcredential, hkey⟩ := List.mem_filter.mp hmem
    obtain ⟨rfl, huser⟩ := of_decide_eq_true hkey
    refine ⟨c, mem_credentialsOf.mpr ⟨hcredential, huser⟩, rfl, ?_⟩
    dsimp only at h
    split at h
    · cases h
    -- another credential is left
    · rename_i other hother
      cases h
      rw [Access.scalarOneOrNone_eq_ok] at hother
      refine ⟨rfl, Or.inl ⟨rfl, Or.inl ?_⟩⟩
      rw [hother]
      exact List.cons_ne_nil _ _
    -- it was the last one
    · rename_i hnone
      rw [Access.scalarOneOrNone_eq_ok] at hnone
      split at h
      · rename_i hfind
        cases h
        exact ⟨rfl, Or.inl ⟨rfl, Or.inr (Table.find_eq_none_iff.mp hfind)⟩⟩
      · rename_i user hfind
        cases h
        have hid : user.id = userId := Table.key_of_find hfind
        rw [hid]
        exact ⟨rfl, Or.inr ⟨rfl, hnone⟩⟩

theorem EnrolmentInv.delete {credentialId : Uuid} (h : EnrolmentInv s)
    (hs : deleteWebauthnCredential s credentialId userId = .ok s') : EnrolmentInv s' := by
  obtain ⟨c, hc, hid, hcredentials, husers⟩ := deleteWebauthnCredential_eq_ok hs
  have hothers : ∀ user ∈ s.users, user.id ≠ userId →
      (user.webauthnEnabled = true ↔ credentialsOf s' user.id ≠ []) := by
    intro user huser hne
    have hsame : credentialsOf s' user.id = credentialsOf s user.id := by
      rw [credentialsOf, hcredentials, credentialsOf_remove, Table.remove, credentialsOf,
        List.filter_eq_self]
      intro e he
      -- the credential belongs to another user
      have hnot : e.id ≠ credentialId := by
        intro heq
        have hsame := List.inj_on_of_nodup_map h.ids (mem_credentialsOf.mp he).1
          (mem_credentialsOf.mp hc).1 (heq.trans hid.symm)
        rw [hsame] at he
        exact hne ((mem_credentialsOf.mp he).2.symm.trans (mem_credentialsOf.mp hc).2)
      exact decide_eq_true hnot
    rw [hsame]
    exact h.enabled user huser
  refine ⟨?_, fun user huser => ?_⟩
  · rw [hcredentials]
    exact Table.nodup_remove h.ids
  · rcases husers with ⟨hsame, hleft⟩ | ⟨hset, hempty⟩
    · rw [hsame] at huser
      by_cases huserId : user.id = userId
      · rw [huserId]
        have hbefore := h.enabled user huser
        rw [huserId] at hbefore
        rcases hleft with hleft | hnobody
        · exact iff_of_true (hbefore.mpr (List.ne_nil_of_mem hc)) hleft
        · exact absurd huserId (hnobody user huser)
      · exact hothers user huser huserId
    · rw [hset] at huser
      rcases mem_setWebauthnEnabled huser with ⟨huserId, hdisabled⟩ | ⟨hne, hbefore⟩
      · rw [huserId, hdisabled]
        exact iff_of_false Bool.false_ne_true (not_not_intro hempty)
      · exact hothers user hbefore hne

theorem EnrolmentInv.enrol {verify : Registrar} {call : EnrolmentCall} {r : Unit} (h : EnrolmentInv s)
    (hs : enrol verify call s = (.ok r, s')) : EnrolmentInv s' := by
  unfold Auth.enrol at hs
  split at hs
  · cases hs
  · rename_i s₁ hresult
    cases hs
    cases call with
    | complete userId credentialData name env =>
      simp only [enrolmentResult] at hresult
      split at hresult
      · cases hresult
      · split at hresult
        · cases hresult
        · rename_i hcomplete
          cases hresult
          obtain ⟨c, hinsert⟩ := webauthnRegistrationComplete_eq_ok hcomplete
          exact h.insertCredential hinsert
    | delete userId credentialId =>
      simp only [enrolmentResult] at hresult
      split at hresult
      · cases hresult
      · exact h.delete hresult

/-- One of the credentials of a user can be deleted exactly if at most one other is left. -/
theorem EnrolmentInv.deletable_iff (h : EnrolmentInv s) (hc : c ∈ credentialsOf s userId) :
    (∃ s', deleteWebauthnCredential s c.id userId = .ok s') ↔ (credentialsOf s userId).length ≤ 2 := by
  have hnodup : ((credentialsOf s userId).map fun c => c.id).Nodup :=
    h.ids.sublist (List.filter_sublist.map _)
  have hfound : (s.credentials.filter fun e => e.id = c.id ∧ e.userId = userId) = [c] := by
    rw [← Table.filter_key_eq_singleton hnodup hc, credentialsOf, List.filter_filter]
    exact List.filter_congr fun e _ => Bool.decide_and _ _
  have hlength := Table.length_remove hnodup hc
  have hleft : credentialsOf { s with
      credentials := Table.remove (fun c => c.id) c.id s.credentials } userId =
      Table.remove (fun c => c.id) c.id (credentialsOf s userId) :=
    credentialsOf_remove userId c.id s.credentials
  -- the query for what is left raises on two rows
  rw [show (credentialsOf s userId).length ≤ 2 ↔
    (Table.remove (fun c => c.id) c.id (credentialsOf s userId)).length ≤ 1 by omega,
    ← exists_scalarOneOrNone_iff]
  unfold deleteWebauthnCredential
  rw [hfound]
  dsimp only [scalarOneOrNone]
  rw [hleft]
  constructor
  · rintro ⟨s', hs'⟩
    split at hs'
    · cases hs'
    · rename_i other hother
      exact ⟨_, hother⟩
    · rename_i hnone
      exact ⟨_, hnone⟩
  · rintro ⟨found, hfound⟩
    rw [hfound]
    cases found with
    | some other => exact ⟨_, rfl⟩
    | none =>
      dsimp only
      split
      · exact ⟨_, rfl⟩
      · exact ⟨_, rfl⟩

theorem EnrolmentInv.ok_iff (h : EnrolmentInv s) (userId : Uuid) :
    EnrolmentOk userId s ↔ (credentialsOf s userId).length ≤ 2 := by
  constructor
  · intro hok
    rcases heq : credentialsOf s userId with _ | ⟨c, rest⟩
    · exact Nat.zero_le 2
    · have hc : c ∈ credentialsOf s userId := by
        rw [heq]
        exact List.mem_cons_self
      rw [← heq]
      exact (h.deletable_iff hc).mp (hok.deletable c hc)
  · intro hle
    refine ⟨fun user huser hid => ?_, fun c hc => (h.deletable_iff hc).mpr hle⟩
    rw [← hid]
    exact h.enabled user huser

/-- Whatever was registered and deleted, the flag of a user says whether they have a credential
and each of them can be deleted, in every state, exactly if they have never more than two. -/
theorem enrolmentOk_throughout_iff (verify : Registrar) (users : List User) (userId : Uuid)
    (calls : List EnrolmentCall) :
    Throughout (serve (enrol verify)) (EnrolmentOk userId) (unenrolled users) calls ↔
      Throughout (serve (enrol verify)) (fun s => (credentialsOf s userId).length ≤ 2)
        (unenrolled users) calls := by
  have hinv : EnrolmentInv (unenrolled users) := by
    refine ⟨List.nodup_nil, fun user huser => ?_⟩
    obtain ⟨before, -, rfl⟩ := List.mem_map.mp huser
    exact iff_of_false nofun (not_not_intro rfl)
  have hstep : ∀ s call t, EnrolmentInv s → serve (enrol verify) s call = some t → EnrolmentInv t :=
    fun s call t hs ht => serve_invariant (fun _ _ _ _ h hs => h.enrol hs) hs ht
  rw [ throughout_iff_prefix, throughout_iff_prefix]
  constructor
  · intro h before after t hsplit hrun
    exact ((exec_invariant hstep hinv hrun).ok_iff userId).mp (h before after t hsplit hrun)
  · intro h before after t hsplit hrun
    exact ((exec_invariant hstep hinv hrun).ok_iff userId).mpr (h before after t hsplit hrun)

end

def alice : User where
  id := 1
  email := "alice@x.org"
  passwordHash := ""
  firstName := "Alice"
  lastName := "Ames"

/-- A library that accepts each response, and reads the id of the key from it. -/
def acceptAll : Registrar := fun credentialData _ =>
  .ok
    { credentialId := match credentialData.get "id" with
        | .str id => id.toList.map fun c => UInt8.ofNat c.toNat
        | _ => []
      credentialPublicKey := []
      signCount := 0
      aaguid := none }

def registerKey (id : Uuid) (key : String) : EnrolmentCall :=
  .complete 1 (.obj [("id", .str key)]) ⟨"key", by decide⟩
    { challenge := .ok (some "c")
      id := id
      exception := "" }

def threeKeys : EnrolmentDb where
  users := [{ alice with webauthnEnabled := true }]
  credentials := [(2, 97), (3, 98), (4, 99)].map fun (id, byte) =>
    { id := id
      userId := 1
      credentialId := [byte]
      publicKey := []
      name := "key"
      transports := none
      aaguid := none }

/-- None of three keys can be deleted. -/
theorem threeKeys_not_deletable : ¬Throughout (serve (enrol acceptAll)) (EnrolmentOk 1)
    (unenrolled [alice]) [registerKey 2 "a", registerKey 3 "b", registerKey 4 "c"] := by
  intro h
  have hrun : exec (serve (enrol acceptAll)) (unenrolled [alice])
      [registerKey 2 "a", registerKey 3 "b", registerKey 4 "c"] = some threeKeys := by
    rfl
  have hlast := throughout_iff_prefix.mp h _ [] threeKeys (List.append_nil _).symm hrun
  have hall : credentialsOf threeKeys 1 = threeKeys.credentials := rfl
  have hmem : threeKeys.credentials.head nofun ∈ credentialsOf threeKeys 1 := by
    rw [hall]
    exact List.head_mem _
  obtain ⟨s', hs'⟩ := hlast.deletable _ hmem
  have hraises : deleteWebauthnCredential threeKeys 2 1 = .error .internal := rfl
  exact nomatch hraises.symm.trans hs'

end LegalForge.Auth
