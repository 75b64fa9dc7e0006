import LegalForge.AccessControl
import LegalForge.AuthModels
import LegalForge.ReadCommitted
import LegalForge.SinceEvent

/-! The bearer tokens of the SCIM interface, given out, revoked and presented by requests that
run at the same time. -/
namespace LegalForge.ScimTokens
open Transition ReadCommitted
open Auth (Instant TokenDraw days varchar)
open Access (scalarOneOrNone)

structure ScimBearerToken where
  id : Uuid
  tokenHash : String
  description : String
  createdBy : Uuid
  expiresAt : Option Instant := none
  isActive : Bool := true
  lastUsedAt : Option Instant := none
  deriving DecidableEq

/-- `ScimBearerTokenCreate` -/
structure ScimBearerTokenCreate where
  description : String
  expiresInDays : Option ℤ := none

/-- `now + timedelta(days=..)`, the moments counted from the first day of the calendar. Nothing
when it is not a moment of the calendar. -/
def addDays (now : Instant) (n : ℤ) : Option Instant :=
  let moment := (now : ℤ)+n*days 1
  if 0 ≤ moment ∧ moment < days 3652059 then some moment.toNat else none

def expiryOf (now : Instant) : Option ℤ → Option (Option Instant)
  | none => some none
  | some n => (addDays now n).map some

/-- The row of `create_bearer_token`, whose plaintext is the drawn value. Nothing when it raises. -/
def newToken (sha256 : String → String) (data : ScimBearerTokenCreate) (createdBy : Uuid)
    (draw : TokenDraw) (now : Instant) : Option ScimBearerToken := do
  let expiresAt ← expiryOf now data.expiresInDays
  let description ← varchar 200 data.description
  return {
    id := draw.id
    tokenHash := sha256 draw.value
    description := description
    createdBy := createdBy
    expiresAt := expiresAt }

def invalidToken : HttpError := ⟨401, "Invalid SCIM bearer token"⟩

def revokedToken : HttpError := ⟨401, "SCIM bearer token has been revoked"⟩

def expiredToken : HttpError := ⟨401, "SCIM bearer token has expired"⟩

def isExpired (row : ScimBearerToken) (now : Instant) : Bool :=
  match row.expiresAt with
  | none => false
  | some expires => expires < now

/-- `get_scim_client`, up to the time of use that it sets. -/
def getScimClient (sha256 : String → String) (db : List ScimBearerToken) (token : String)
    (now : Instant) : Except HttpError ScimBearerToken := do
  let found ← scalarOneOrNone (db.filter fun row => row.tokenHash = sha256 token)
  match found with
  | none => .error invalidToken
  | some row =>
    if row.isActive = false then .error revokedToken
    else if isExpired row now then .error expiredToken
    else .ok row

/-- Where one request stands. -/
inductive Session where
  | idle
  | created (row : ScimBearerToken)
  | toRevoke (row : ScimBearerToken)
  | revoked (row : ScimBearerToken)
  | admitted (row : ScimBearerToken)
  | used (row : ScimBearerToken) (now : Instant)
  | finished
  | failed

inductive Statement where
  | createToken (data : ScimBearerTokenCreate) (createdBy : Uuid) (draw : TokenDraw) (now : Instant)
  /-- `revoke_bearer_token` up to the row, and from there. -/
  | selectToken (tokenId : Uuid)
  | flushRevoked
  /-- `get_scim_client` up to its checks, and from there. -/
  | authenticate (token : String) (now : Instant)
  | flushUsed (now : Instant)

def revoke (loaded current : ScimBearerToken) : ScimBearerToken :=
  { current with isActive := Table.assigned loaded.isActive false current.isActive }

def markUsed (loaded : ScimBearerToken) (now : Instant) (current : ScimBearerToken) :
    ScimBearerToken :=
  { current with lastUsedAt := Table.assigned loaded.lastUsedAt (some now) current.lastUsedAt }

/-- The hash is unique as the key is. -/
def insertToken (row : ScimBearerToken) (db : List ScimBearerToken) :
    Option (List ScimBearerToken) :=
  if row.tokenHash ∈ db.map ScimBearerToken.tokenHash then none
  else Table.insert ScimBearerToken.id row db

def tokenProgram (sha256 : String → String) :
    Program (List ScimBearerToken) Session Statement Uuid where
  locks _ m a :=
    match m, a with
    | .toRevoke row, .flushRevoked => if row.isActive then [row.id] else []
    | .admitted row, .flushUsed now => if row.lastUsedAt = some now then [] else [row.id]
    | _, _ => []
  stmt db m a :=
    match m, a with
    | .idle, .createToken data createdBy draw now =>
      match newToken sha256 data createdBy draw now with
      | none => some .failed
      | some row => some (.created row)
    | .idle, .selectToken tokenId =>
      match Table.find ScimBearerToken.id tokenId db with
      | none => some .failed
      | some row => some (.toRevoke row)
    | .toRevoke row, .flushRevoked => some (.revoked row)
    | .idle, .authenticate token now =>
      match getScimClient sha256 db token now with
      | .error _ => some .failed
      | .ok row => some (.admitted row)
    | .admitted row, .flushUsed now => some (.used row now)
    | _, _ => none
  publish db m :=
    match m with
    | .created row => (insertToken row db).map fun db' => (db', .finished)
    | .revoked row => some (Table.alter ScimBearerToken.id row.id (revoke row) db, .finished)
    | .used row now => some (Table.alter ScimBearerToken.id row.id (markUsed row now) db, .finished)
    | _ => none
  abort _ := .failed

abbrev TokenState (Tx : Type) := State (List ScimBearerToken) Session Uuid Tx
abbrev TokenLabel (Tx : Type) := Label Statement Tx

/-- The session gives the token out, with an expiry that `now` has not passed. -/
def Issues (sha256 : String → String) (token : String) (now : Instant) : Session → Prop
  | .created row => row.tokenHash = sha256 token ∧ isExpired row now = false
  | _ => False

/-- The session revokes the token. -/
def Revokes (sha256 : String → String) (token : String) : Session → Prop
  | .revoked row => row.tokenHash = sha256 token
  | _ => False

/-- A commit of a session that meets `C`. -/
def Commits {Tx : Type} (C : Session → Prop) (s : TokenState Tx) : TokenLabel Tx → Prop
  | .commit t => C (s.session t)
  | .stmt _ _ => False
  | .rollback _ => False

section
variable {sha256 : String → String} {token : String} {now : Instant} {db db' : List ScimBearerToken}
  {row current : ScimBearerToken}

/-- Keys and hashes are distinct. -/
structure Unique (db : List ScimBearerToken) : Prop where
  ids : (db.map ScimBearerToken.id).Nodup
  hashes : (db.map ScimBearerToken.tokenHash).Nodup

/-- The table holds a row of the token that admits it. -/
def Admits (sha256 : String → String) (token : String) (now : Instant)
    (db : List ScimBearerToken) : Prop :=
  ∃ row ∈ db, row.tokenHash = sha256 token ∧ row.isActive = true ∧ isExpired row now = false

/-- The query finds the row of the token or nothing. -/
theorem Unique.getScimClient_cases (h : Unique db) (sha256 : String → String) (token : String)
    (now : Instant) :
    (∃ row ∈ db, row.tokenHash = sha256 token ∧ getScimClient sha256 db token now =
      if row.isActive = false then .error revokedToken
      else if isExpired row now then .error expiredToken
      else .ok row) ∨
    (∀ row ∈ db, row.tokenHash ≠ sha256 token) ∧
      getScimClient sha256 db token now = .error invalidToken := by
  by_cases hfound : ∃ row ∈ db, row.tokenHash = sha256 token
  · obtain ⟨row, hrow, hhash⟩ := hfound
    have hrows : db.filter (fun row => row.tokenHash = sha256 token) = [row] := by
      rw [← hhash]
      exact Table.filter_key_eq_singleton h.hashes hrow
    refine Or.inl ⟨row, hrow, hhash, ?_⟩
    rw [getScimClient, hrows]
    rfl
  · have hnone : ∀ row ∈ db, row.tokenHash ≠ sha256 token :=
      fun row hrow hhash => hfound ⟨row, hrow, hhash⟩
    have hrows : db.filter (fun row => row.tokenHash = sha256 token) = [] :=
      List.filter_eq_nil_iff.mpr fun row hrow hhash => hnone row hrow (of_decide_eq_true hhash)
    refine Or.inr ⟨hnone, ?_⟩
    rw [getScimClient, hrows]
    rfl

theorem Unique.getScimClient_iff (h : Unique db) :
    (∃ row, getScimClient sha256 db token now = .ok row) ↔ Admits sha256 token now db := by
  rcases h.getScimClient_cases sha256 token now with ⟨row, hrow, hhash, hclient⟩ | ⟨hnone, hclient⟩
  · rw [hclient]
    constructor
    · rintro ⟨client, hok⟩
      split_ifs at hok with hactive hexpired
      exact ⟨row, hrow, hhash, Bool.eq_true_of_not_eq_false hactive,
        Bool.eq_false_of_not_eq_true hexpired⟩
    · rintro ⟨other, hother, hotherHash, hactive, hexpired⟩
      obtain rfl : other = row :=
        List.inj_on_of_nodup_map h.hashes hother hrow (hotherHash.trans hhash.symm)
      simp [hactive, hexpired]
  · rw [hclient]
    constructor
    · rintro ⟨client, hok⟩
      cases hok
    · rintro ⟨row, hrow, hhash, -⟩
      exact absurd hhash (hnone row hrow)

theorem Unique.getScimClient_ne_internal (h : Unique db) :
    getScimClient sha256 db token now ≠ .error .internal := by
  intro hraises
  rcases h.getScimClient_cases sha256 token now with ⟨row, -, -, hclient⟩ | ⟨-, hclient⟩
  · rw [hclient] at hraises
    split_ifs at hraises
    · cases hraises
    · cases hraises
  · rw [hclient] at hraises
    cases hraises

/-- What an UPDATE of a token may do: the row stays that of its token, and is not activated. -/
structure Tame (f : ScimBearerToken → ScimBearerToken) : Prop where
  id : ∀ row, (f row).id = row.id
  hash : ∀ row, (f row).tokenHash = row.tokenHash
  expires : ∀ row, (f row).expiresAt = row.expiresAt
  active : ∀ row, row.isActive = false → (f row).isActive = false

theorem tame_revoke (loaded : ScimBearerToken) : Tame (revoke loaded) := by
  refine ⟨fun _ => rfl, fun _ => rfl, fun _ => rfl, fun row hrow => ?_⟩
  rw [revoke, hrow]
  cases loaded.isActive <;> rfl

theorem tame_markUsed (loaded : ScimBearerToken) (now : Instant) : Tame (markUsed loaded now) :=
  ⟨fun _ => rfl, fun _ => rfl, fun _ => rfl, fun _ hrow => hrow⟩

/-- The row a session has loaded is still there, and is not active again. -/
def Known (db : List ScimBearerToken) (row : ScimBearerToken) : Prop :=
  ∃ current ∈ db, current.id = row.id ∧ current.tokenHash = row.tokenHash ∧
    (row.isActive = false → current.isActive = false)

variable {f : ScimBearerToken → ScimBearerToken} {id : Uuid}

theorem Tame.map_hash (hf : Tame f) (id : Uuid) (db : List ScimBearerToken) :
    (Table.alter ScimBearerToken.id id f db).map ScimBearerToken.tokenHash =
      db.map ScimBearerToken.tokenHash := by
  rw [Table.alter, List.map_map]
  refine List.map_congr_left fun row _ => ?_
  rw [Function.comp_apply]
  split_ifs
  · exact hf.hash row
  · rfl

theorem Unique.alter (h : Unique db) (hf : Tame f) (id : Uuid) :
    Unique (Table.alter ScimBearerToken.id id f db) := by
  constructor
  · rw [Table.map_key_alter (fun row hrow => (hf.id row).trans hrow)]
    exact h.ids
  · rw [hf.map_hash]
    exact h.hashes

theorem Known.alter (h : Known db row) (hf : Tame f) (id : Uuid) :
    Known (Table.alter ScimBearerToken.id id f db) row := by
  obtain ⟨current, hcurrent, hid, hhash, hactive⟩ := h
  refine ⟨_, Table.mem_alter.mpr ⟨current, hcurrent, rfl⟩, ?_⟩
  split_ifs
  · exact ⟨(hf.id current).trans hid, (hf.hash current).trans hhash,
      fun hrow => hf.active current (hactive hrow)⟩
  · exact ⟨hid, hhash, hactive⟩

theorem insertToken_eq_some (h : insertToken row db = some db') :
    (∀ x ∈ db, x.tokenHash ≠ row.tokenHash) ∧ (∀ x ∈ db, x.id ≠ row.id) ∧ db' = db++[row] := by
  unfold insertToken at h
  split_ifs at h with hhash
  refine ⟨fun x hx heq => hhash ?_, Table.insert_eq_some_iff.mp h⟩
  rw [← heq]
  exact List.mem_map_of_mem hx

theorem Unique.insert (h : Unique db) (hinsert : insertToken row db = some db') : Unique db' := by
  obtain ⟨hhash, hid, rfl⟩ := insertToken_eq_some hinsert
  exact ⟨Table.nodup_append_singleton h.ids hid, Table.nodup_append_singleton h.hashes hhash⟩

theorem isExpired_congr (h : row.expiresAt = current.expiresAt) :
    isExpired row now = isExpired current now := by
  rw [isExpired, isExpired, h]

/-- A new row adds its own token. -/
theorem admits_insert (hinsert : insertToken row db = some db') (hactive : row.isActive = true) :
    Admits sha256 token now db' ↔
      row.tokenHash = sha256 token ∧ isExpired row now = false ∨ Admits sha256 token now db := by
  obtain ⟨-, -, rfl⟩ := insertToken_eq_some hinsert
  constructor
  · rintro ⟨stored, hstored, hhash, hstoredActive, hexpired⟩
    rcases List.mem_append.mp hstored with hold | hnew
    · exact Or.inr ⟨stored, hold, hhash, hstoredActive, hexpired⟩
    · obtain rfl := List.mem_singleton.mp hnew
      exact Or.inl ⟨hhash, hexpired⟩
  · rintro (⟨hhash, hexpired⟩ | ⟨stored, hstored, hrest⟩)
    · exact ⟨row, List.mem_append_right _ (List.mem_singleton_self row), hhash, hactive, hexpired⟩
    · exact ⟨stored, List.mem_append_left _ hstored, hrest⟩

theorem Tame.admits_alter (hf : Tame f) (id : Uuid) :
    Admits sha256 token now (Table.alter ScimBearerToken.id id f db) ↔
      ∃ row ∈ db, row.tokenHash = sha256 token ∧
        (if row.id = id then f row else row).isActive = true ∧ isExpired row now = false := by
  have hsame : ∀ row : ScimBearerToken,
      (if row.id = id then f row else row).tokenHash = row.tokenHash ∧
        isExpired (if row.id = id then f row else row) now = isExpired row now := by
    intro row
    split_ifs
    · exact ⟨hf.hash row, isExpired_congr (hf.expires row)⟩
    · exact ⟨rfl, rfl⟩
  constructor
  · rintro ⟨changed, hchanged, hhash, hactive, hexpired⟩
    obtain ⟨row, hrow, rfl⟩ := Table.mem_alter.mp hchanged
    exact ⟨row, hrow, (hsame row).1.symm.trans hhash, hactive, (hsame row).2.symm.trans hexpired⟩
  · rintro ⟨row, hrow, hhash, hactive, hexpired⟩
    exact ⟨_, Table.mem_alter.mpr ⟨row, hrow, rfl⟩, (hsame row).1.trans hhash, hactive,
      (hsame row).2.trans hexpired⟩

/-- A revocation takes its own token away and no other. -/
theorem admits_revoke (h : Unique db) (hknown : Known db row) :
    Admits sha256 token now (Table.alter ScimBearerToken.id row.id (revoke row) db) ↔
      Admits sha256 token now db ∧ row.tokenHash ≠ sha256 token := by
  obtain ⟨current, hcurrent, hid, hhash, hactive⟩ := hknown
  rw [(tame_revoke row).admits_alter]
  constructor
  · rintro ⟨stored, hstored, hstoredHash, hstoredActive, hexpired⟩
    by_cases hown : stored.id = row.id
    · -- the row of the revocation is inactive in any case
      obtain rfl : stored = current :=
        List.inj_on_of_nodup_map h.ids hstored hcurrent (hown.trans hid.symm)
      rw [if_pos hown, revoke] at hstoredActive
      cases hrow : row.isActive with
      | true => simp [Table.assigned, hrow] at hstoredActive
      | false => simp [Table.assigned, hrow, hactive hrow] at hstoredActive
    · rw [if_neg hown] at hstoredActive
      refine ⟨⟨stored, hstored, hstoredHash, hstoredActive, hexpired⟩, fun hsame => hown ?_⟩
      have hboth : stored.tokenHash = current.tokenHash := by rw [hstoredHash, hhash, hsame]
      rw [List.inj_on_of_nodup_map h.hashes hstored hcurrent hboth, hid]
  · rintro ⟨⟨stored, hstored, hstoredHash, hstoredActive, hexpired⟩, hother⟩
    have hown : stored.id ≠ row.id := by
      intro heq
      have hsame := List.inj_on_of_nodup_map h.ids hstored hcurrent (heq.trans hid.symm)
      exact hother (hhash.symm.trans (hsame ▸ hstoredHash))
    exact ⟨stored, hstored, hstoredHash, by rw [if_neg hown]; exact hstoredActive, hexpired⟩

theorem admits_markUsed {used : Instant} :
    Admits sha256 token now (Table.alter ScimBearerToken.id row.id (markUsed row used) db) ↔
      Admits sha256 token now db := by
  rw [(tame_markUsed row used).admits_alter]
  refine exists_congr fun stored => and_congr_right fun _ => and_congr_right fun _ => ?_
  split_ifs <;> exact Iff.rfl

/-- What a session may rely on about the rows it holds. -/
def SessionInv (db : List ScimBearerToken) : Session → Prop
  | .created row => row.isActive = true
  | .toRevoke row => Known db row
  | .revoked row => Known db row
  | _ => True

theorem isActive_newToken {data : ScimBearerTokenCreate} {createdBy : Uuid} {draw : TokenDraw}
    (h : newToken sha256 data createdBy draw now = some row) : row.isActive = true := by
  obtain ⟨expiresAt, -, h⟩ := Option.bind_eq_some_iff.mp h
  obtain ⟨description, -, h⟩ := Option.bind_eq_some_iff.mp h
  obtain rfl := Option.some.inj h
  rfl

theorem known_of_find (h : Table.find ScimBearerToken.id id db = some row) : Known db row :=
  ⟨row, Table.mem_of_find h, rfl, rfl, fun hactive => hactive⟩

/-- The three requests that write, at their commit. -/
theorem publish_cases {m m' : Session} (h : (tokenProgram sha256).publish db m = some (db', m')) :
    m' = .finished ∧
      ((∃ row, m = .created row ∧ insertToken row db = some db') ∨
        (∃ row, m = .revoked row ∧ db' = Table.alter ScimBearerToken.id row.id (revoke row) db) ∨
        ∃ row now, m = .used row now ∧
          db' = Table.alter ScimBearerToken.id row.id (markUsed row now) db) := by
  cases m with
  | created row =>
    obtain ⟨rows, hrows, h⟩ := Option.map_eq_some_iff.mp h
    obtain ⟨rfl, rfl⟩ := Prod.mk.inj h
    exact ⟨rfl, Or.inl ⟨row, rfl, hrows⟩⟩
  | revoked row =>
    obtain ⟨rfl, rfl⟩ := Prod.mk.inj (Option.some.inj h)
    exact ⟨rfl, Or.inr (Or.inl ⟨row, rfl, rfl⟩)⟩
  | used row now =>
    obtain ⟨rfl, rfl⟩ := Prod.mk.inj (Option.some.inj h)
    exact ⟨rfl, Or.inr (Or.inr ⟨row, now, rfl, rfl⟩)⟩
  | _ => cases h

/-- A commit keeps the keys distinct and the rows that other sessions know. -/
theorem publish_keeps {m m' : Session} (hdb : Unique db)
    (h : (tokenProgram sha256).publish db m = some (db', m')) :
    Unique db' ∧ ∀ row, Known db row → Known db' row := by
  obtain ⟨-, ⟨row, -, hinsert⟩ | ⟨row, -, rfl⟩ | ⟨row, now, -, rfl⟩⟩ := publish_cases h
  · refine ⟨hdb.insert hinsert, ?_⟩
    rintro known ⟨current, hcurrent, hrest⟩
    obtain ⟨-, -, rfl⟩ := insertToken_eq_some hinsert
    exact ⟨current, List.mem_append_left _ hcurrent, hrest⟩
  · exact ⟨hdb.alter (tame_revoke row) row.id, fun _ hknown => hknown.alter (tame_revoke row) row.id⟩
  · exact ⟨hdb.alter (tame_markUsed row now) row.id,
      fun _ hknown => hknown.alter (tame_markUsed row now) row.id⟩

theorem sessionInv_stmt {m m' : Session} {a : Statement} (hm : SessionInv db m)
    (h : (tokenProgram sha256).stmt db m a = some m') : SessionInv db m' := by
  cases m with
  | idle =>
    cases a with
    | createToken data createdBy draw now =>
      cases hrow : newToken sha256 data createdBy draw now with
      | none =>
        simp only [tokenProgram, hrow, Option.some.injEq] at h
        exact h ▸ trivial
      | some row =>
        simp only [tokenProgram, hrow, Option.some.injEq] at h
        exact h ▸ isActive_newToken hrow
    | selectToken tokenId =>
      cases hrow : Table.find ScimBearerToken.id tokenId db with
      | none =>
        simp only [tokenProgram, hrow, Option.some.injEq] at h
        exact h ▸ trivial
      | some row =>
        simp only [tokenProgram, hrow, Option.some.injEq] at h
        exact h ▸ known_of_find hrow
    | authenticate token now =>
      cases hclient : getScimClient sha256 db token now <;>
        simp only [tokenProgram, hclient, Option.some.injEq] at h <;> exact h ▸ trivial
    | flushRevoked => cases h
    | flushUsed now => cases h
  | toRevoke row =>
    cases a with
    | flushRevoked =>
      obtain rfl := Option.some.inj h
      exact hm
    | _ => cases h
  | admitted row =>
    cases a with
    | flushUsed now =>
      obtain rfl := Option.some.inj h
      trivial
    | _ => cases h
  | _ => cases a <;> cases h

theorem tokenOutline :
    Outline (tokenProgram sha256) Unique (fun db _ m => SessionInv db m) where
  stmt _ hm h := sessionInv_stmt hm h
  commit hdb _ h := ⟨(publish_keeps hdb h).1, (publish_cases h).1 ▸ trivial⟩
  abort _ _ := trivial
  stable := by
    intro db rows m db' m' rows' n hdb _ h _ hn
    have hknown := (publish_keeps hdb h).2
    cases n with
    | toRevoke row => exact hknown row hn
    | revoked row => exact hknown row hn
    | created row => exact hn
    | _ => trivial

end

section
variable {Tx : Type} [DecidableEq Tx] {sha256 : String → String} {token : String} {now : Instant}

/-- A token is admitted after a step if the step gives it out, or if it was before and the step
does not revoke it. -/
theorem admits_step {s s' : TokenState Tx} {l : TokenLabel Tx}
    (hs : Holds Unique (fun db _ m => SessionInv db m) s) (h : step (tokenProgram sha256) s l = some s') :
    Admits sha256 token now s'.committed ↔
      Commits (Issues sha256 token now) s l ∨
        Admits sha256 token now s.committed ∧ ¬Commits (Revokes sha256 token) s l := by
  cases l with
  | commit t =>
    obtain ⟨db', m', hpub, rfl⟩ := step_commit_eq_some.mp h
    have hsession := hs.2 t
    obtain ⟨-, ⟨row, hm, hinsert⟩ | ⟨row, hm, rfl⟩ | ⟨row, used, hm, rfl⟩⟩ := publish_cases hpub
    · rw [hm] at hsession
      simp only [Commits, hm, Issues, Revokes, not_false_eq_true, and_true]
      exact admits_insert hinsert hsession
    · rw [hm] at hsession
      simp only [Commits, hm, Issues, Revokes, false_or]
      exact admits_revoke hs.1 hsession
    · simp only [Commits, hm, Issues, Revokes, false_or, not_false_eq_true, and_true]
      exact admits_markUsed
  | stmt t a =>
    rw [step_committed_eq h (fun u hu => by cases hu)]
    simp [Commits]
  | rollback t =>
    rw [step_committed_eq h (fun u hu => by cases hu)]
    simp [Commits]

/-- Whatever requests run at the same time, and wherever they stand: a presented token is let in
exactly when it has been given out by a request that has committed, its expiry has not passed, and no
revocation of it has committed since. The query for it never raises. -/
theorem scim_access_exact {labels : List (TokenLabel Tx)} {s : TokenState Tx}
    (hrun : exec (step (tokenProgram sha256)) (start [] .idle) labels = some s) :
    ((∃ row, getScimClient sha256 s.committed token now = .ok row) ↔
      BegunSince (step (tokenProgram sha256)) (Commits (Issues sha256 token now))
        (Commits (Revokes sha256 token)) (start [] .idle) labels) ∧
      getScimClient sha256 s.committed token now ≠ .error .internal := by
  have hempty : Unique ([] : List ScimBearerToken) := ⟨List.nodup_nil, List.nodup_nil⟩
  have hstart : Holds Unique (fun db _ m => SessionInv db m) (start [] .idle : TokenState Tx) :=
    holds_start hempty trivial
  have hunique : Unique s.committed := (tokenOutline.holds_exec hstart hrun).1
  refine ⟨?_, hunique.getScimClient_ne_internal⟩
  have hnone : ¬Admits sha256 token now [] := by
    rintro ⟨row, hrow, -⟩
    exact List.not_mem_nil hrow
  rw [hunique.getScimClient_iff]
  refine (exec_iff_since (Q := fun s => Admits sha256 token now s.committed)
    (fun u l v hu hstep => tokenOutline.holds_step hu hstep)
    (fun u l v hu hstep => admits_step hu hstep) hstart hrun).trans ?_
  exact or_iff_right fun h => hnone h.1

/-- The hash of the one token below. -/
def cedarHash : String := "5ee8e14191fc3ae6a03d8ee1623cc1a7c7f79e19cac371d57f292449b0d243fe"

def cedarRow : ScimBearerToken :=
  { id := 41, tokenHash := cedarHash, description := "Okta", createdBy := 7, expiresAt := some (5+days 30) }

def cedarRun : List (TokenLabel Unit) :=
  [.stmt () (.createToken ⟨"Okta", some 30⟩ 7 ⟨41, "scim-cedar-93"⟩ 5), .commit ()]

/-- A token is let in on its day of issue. -/
theorem scim_access_exact_cedar : ∃ s, exec (step (tokenProgram fun _ => cedarHash))
    (start [] .idle) cedarRun = some s ∧
      ∃ row, getScimClient (fun _ => cedarHash) s.committed "scim-cedar-93" 6 = .ok row := by
  have hran : (exec (step (tokenProgram fun _ => cedarHash)) (start [] .idle) cedarRun).isSome = true := by
    rfl
  obtain ⟨s, hrun⟩ := Option.isSome_iff_exists.mp hran
  refine ⟨s, hrun, (scim_access_exact hrun).1.mpr ?_⟩
  obtain ⟨u, hcreate, hcommit⟩ := exec_cons_eq_some.mp hrun
  obtain ⟨v, hstep, hlast⟩ := exec_cons_eq_some.mp hcommit
  have hrow : newToken (fun _ => cedarHash) ⟨"Okta", some 30⟩ 7 ⟨41, "scim-cedar-93"⟩ 5 =
      some cedarRow := by
    rfl
  have hsession : u.session () = .created cedarRow := by
    obtain ⟨-, m, hm, rfl⟩ := step_stmt_eq_some.mp hcreate
    simp only [tokenProgram, start, hrow, Option.some.injEq] at hm
    show Function.update (fun _ : Unit => Session.idle) () m () = .created cedarRow
    rw [Function.update_self, hm]
  refine ⟨[_], .commit (), [], u, v, rfl, exec_cons_eq_some.mpr ⟨u, hcreate, rfl⟩, hstep, ?_, trivial⟩
  rw [Commits, hsession]
  exact ⟨rfl, by decide⟩

end

end LegalForge.ScimTokens
