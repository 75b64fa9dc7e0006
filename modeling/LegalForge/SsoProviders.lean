import LegalForge.AccessControl
import LegalForge.FieldEncryption
import LegalForge.ReadCommitted

/-! The identity providers an administrator configures, one of which may be the
default. -/
namespace LegalForge.SsoProviders
open Encryption Transition ReadCommitted
open Access (scalarOneOrNone)

/-- A row of `sso_providers`. The columns that requests only copy are `columns`. -/
structure SSOProvider (Cols : Type) where
  id : Uuid
  name : String
  isActive : Bool := false
  isDefault : Bool := false
  clientSecretEncrypted : Option String := none
  samlSpPrivateKeyEncrypted : Option String := none
  columns : Cols
  deriving DecidableEq

/-- `SSOProviderCreate` -/
structure SSOProviderCreate (Cols : Type) where
  name : String
  clientSecret : Option String := none
  samlSpPrivateKey : Option String := none
  columns : Cols

/-- `SSOProviderUpdate`. A field that is not sent and one that is null are
both passed over, and `assign` sets the other columns. -/
structure SSOProviderUpdate (Cols : Type) where
  name : Option String := none
  isActive : Option Bool := none
  isDefault : Option Bool := none
  clientSecret : Option String := none
  samlSpPrivateKey : Option String := none
  assign : Cols → Cols := id

/-- The salts and token inputs of the two encryptions a request may make. -/
structure SecretDraws where
  clientSecret : Salt × FernetDraw
  samlSpPrivateKey : Salt × FernetDraw

variable {Cols : Type} (cfg : Config)

/-- `if secret: column = encrypt_value(secret)` -/
def encryptGiven (draw : Salt × FernetDraw) (secret : Option String) :
    Except CryptoError (Option String) :=
  match secret with
  | none => .ok none
  | some text => if text = "" then .ok none else encryptField cfg draw.1 draw.2 (some text)

/-- `if value is not None: column = encrypt_value(value)` -/
def encryptSent (draw : Salt × FernetDraw) (stored secret : Option String) :
    Except CryptoError (Option String) :=
  match secret with
  | none => .ok stored
  | some text => encryptField cfg draw.1 draw.2 (some text)

/-- The row `create_sso_provider` inserts. -/
def newProvider (draws : SecretDraws) (id : Uuid) (data : SSOProviderCreate Cols) :
    Except CryptoError (SSOProvider Cols) := do
  let clientSecret ← encryptGiven cfg draws.clientSecret data.clientSecret
  let samlSpPrivateKey ← encryptGiven cfg draws.samlSpPrivateKey data.samlSpPrivateKey
  .ok { id := id, name := data.name, clientSecretEncrypted := clientSecret,
        samlSpPrivateKeyEncrypted := samlSpPrivateKey, columns := data.columns }

/-- The loop of `update_sso_provider` over the fields of the request. -/
def setFields (draws : SecretDraws) (provider : SSOProvider Cols) (data : SSOProviderUpdate Cols) :
    Except CryptoError (SSOProvider Cols) := do
  let clientSecret ←
    encryptSent cfg draws.clientSecret provider.clientSecretEncrypted data.clientSecret
  let samlSpPrivateKey ←
    encryptSent cfg draws.samlSpPrivateKey provider.samlSpPrivateKeyEncrypted data.samlSpPrivateKey
  .ok { provider with
        name := data.name.getD provider.name
        isActive := data.isActive.getD provider.isActive
        isDefault := data.isDefault.getD provider.isDefault
        clientSecretEncrypted := clientSecret
        samlSpPrivateKeyEncrypted := samlSpPrivateKey
        columns := data.assign provider.columns }

/-- The loop keeps the key, and sets the flag as the request asks. -/
theorem setFields_eq_ok {draws : SecretDraws} {provider changed : SSOProvider Cols}
    {data : SSOProviderUpdate Cols} (h : setFields cfg draws provider data = .ok changed) :
    changed.id = provider.id ∧ changed.isDefault = data.isDefault.getD provider.isDefault := by
  unfold setFields at h
  cases hsecret : encryptSent cfg draws.clientSecret provider.clientSecretEncrypted
      data.clientSecret with
  | error e => simp [hsecret, bind, Except.bind] at h
  | ok secret =>
    cases hkey : encryptSent cfg draws.samlSpPrivateKey provider.samlSpPrivateKeyEncrypted
        data.samlSpPrivateKey with
    | error e => simp [hsecret, hkey, bind, Except.bind] at h
    | ok key =>
      simp only [hsecret, hkey, bind, Except.bind, Except.ok.injEq] at h
      subst h
      exact ⟨rfl, rfl⟩

/-- `UPDATE ... SET is_default = false` on the rows of `ids` -/
def clearDefaults (ids : List Uuid) (db : List (SSOProvider Cols)) : List (SSOProvider Cols) :=
  db.map (fun p => if p.id ∈ ids then { p with isDefault := false } else p)

/-- `get_default_provider` -/
def getDefaultProvider (db : List (SSOProvider Cols)) :
    Except HttpError (Option (SSOProvider Cols)) :=
  scalarOneOrNone (db.filter (fun p => p.isDefault && p.isActive))

/-- `update_sso_provider` with nothing running beside it. -/
def updateSsoProvider (draws : SecretDraws) (db : List (SSOProvider Cols))
    (provider : SSOProvider Cols) (data : SSOProviderUpdate Cols) :
    Except CryptoError (SSOProvider Cols × List (SSOProvider Cols)) := do
  let changed ← setFields cfg draws provider data
  let db' := Table.alter SSOProvider.id provider.id (fun _ => changed) db
  if data.isDefault = some true then
    let others := (db'.map SSOProvider.id).filter (fun i => i ≠ provider.id)
    .ok (changed, clearDefaults others db')
  else .ok (changed, db')

/-- Where a request of an administrator stands. -/
inductive Session (Cols : Type) where
  | idle
  /-- `get_sso_provider` has found the row. -/
  | loaded (provider : SSOProvider Cols) (data : SSOProviderUpdate Cols)
  /-- The row is written, in this session only. -/
  | flushed (provider changed : SSOProvider Cols) (data : SSOProviderUpdate Cols)
  /-- The UPDATE of the other rows has found `todo` and written `done`. -/
  | clearing (provider changed : SSOProvider Cols) (todo done : List Uuid)
  | refreshed (provider changed : SSOProvider Cols) (done : List Uuid)
  | created (provider : SSOProvider Cols)
  | deleted (id : Uuid)
  | finished
  | failed

inductive Statement (Cols : Type) where
  /-- `get_sso_provider` of a PUT -/
  | select (id : Uuid) (data : SSOProviderUpdate Cols)
  /-- The loop, and the UPDATE of the row before the next statement runs. -/
  | flush (draws : SecretDraws)
  /-- The UPDATE of the other rows finds them. -/
  | scan
  /-- It locks and writes one of them. -/
  | clear (id : Uuid)
  /-- `db.refresh(provider)` -/
  | refresh
  | insert (draws : SecretDraws) (id : Uuid) (data : SSOProviderCreate Cols)
  /-- `get_sso_provider` of a DELETE, and the DELETE. -/
  | delete (id : Uuid)

variable [DecidableEq Cols]

/-- The columns that differ from what was loaded are the ones an UPDATE writes. -/
def assignChanged (provider changed current : SSOProvider Cols) : SSOProvider Cols where
  id := current.id
  name := Table.assigned provider.name changed.name current.name
  isActive := Table.assigned provider.isActive changed.isActive current.isActive
  isDefault := Table.assigned provider.isDefault changed.isDefault current.isDefault
  clientSecretEncrypted := Table.assigned provider.clientSecretEncrypted
    changed.clientSecretEncrypted current.clientSecretEncrypted
  samlSpPrivateKeyEncrypted := Table.assigned provider.samlSpPrivateKeyEncrypted
    changed.samlSpPrivateKeyEncrypted current.samlSpPrivateKeyEncrypted
  columns := Table.assigned provider.columns changed.columns current.columns

/-- The rows as an update leaves them when it commits. -/
def writeUpdate (provider changed : SSOProvider Cols) (done : List Uuid)
    (db : List (SSOProvider Cols)) : List (SSOProvider Cols) :=
  clearDefaults done (Table.alter SSOProvider.id provider.id (assignChanged provider changed) db)

def providerProgram :
    Program (List (SSOProvider Cols)) (Session Cols) (Statement Cols) Uuid where
  locks db m a :=
    match m, a with
    | .loaded provider data, .flush draws =>
      match setFields cfg draws provider data with
      | .error _ => []
      -- nothing is sent for a row in which no column has changed
      | .ok changed => if changed = provider then [] else [provider.id]
    | .clearing _ _ _ _, .clear id => if id ∈ db.map SSOProvider.id then [id] else []
    | .idle, .delete id => if id ∈ db.map SSOProvider.id then [id] else []
    | _, _ => []
  stmt db m a :=
    match m, a with
    | .idle, .select id data =>
      match Table.find SSOProvider.id id db with
      | none => some .failed
      | some provider => some (.loaded provider data)
    | .loaded provider data, .flush draws =>
      match setFields cfg draws provider data with
      | .error _ => some .failed
      | .ok changed =>
        -- an UPDATE that matches no row raises
        if changed = provider ∨ provider.id ∈ db.map SSOProvider.id then
          some (.flushed provider changed data)
        else some .failed
    | .flushed provider changed data, .scan =>
      if data.isDefault = some true then
        some (.clearing provider changed
          ((db.map SSOProvider.id).filter (fun i => i ≠ provider.id)) [])
      else none
    | .clearing provider changed todo done, .clear id =>
      if id ∈ todo then
        -- a row deleted since the scan is passed over
        some (.clearing provider changed (todo.erase id)
          (if id ∈ db.map SSOProvider.id then id :: done else done))
      else none
    | .flushed provider changed data, .refresh =>
      if data.isDefault = some true then none
      else if provider.id ∈ db.map SSOProvider.id then some (.refreshed provider changed [])
      else some .failed
    | .clearing provider changed [] done, .refresh =>
      if provider.id ∈ db.map SSOProvider.id then some (.refreshed provider changed done)
      else some .failed
    | .idle, .insert draws id data =>
      match newProvider cfg draws id data with
      | .error _ => some .failed
      | .ok provider =>
        if id ∈ db.map SSOProvider.id then some .failed else some (.created provider)
    | .idle, .delete id =>
      if id ∈ db.map SSOProvider.id then some (.deleted id) else some .failed
    | _, _ => none
  publish db m :=
    match m with
    | .refreshed provider changed done => some (writeUpdate provider changed done db, .finished)
    | .created provider => (Table.insert SSOProvider.id provider db).map (fun db' => (db', .finished))
    | .deleted id => some (Table.remove SSOProvider.id id db, .finished)
    | _ => none
  abort _ := .failed

variable {cfg}

/-- The UPDATE of the other rows runs through the rows it has found. -/
theorem exec_clear {db : List (SSOProvider Cols)} {provider changed : SSOProvider Cols}
    {todo : List Uuid} (htodo : ∀ i ∈ todo, i ∈ db.map SSOProvider.id) (done : List Uuid) :
    exec ((providerProgram cfg).stmt db) (.clearing provider changed todo done)
      (todo.map Statement.clear) = some (.clearing provider changed [] (todo.reverse++done)) := by
  induction todo generalizing done with
  | nil => rfl
  | cons i todo ih =>
    have hstored : i ∈ db.map SSOProvider.id := htodo i List.mem_cons_self
    have hrest := ih (fun j hj => htodo j (List.mem_cons_of_mem i hj)) (i :: done)
    have hstmt : (providerProgram cfg).stmt db (.clearing provider changed (i :: todo) done)
        (.clear i) = some (.clearing provider changed todo (i :: done)) := by
      show (if i ∈ i :: todo then some (Session.clearing provider changed ((i :: todo).erase i)
        (if i ∈ db.map SSOProvider.id then i :: done else done)) else none) = _
      rw [if_pos List.mem_cons_self, List.erase_cons_head, if_pos hstored]
    rw [List.map_cons, List.reverse_cons, List.append_assoc, List.singleton_append]
    exact exec_cons_eq_some.mpr ⟨_, hstmt, hrest⟩

/-- An UPDATE of a row that has not changed since it was loaded writes the row
as the request leaves it. -/
theorem alter_assignChanged {db : List (SSOProvider Cols)} {provider changed : SSOProvider Cols}
    (hnodup : (db.map SSOProvider.id).Nodup)
    (hfind : Table.find SSOProvider.id provider.id db = some provider)
    (hid : changed.id = provider.id) :
    Table.alter SSOProvider.id provider.id (assignChanged provider changed) db =
      Table.alter SSOProvider.id provider.id (fun _ => changed) db := by
  refine List.map_congr_left fun p hp => ?_
  split_ifs with hkey
  · have hsame : p = provider :=
      List.inj_on_of_nodup_map hnodup hp (Table.mem_of_find hfind) hkey
    subst hsame
    cases changed
    simp only [assignChanged, Table.assigned_loaded, SSOProvider.mk.injEq, and_true]
    exact hid.symm
  · rfl

/-- The statements of a PUT. -/
def updateStatements (draws : SecretDraws) (db : List (SSOProvider Cols))
    (provider : SSOProvider Cols) (data : SSOProviderUpdate Cols) : List (Statement Cols) :=
  let others := (db.map SSOProvider.id).filter (fun i => i ≠ provider.id)
  [.select provider.id data, .flush draws]++
    (if data.isDefault = some true then .scan :: others.map Statement.clear else [])++[.refresh]

theorem stmt_select {db : List (SSOProvider Cols)} {provider : SSOProvider Cols}
    (data : SSOProviderUpdate Cols)
    (hfind : Table.find SSOProvider.id provider.id db = some provider) :
    (providerProgram cfg).stmt db .idle (.select provider.id data) = some (.loaded provider data) := by
  simp [providerProgram, hfind]

theorem stmt_flush {db : List (SSOProvider Cols)} {provider changed : SSOProvider Cols}
    {data : SSOProviderUpdate Cols} {draws : SecretDraws}
    (hstored : provider.id ∈ db.map SSOProvider.id)
    (hset : setFields cfg draws provider data = .ok changed) :
    (providerProgram cfg).stmt db (.loaded provider data) (.flush draws) =
      some (.flushed provider changed data) := by
  simp only [providerProgram, hset]
  exact if_pos (Or.inr hstored)

/-- The statements of an update run one after the other leave the table as
`update_sso_provider` leaves it. -/
theorem exec_updateSsoProvider {Tx : Type*} [DecidableEq Tx]
    {s : State (List (SSOProvider Cols)) (Session Cols) Uuid Tx} {t : Tx} {draws : SecretDraws}
    {provider changed : SSOProvider Cols} {data : SSOProviderUpdate Cols}
    {db : List (SSOProvider Cols)} (hidle : s.session t = .idle) (halone : Alone s t)
    (hnodup : (s.committed.map SSOProvider.id).Nodup)
    (hfind : Table.find SSOProvider.id provider.id s.committed = some provider)
    (h : updateSsoProvider cfg draws s.committed provider data = .ok (changed, db)) :
    ∃ s', exec (step (providerProgram cfg)) s
        ((updateStatements draws s.committed provider data).map (Label.stmt t)++[.commit t]) =
          some s' ∧ s'.committed = db ∧ s'.session t = .finished := by
  have hstored : provider.id ∈ s.committed.map SSOProvider.id :=
    List.mem_map_of_mem (Table.mem_of_find hfind)
  cases hset : setFields cfg draws provider data with
  | error e => simp [updateSsoProvider, hset, bind, Except.bind] at h
  | ok changed' =>
    have hid := (setFields_eq_ok cfg hset).1
    simp only [updateSsoProvider, hset, bind, Except.bind] at h
    have hids : (Table.alter SSOProvider.id provider.id (fun _ => changed') s.committed).map
        SSOProvider.id = s.committed.map SSOProvider.id :=
      Table.map_key_alter (fun _ _ => hid) s.committed
    have hselect : (providerProgram cfg).stmt s.committed (s.session t) (.select provider.id data) =
        some (.loaded provider data) := by
      rw [hidle]
      exact stmt_select data hfind
    have hflush := stmt_flush hstored hset
    by_cases hdefault : data.isDefault = some true
    · -- the new default is followed by one UPDATE for each other provider
      rw [if_pos hdefault, hids] at h
      obtain ⟨rfl, rfl⟩ := Prod.mk.inj (Except.ok.inj h)
      let others := (s.committed.map SSOProvider.id).filter (fun i => i ≠ provider.id)
      have hscan : (providerProgram cfg).stmt s.committed (.flushed provider changed' data) .scan =
          some (.clearing provider changed' others []) := by
        simp [providerProgram, hdefault, others]
      have hclear : exec ((providerProgram cfg).stmt s.committed)
          (.clearing provider changed' others []) (others.map Statement.clear) =
          some (.clearing provider changed' [] (others.reverse++[])) :=
        exec_clear (fun i hi => List.mem_of_mem_filter hi) []
      have hrefresh : (providerProgram cfg).stmt s.committed
          (.clearing provider changed' [] (others.reverse++[])) .refresh =
          some (.refreshed provider changed' (others.reverse++[])) := if_pos hstored
      refine halone.exec_commit (m := .refreshed provider changed' (others.reverse++[])) ?_ ?_
      · unfold updateStatements
        dsimp only
        rw [if_pos hdefault]
        refine exec_concat_eq_some.mpr ⟨_, ?_, hrefresh⟩
        exact exec_cons_eq_some.mpr ⟨_, hselect, exec_cons_eq_some.mpr ⟨_, hflush,
          exec_cons_eq_some.mpr ⟨_, hscan, hclear⟩⟩⟩
      · show some (writeUpdate provider changed' (others.reverse++[]) s.committed, _) = _
        rw [writeUpdate, alter_assignChanged hnodup hfind hid]
        simp [clearDefaults, others]
    · -- no other row is written
      rw [if_neg hdefault] at h
      obtain ⟨rfl, rfl⟩ := Prod.mk.inj (Except.ok.inj h)
      have hrefresh : (providerProgram cfg).stmt s.committed (.flushed provider changed' data)
          .refresh = some (.refreshed provider changed' []) := by
        show (if data.isDefault = some true then none
          else if provider.id ∈ s.committed.map SSOProvider.id then
            some (Session.refreshed provider changed' []) else some Session.failed) = _
        rw [if_neg hdefault, if_pos hstored]
      refine halone.exec_commit (m := .refreshed provider changed' []) ?_ ?_
      · unfold updateStatements
        dsimp only
        rw [if_neg hdefault]
        exact exec_cons_eq_some.mpr ⟨_, hselect, exec_cons_eq_some.mpr ⟨_, hflush,
          exec_cons_eq_some.mpr ⟨_, hrefresh, rfl⟩⟩⟩
      · show some (writeUpdate provider changed' [] s.committed, _) = _
        rw [writeUpdate, alter_assignChanged hnodup hfind hid]
        simp [clearDefaults]

end LegalForge.SsoProviders
