import LegalForge.Noninterference
import LegalForge.SecretMasking

/-! The routes of the settings run on masked rows: whatever they answer and write
to the audit log is decided by what is shown of the secrets. -/
namespace LegalForge.MaskedSettings
open Encryption SsoProviders UnitOfWork Noninterference

variable {Cols : Type}

/-! The rows with a mask in the place of each secret. -/

def maskedProvider (cfg : Config) (provider : SSOProvider Cols) : SSOProvider Cols :=
  { provider with
    clientSecretEncrypted := maskSecret cfg provider.clientSecretEncrypted
    samlSpPrivateKeyEncrypted := none }

def maskedPayment (cfg : Config) (ps : PaymentSettings) : PaymentSettings :=
  { ps with
    apiKeyEncrypted := maskSecret cfg ps.apiKeyEncrypted
    webhookSecretEncrypted := maskSecret cfg ps.webhookSecretEncrypted }

def maskedSiem (cfg : Config) (config : SiemSettings) : SiemSettings :=
  { config with webhookSecretEncrypted := maskSecret cfg config.webhookSecretEncrypted }

def maskedDb (cfg : Config) (db : SettingsDb Cols) : SettingsDb Cols where
  providers := db.providers.map (maskedProvider cfg)
  payment := db.payment.map (maskedPayment cfg)
  siem := db.siem.map (maskedSiem cfg)

/-- A request with what will be shown of each secret it sends. Of a field that
may also be left as it is, `secret` tells whether it is sent. -/
inductive VisibleRequest (Cols : Type) where
  | listProviders
  | createProvider (id : Uuid) (data : SSOProviderCreate Cols)
  | getProvider (id : Uuid)
  | updateProvider (id : Uuid) (data : SSOProviderUpdate Cols) (secret : Option (Option String))
  | deleteProvider (id : Uuid)
  | getSettings
  | upsertSettings (id userId : Uuid) (data : PaymentSettingsCreate)
  | getSiemConfig (id : Uuid)
  | updateSiemConfig (id : Uuid) (data : SiemConfigUpdate) (secret : Option (Option String))

def SettingsRequest.visible : SettingsRequest Cols → VisibleRequest Cols
  | .listProviders => .listProviders
  | .createProvider _ id data =>
    .createProvider id
      { data with clientSecret := shownSecret data.clientSecret, samlSpPrivateKey := none }
  | .getProvider id => .getProvider id
  | .updateProvider _ id data =>
    .updateProvider id { data with clientSecret := none, samlSpPrivateKey := none }
      (data.clientSecret.map (fun text => shownSecret (some text)))
  | .deleteProvider id => .deleteProvider id
  | .getSettings => .getSettings
  | .upsertSettings _ id userId data =>
    .upsertSettings id userId
      { data with
        apiKey := shownSecret data.apiKey, webhookSecret := shownSecret data.webhookSecret }
  | .getSiemConfig id => .getSiemConfig id
  | .updateSiemConfig _ id data =>
    .updateSiemConfig id { data with webhookSecret := none }
      (data.webhookSecret.map (fun text => shownSecret (some text)))

/-! The same routes on masked rows. -/

def shownProvider (provider : SSOProvider Cols) : SSOProviderResponse Cols where
  id := provider.id
  name := provider.name
  isActive := provider.isActive
  isDefault := provider.isDefault
  clientSecretMasked := provider.clientSecretEncrypted
  columns := provider.columns

def createShown (id : Uuid) (data : SSOProviderCreate Cols) : SSOProvider Cols :=
  { id := id, name := data.name, clientSecretEncrypted := data.clientSecret,
    columns := data.columns }

def updateShown (provider : SSOProvider Cols) (data : SSOProviderUpdate Cols)
    (secret : Option (Option String)) : SSOProvider Cols :=
  { provider with
    name := data.name.getD provider.name
    isActive := data.isActive.getD provider.isActive
    isDefault := data.isDefault.getD provider.isDefault
    clientSecretEncrypted := secret.getD provider.clientSecretEncrypted
    columns := data.assign provider.columns }

/-- The table after `update_sso_provider` has changed a row. -/
def providersAfter (providers : List (SSOProvider Cols)) (id : Uuid) (changed : SSOProvider Cols)
    (isDefault : Option Bool) : List (SSOProvider Cols) :=
  let altered := Table.alter SSOProvider.id id (fun _ => changed) providers
  if isDefault = some true then
    clearDefaults ((altered.map SSOProvider.id).filter (fun i => i ≠ id)) altered
  else altered

def shownPayment (ps : PaymentSettings) : PaymentSettingsResponse where
  id := ps.id
  processor := ps.processor
  isActive := ps.isActive
  apiKeyMasked := ps.apiKeyEncrypted
  webhookSecretMasked := ps.webhookSecretEncrypted
  publishableKey := ps.publishableKey
  accountType := ps.accountType
  surchargeEnabled := ps.surchargeEnabled
  surchargeRate := ps.surchargeRate
  webhookUrl := settingsWebhookUrl ps.processor
  createdBy := ps.createdBy

def upsertShown (id userId : Uuid) (existing : Option PaymentSettings)
    (data : PaymentSettingsCreate) : PaymentSettings where
  id := existing.elim id (·.id)
  processor := data.processor
  isActive := data.isActive
  apiKeyEncrypted := data.apiKey.or (existing.bind (·.apiKeyEncrypted))
  webhookSecretEncrypted := data.webhookSecret.or (existing.bind (·.webhookSecretEncrypted))
  publishableKey := data.publishableKey.or (existing.bind (·.publishableKey))
  accountType := data.accountType
  surchargeEnabled := data.surchargeEnabled
  surchargeRate := data.surchargeRate
  createdBy := existing.elim userId (·.createdBy)

def shownSiem (config : SiemSettings) : SiemConfigResponse where
  id := config.id
  webhookUrl := config.webhookUrl
  webhookSecretMasked := config.webhookSecretEncrypted
  syslogHost := config.syslogHost
  syslogPort := config.syslogPort
  syslogProtocol := config.syslogProtocol
  syslogTlsCaCert := config.syslogTlsCaCert
  realtimeEnabled := config.realtimeEnabled
  realtimeFormat := config.realtimeFormat

def updateSiemShown (config : SiemSettings) (data : SiemConfigUpdate)
    (secret : Option (Option String)) : Except HttpError SiemSettings := do
  let protocol ← enumSent protocolOf config.syslogProtocol data.syslogProtocol
  let format ← enumSent formatOf config.realtimeFormat data.realtimeFormat
  .ok { config with
        webhookUrl := data.webhookUrl.or config.webhookUrl
        webhookSecretEncrypted := secret.getD config.webhookSecretEncrypted
        syslogHost := data.syslogHost.or config.syslogHost
        syslogPort := data.syslogPort.or config.syslogPort
        syslogProtocol := protocol
        syslogTlsCaCert := data.syslogTlsCaCert.or config.syslogTlsCaCert
        realtimeEnabled := data.realtimeEnabled.getD config.realtimeEnabled
        realtimeFormat := format }

/-- The changes a SIEM request records, told by whether a secret was sent. -/
def shownChanges (config : SiemSettings) (data : SiemConfigUpdate)
    (secret : Option (Option String)) : List (String × Change) :=
  siemChanges config { data with webhookSecret := secret.map (fun _ => "") }

def shownHandle (nameLe : String → String → Bool) :
    VisibleRequest Cols → Handler (SettingsDb Cols) HttpError (SettingsResponse Cols)
  | .listProviders => fun db =>
    let rows := db.providers.mergeSort (fun p q => nameLe p.name q.name)
    (.ok (.providers (rows.map shownProvider)), db)
  | .createProvider id data => fun db =>
    match Table.insert SSOProvider.id (createShown id data) db.providers with
    | none => (.error .internal, db)
    | some providers =>
      (.ok (.provider (shownProvider (createShown id data))), { db with providers := providers })
  | .getProvider id => fun db =>
    match Table.find SSOProvider.id id db.providers with
    | none => (.error providerNotFound, db)
    | some provider => (.ok (.provider (shownProvider provider)), db)
  | .updateProvider id data secret => fun db =>
    match Table.find SSOProvider.id id db.providers with
    | none => (.error providerNotFound, db)
    | some provider =>
      let changed := updateShown provider data secret
      (.ok (.provider (shownProvider changed)),
        { db with providers := providersAfter db.providers provider.id changed data.isDefault })
  | .deleteProvider id => fun db =>
    match Table.find SSOProvider.id id db.providers with
    | none => (.error providerNotFound, db)
    | some _ =>
      (.ok .noContent, { db with providers := Table.remove SSOProvider.id id db.providers })
  | .getSettings => fun db =>
    match db.payment with
    | none => (.error settingsNotConfigured, db)
    | some ps => (.ok (.payment (shownPayment ps)), db)
  | .upsertSettings id userId data => fun db =>
    let ps := upsertShown id userId db.payment data
    (.ok (.payment (shownPayment ps)), { db with payment := some ps })
  | .getSiemConfig id => fun db =>
    let config := loadSiemConfig db id
    (.ok (.siem (shownSiem config) []), { db with siem := some config })
  | .updateSiemConfig id data secret => fun db =>
    let config := loadSiemConfig db id
    match updateSiemShown config data secret with
    | .error e => (.error e, db)
    | .ok changed =>
      (.ok (.siem (shownSiem changed) (shownChanges config data secret)),
        { db with siem := some changed })

/-! Each route does to the masked rows what it does to the stored ones. -/

variable {cfg : Config}

theorem maskSecret_none : maskSecret cfg none = none := rfl

theorem shownProvider_masked (provider : SSOProvider Cols) :
    shownProvider (maskedProvider cfg provider) = providerToResponse cfg provider := rfl

theorem siemSecretMasked_eq (encrypted : Option String) :
    siemSecretMasked cfg encrypted = maskSecret cfg encrypted := by
  cases encrypted with
  | none => rfl
  | some text =>
    unfold siemSecretMasked maskSecret maskText
    dsimp only
    split_ifs
    · rfl
    · cases decryptField cfg (some text) with
      | error e => rfl
      | ok plain =>
        cases plain with
        | none => rfl
        | some plain =>
          dsimp only
          rcases Nat.lt_or_ge 4 plain.length with hlong | hshort
          · rw [if_pos hlong, if_neg (Nat.not_le.mpr hlong)]
          · rw [if_neg (Nat.not_lt.mpr hshort), if_pos hshort]

theorem shownSiem_masked (config : SiemSettings) :
    shownSiem (maskedSiem cfg config) = siemConfigToResponse cfg config := by
  unfold shownSiem maskedSiem siemConfigToResponse
  rw [siemSecretMasked_eq]

theorem find_masked (id : Uuid) (rows : List (SSOProvider Cols)) :
    Table.find SSOProvider.id id (rows.map (maskedProvider cfg)) =
      (Table.find SSOProvider.id id rows).map (maskedProvider cfg) :=
  Table.find_map (f := maskedProvider cfg) (fun _ => rfl) id rows

theorem remove_masked (id : Uuid) (rows : List (SSOProvider Cols)) :
    Table.remove SSOProvider.id id (rows.map (maskedProvider cfg)) =
      (Table.remove SSOProvider.id id rows).map (maskedProvider cfg) :=
  List.filter_map

theorem insert_masked (provider : SSOProvider Cols) (rows : List (SSOProvider Cols)) :
    Table.insert SSOProvider.id (maskedProvider cfg provider) (rows.map (maskedProvider cfg)) =
      (Table.insert SSOProvider.id provider rows).map (List.map (maskedProvider cfg)) := by
  unfold Table.insert
  rw [show (maskedProvider cfg provider).id = provider.id from rfl, find_masked, Option.isSome_map]
  split_ifs
  · rfl
  · rw [Option.map_some, List.map_append, List.map_singleton]

theorem clearDefaults_masked (ids : List Uuid) (rows : List (SSOProvider Cols)) :
    clearDefaults ids (rows.map (maskedProvider cfg)) =
      (clearDefaults ids rows).map (maskedProvider cfg) := by
  unfold clearDefaults
  rw [List.map_map, List.map_map]
  refine List.map_congr_left fun p _ => ?_
  show (if p.id ∈ ids then { maskedProvider cfg p with isDefault := false }
    else maskedProvider cfg p) = maskedProvider cfg (if p.id ∈ ids then { p with isDefault := false } else p)
  split_ifs <;> rfl

theorem alter_masked (id : Uuid) (changed : SSOProvider Cols) (rows : List (SSOProvider Cols)) :
    Table.alter SSOProvider.id id (fun _ => maskedProvider cfg changed)
        (rows.map (maskedProvider cfg)) =
      (Table.alter SSOProvider.id id (fun _ => changed) rows).map (maskedProvider cfg) := by
  unfold Table.alter
  rw [List.map_map, List.map_map]
  refine List.map_congr_left fun p _ => ?_
  show (if p.id = id then maskedProvider cfg changed else maskedProvider cfg p) =
    maskedProvider cfg (if p.id = id then changed else p)
  split_ifs <;> rfl

theorem providersAfter_masked (rows : List (SSOProvider Cols)) (id : Uuid)
    (changed : SSOProvider Cols) (isDefault : Option Bool) :
    providersAfter (rows.map (maskedProvider cfg)) id (maskedProvider cfg changed) isDefault =
      (providersAfter rows id changed isDefault).map (maskedProvider cfg) := by
  unfold providersAfter
  dsimp only
  rw [alter_masked]
  split_ifs
  · rw [clearDefaults_masked, List.map_map]
    rfl
  · rfl

/-- What a route that answers `a` on the stored rows answers on the masked ones. -/
def masked (cfg : Config) {ε α : Type} : Except ε α × SettingsDb Cols → Except ε α × SettingsDb Cols
  | (answer, db) => (answer, maskedDb cfg db)

theorem createProvider_masked (h : cfg.Documented) (nameLe : String → String → Bool)
    (draws : SecretDraws) (id : Uuid) (data : SSOProviderCreate Cols) (db : SettingsDb Cols) :
    shownHandle nameLe (SettingsRequest.createProvider draws id data).visible (maskedDb cfg db) =
      masked cfg (settingsHandle cfg nameLe (.createProvider draws id data) db) := by
  obtain ⟨secret, hsecret, hshown⟩ := exists_encryptGiven h draws.clientSecret data.clientSecret
  obtain ⟨key, hkey, -⟩ := exists_encryptGiven h draws.samlSpPrivateKey data.samlSpPrivateKey
  let provider : SSOProvider Cols :=
    { id := id, name := data.name, clientSecretEncrypted := secret,
      samlSpPrivateKeyEncrypted := key, columns := data.columns }
  have hnew : newProvider cfg draws id data = .ok provider := by
    simp only [newProvider, hsecret, hkey, bind, Except.bind, provider]
  have hmasked : createShown id
      { data with clientSecret := shownSecret data.clientSecret, samlSpPrivateKey := none } =
      maskedProvider cfg provider := by
    simp only [createShown, maskedProvider, provider, hshown]
  simp only [SettingsRequest.visible, shownHandle, settingsHandle, hnew, hmasked, maskedDb,
    insert_masked]
  cases Table.insert SSOProvider.id provider db.providers with
  | none => rfl
  | some providers => rfl

theorem updateProvider_masked (h : cfg.Documented) (nameLe : String → String → Bool)
    (draws : SecretDraws) (id : Uuid) (data : SSOProviderUpdate Cols) (db : SettingsDb Cols) :
    shownHandle nameLe (SettingsRequest.updateProvider draws id data).visible (maskedDb cfg db) =
      masked cfg (settingsHandle cfg nameLe (.updateProvider draws id data) db) := by
  simp only [SettingsRequest.visible, shownHandle, settingsHandle, maskedDb, find_masked]
  cases Table.find SSOProvider.id id db.providers with
  | none => rfl
  | some provider =>
    obtain ⟨secret, hsecret, hshown⟩ := exists_encryptSent h draws.clientSecret
      provider.clientSecretEncrypted data.clientSecret
    obtain ⟨key, hkey, -⟩ := exists_encryptSent h draws.samlSpPrivateKey
      provider.samlSpPrivateKeyEncrypted data.samlSpPrivateKey
    let changed : SSOProvider Cols :=
      { provider with
        name := data.name.getD provider.name
        isActive := data.isActive.getD provider.isActive
        isDefault := data.isDefault.getD provider.isDefault
        clientSecretEncrypted := secret
        samlSpPrivateKeyEncrypted := key
        columns := data.assign provider.columns }
    have hset : setFields cfg draws provider data = .ok changed := by
      simp only [setFields, hsecret, hkey, bind, Except.bind, changed]
    have hupdate : updateSsoProvider cfg draws db.providers provider data =
        .ok (changed, providersAfter db.providers provider.id changed data.isDefault) := by
      simp only [updateSsoProvider, hset, bind, Except.bind, providersAfter]
      split_ifs <;> rfl
    have hmasked : updateShown (maskedProvider cfg provider)
        { data with clientSecret := none, samlSpPrivateKey := none }
        (data.clientSecret.map (fun text => shownSecret (some text))) =
        maskedProvider cfg changed := by
      simp only [updateShown, maskedProvider, changed, hshown]
    simp only [Option.map_some, hupdate, hmasked, shownProvider_masked]
    rw [show (maskedProvider cfg provider).id = provider.id from rfl, providersAfter_masked]
    rfl

theorem exists_createOrUpdatePaymentSettings (h : cfg.Documented) (draws : PaymentDraws)
    (id userId : Uuid) (existing : Option PaymentSettings) (data : PaymentSettingsCreate) :
    ∃ ps, createOrUpdatePaymentSettings cfg draws id userId existing data = .ok ps ∧
      maskedPayment cfg ps = upsertShown id userId (existing.map (maskedPayment cfg))
        { data with
          apiKey := shownSecret data.apiKey, webhookSecret := shownSecret data.webhookSecret } := by
  obtain ⟨apiKey, hapi, hapiShown⟩ := exists_encryptReplacing h draws.apiKey
    (existing.bind (·.apiKeyEncrypted)) data.apiKey
  obtain ⟨secret, hsecret, hsecretShown⟩ := exists_encryptReplacing h draws.webhookSecret
    (existing.bind (·.webhookSecretEncrypted)) data.webhookSecret
  simp only [createOrUpdatePaymentSettings, hapi, hsecret, bind, Except.bind]
  cases existing with
  | none =>
    refine ⟨_, rfl, ?_⟩
    simp only [maskedPayment, hapiShown, hsecretShown, upsertShown, Option.map_none,
      Option.bind_none, Option.elim_none, maskSecret_none, Option.or_none]
  | some ps =>
    refine ⟨_, rfl, ?_⟩
    simp only [maskedPayment, hapiShown, hsecretShown, upsertShown, Option.map_some,
      Option.bind_some, Option.elim_some]

theorem upsertSettings_masked (h : cfg.Documented) (nameLe : String → String → Bool)
    (draws : PaymentDraws) (id userId : Uuid) (data : PaymentSettingsCreate)
    (db : SettingsDb Cols) :
    shownHandle nameLe (SettingsRequest.upsertSettings draws id userId data).visible
        (maskedDb cfg db) =
      masked cfg (settingsHandle cfg nameLe (.upsertSettings draws id userId data) db) := by
  obtain ⟨ps, hps, hmasked⟩ :=
    exists_createOrUpdatePaymentSettings h draws id userId db.payment data
  simp only [SettingsRequest.visible, shownHandle, settingsHandle, hps, maskedDb, ← hmasked]
  rfl

theorem loadSiemConfig_masked (db : SettingsDb Cols) (id : Uuid) :
    loadSiemConfig (maskedDb cfg db) id = maskedSiem cfg (loadSiemConfig db id) := by
  unfold loadSiemConfig maskedDb
  cases db.siem with
  | none => rfl
  | some config => rfl

theorem shownChanges_masked (config : SiemSettings) (data : SiemConfigUpdate) :
    shownChanges (maskedSiem cfg config) { data with webhookSecret := none }
        (data.webhookSecret.map (fun text => shownSecret (some text))) =
      siemChanges config data := by
  have hsecret : changeOf "webhook_secret" (fun _ => Change.updated)
      ((data.webhookSecret.map (fun text => shownSecret (some text))).map (fun _ => "")) =
      changeOf "webhook_secret" (fun _ => .updated) data.webhookSecret := by
    cases data.webhookSecret <;> rfl
  simp only [shownChanges, siemChanges, maskedSiem, hsecret]

theorem updateSiemConfig_masked (h : cfg.Documented) (nameLe : String → String → Bool)
    (draw : Salt × FernetDraw) (id : Uuid) (data : SiemConfigUpdate) (db : SettingsDb Cols) :
    shownHandle nameLe (SettingsRequest.updateSiemConfig draw id data).visible (maskedDb cfg db) =
      masked cfg (settingsHandle cfg nameLe (.updateSiemConfig draw id data) db) := by
  simp only [SettingsRequest.visible, shownHandle, settingsHandle, loadSiemConfig_masked]
  generalize loadSiemConfig db id = config
  obtain ⟨secret, hsecret, hshown⟩ := exists_encryptOrClear h draw config.webhookSecretEncrypted
    data.webhookSecret
  rw [shownChanges_masked]
  simp only [updateSiemShown, applySiemUpdate, hsecret, raiseInternal, bind, Except.bind]
  rw [show (maskedSiem cfg config).syslogProtocol = config.syslogProtocol from rfl,
    show (maskedSiem cfg config).realtimeFormat = config.realtimeFormat from rfl]
  cases enumSent protocolOf config.syslogProtocol data.syslogProtocol with
  | error e => rfl
  | ok protocol =>
    cases enumSent formatOf config.realtimeFormat data.realtimeFormat with
    | error e => rfl
    | ok format =>
      let changed : SiemSettings :=
        { config with
          webhookUrl := data.webhookUrl.or config.webhookUrl
          webhookSecretEncrypted := secret
          syslogHost := data.syslogHost.or config.syslogHost
          syslogPort := data.syslogPort.or config.syslogPort
          syslogProtocol := protocol
          syslogTlsCaCert := data.syslogTlsCaCert.or config.syslogTlsCaCert
          realtimeEnabled := data.realtimeEnabled.getD config.realtimeEnabled
          realtimeFormat := format }
      dsimp only
      rw [show (maskedSiem cfg config).webhookSecretEncrypted =
        maskSecret cfg config.webhookSecretEncrypted from rfl, ← hshown]
      show (Except.ok (SettingsResponse.siem (shownSiem (maskedSiem cfg changed)) _),
        { maskedDb cfg db with siem := some (maskedSiem cfg changed) }) = _
      rw [shownSiem_masked]
      rfl

/-- A route on the stored rows and the one on masked rows agree, the masked one
knowing what is shown of each secret only. -/
theorem settingsHandle_masked (h : cfg.Documented) (nameLe : String → String → Bool)
    (r : SettingsRequest Cols) (db : SettingsDb Cols) :
    shownHandle nameLe r.visible (maskedDb cfg db) =
      masked cfg (settingsHandle cfg nameLe r db) := by
  cases r with
  | listProviders =>
    simp only [SettingsRequest.visible, shownHandle, settingsHandle, masked, maskedDb,
      Prod.mk.injEq, and_true, Except.ok.injEq, SettingsResponse.providers.injEq]
    rw [← List.map_mergeSort (r := fun p q => nameLe p.name q.name) fun _ _ _ _ => rfl,
      List.map_map]
    rfl
  | createProvider draws id data => exact createProvider_masked h nameLe draws id data db
  | getProvider id =>
    simp only [SettingsRequest.visible, shownHandle, settingsHandle, maskedDb, find_masked]
    cases Table.find SSOProvider.id id db.providers <;> rfl
  | updateProvider draws id data => exact updateProvider_masked h nameLe draws id data db
  | deleteProvider id =>
    simp only [SettingsRequest.visible, shownHandle, settingsHandle, maskedDb, find_masked,
      remove_masked]
    cases Table.find SSOProvider.id id db.providers <;> rfl
  | getSettings =>
    cases hpayment : db.payment with
    | none =>
      simp only [SettingsRequest.visible, shownHandle, settingsHandle, maskedDb, masked, hpayment,
        Option.map_none]
    | some ps =>
      simp only [SettingsRequest.visible, shownHandle, settingsHandle, maskedDb, masked, hpayment,
        Option.map_some]
      rfl
  | upsertSettings draws id userId data =>
    exact upsertSettings_masked h nameLe draws id userId data db
  | getSiemConfig id =>
    simp only [SettingsRequest.visible, shownHandle, settingsHandle, loadSiemConfig_masked,
      shownSiem_masked]
    rfl
  | updateSiemConfig draw id data => exact updateSiemConfig_masked h nameLe draw id data db

/-- A provider set up with one secret of a family, the SIEM with another. -/
def rotatedSecret (client siem : String) : List (SettingsRequest Unit) :=
  [.createProvider ⟨(accountSalt, accountToken.draw), (accountSalt, routingToken.draw)⟩ 31
      { name := "Okta", clientSecret := some client, samlSpPrivateKey := some client, columns := () },
    .updateSiemConfig (accountSalt, routingToken.draw) 32 { webhookSecret := some siem },
    .listProviders, .getSiemConfig 33]

end LegalForge.MaskedSettings
