import LegalForge.BillingModels
import LegalForge.SiemPush
import LegalForge.SsoProviders

/-! The settings that hold secrets: identity providers, the payment processor and
the SIEM. Secrets are stored encrypted and shown masked. -/
namespace LegalForge.MaskedSettings
open Billing Encryption SsoProviders UnitOfWork
open Audit (SyslogProtocol SiemFormat)

/-- `"****" + text[-4:]`, unless the text is that short itself. -/
def maskText (text : String) : String :=
  if text.length ≤ 4 then "****"
  else String.ofList ("****".toList++text.toList.drop (text.length-4))

/-- `mask_secret`, of the identity providers and of the payment settings. -/
def maskSecret (cfg : Config) (encrypted : Option String) : Option String :=
  match encrypted with
  | none => none
  | some text =>
    if text = "" then none
    else
      match decryptField cfg (some text) with
      | .ok (some plain) => some (maskText plain)
      | _ => some "****"

/-- What is shown of a secret once it is stored. -/
def shownSecret (secret : Option String) : Option String :=
  secret.bind (fun text => if text = "" then none else some (maskText text))

/-- `_provider_to_response` -/
structure SSOProviderResponse (Cols : Type) where
  id : Uuid
  name : String
  isActive : Bool
  isDefault : Bool
  clientSecretMasked : Option String
  columns : Cols

def providerToResponse {Cols : Type} (cfg : Config) (provider : SSOProvider Cols) :
    SSOProviderResponse Cols where
  id := provider.id
  name := provider.name
  isActive := provider.isActive
  isDefault := provider.isDefault
  clientSecretMasked := maskSecret cfg provider.clientSecretEncrypted
  columns := provider.columns

inductive PaymentAccountType where
  | operating
  | trust
  deriving DecidableEq

/-- The row of `payment_settings`. -/
structure PaymentSettings where
  id : Uuid
  processor : PaymentProcessor
  isActive : Bool
  apiKeyEncrypted : Option String := none
  webhookSecretEncrypted : Option String := none
  publishableKey : Option String
  accountType : PaymentAccountType
  surchargeEnabled : Bool
  /-- A double. -/
  surchargeRate : ℚ
  createdBy : Uuid

structure PaymentSettingsCreate where
  processor : PaymentProcessor := .manual
  isActive : Bool := false
  apiKey : Option String := none
  webhookSecret : Option String := none
  publishableKey : Option String := none
  accountType : PaymentAccountType := .operating
  surchargeEnabled : Bool := false
  surchargeRate : ℚ := 0

structure PaymentSettingsResponse where
  id : Uuid
  processor : PaymentProcessor
  isActive : Bool
  apiKeyMasked : Option String
  webhookSecretMasked : Option String
  publishableKey : Option String
  accountType : PaymentAccountType
  surchargeEnabled : Bool
  surchargeRate : ℚ
  webhookUrl : String
  createdBy : Uuid

def settingsWebhookUrl (processor : PaymentProcessor) : String :=
  "/api/payments/webhooks/"++processor.value

def buildSettingsResponse (cfg : Config) (ps : PaymentSettings) : PaymentSettingsResponse where
  id := ps.id
  processor := ps.processor
  isActive := ps.isActive
  apiKeyMasked := maskSecret cfg ps.apiKeyEncrypted
  webhookSecretMasked := maskSecret cfg ps.webhookSecretEncrypted
  publishableKey := ps.publishableKey
  accountType := ps.accountType
  surchargeEnabled := ps.surchargeEnabled
  surchargeRate := ps.surchargeRate
  webhookUrl := settingsWebhookUrl ps.processor
  createdBy := ps.createdBy

/-- `if secret: column = encrypt_value(secret)`, on a row that may have one already. -/
def encryptReplacing (cfg : Config) (draw : Salt × FernetDraw) (stored secret : Option String) :
    Except CryptoError (Option String) :=
  match secret with
  | none => .ok stored
  | some text => if text = "" then .ok stored else encryptField cfg draw.1 draw.2 (some text)

/-- The salts and token inputs for the two secrets of the payment settings. -/
structure PaymentDraws where
  apiKey : Salt × FernetDraw
  webhookSecret : Salt × FernetDraw

/-- `create_or_update_payment_settings`. A new row has the key `id`. -/
def createOrUpdatePaymentSettings (cfg : Config) (draws : PaymentDraws) (id userId : Uuid)
    (existing : Option PaymentSettings) (data : PaymentSettingsCreate) :
    Except CryptoError PaymentSettings := do
  let apiKey ← encryptReplacing cfg draws.apiKey (existing.bind (·.apiKeyEncrypted)) data.apiKey
  let webhookSecret ← encryptReplacing cfg draws.webhookSecret
    (existing.bind (·.webhookSecretEncrypted)) data.webhookSecret
  match existing with
  | some ps =>
    .ok { ps with
          processor := data.processor
          isActive := data.isActive
          publishableKey := data.publishableKey.or ps.publishableKey
          accountType := data.accountType
          surchargeEnabled := data.surchargeEnabled
          surchargeRate := data.surchargeRate
          apiKeyEncrypted := apiKey
          webhookSecretEncrypted := webhookSecret }
  | none =>
    .ok { id := id, processor := data.processor, isActive := data.isActive,
          publishableKey := data.publishableKey, accountType := data.accountType,
          surchargeEnabled := data.surchargeEnabled, surchargeRate := data.surchargeRate,
          createdBy := userId, apiKeyEncrypted := apiKey, webhookSecretEncrypted := webhookSecret }

/-- The row of `siem_config`, with the columns that sending an entry does not read. -/
structure SiemSettings extends Audit.SiemConfig where
  id : Uuid
  realtimeEnabled : Bool := false

structure SiemConfigUpdate where
  webhookUrl : Option String := none
  webhookSecret : Option String := none
  syslogHost : Option String := none
  syslogPort : Option ℤ := none
  syslogProtocol : Option String := none
  syslogTlsCaCert : Option String := none
  realtimeEnabled : Option Bool := none
  realtimeFormat : Option String := none

structure SiemConfigResponse where
  id : Uuid
  webhookUrl : Option String
  webhookSecretMasked : Option String
  syslogHost : Option String
  syslogPort : Option ℤ
  syslogProtocol : SyslogProtocol
  syslogTlsCaCert : Option String
  realtimeEnabled : Bool
  realtimeFormat : SiemFormat

/-- The mask of `_siem_config_to_response`, which compares the length the other way. -/
def siemSecretMasked (cfg : Config) (encrypted : Option String) : Option String :=
  match encrypted with
  | none => none
  | some text =>
    if text = "" then none
    else
      match decryptField cfg (some text) with
      | .ok (some plain) =>
        if plain.length > 4 then
          some (String.ofList ("****".toList++plain.toList.drop (plain.length-4)))
        else some "****"
      | _ => some "****"

def siemConfigToResponse (cfg : Config) (config : SiemSettings) : SiemConfigResponse where
  id := config.id
  webhookUrl := config.webhookUrl
  webhookSecretMasked := siemSecretMasked cfg config.webhookSecretEncrypted
  syslogHost := config.syslogHost
  syslogPort := config.syslogPort
  syslogProtocol := config.syslogProtocol
  syslogTlsCaCert := config.syslogTlsCaCert
  realtimeEnabled := config.realtimeEnabled
  realtimeFormat := config.realtimeFormat

/-- `SyslogProtocol(value)`, nothing for a `ValueError` -/
def protocolOf (value : String) : Option SyslogProtocol :=
  [SyslogProtocol.udp, .tcp, .tls].find? (fun p => p.value = value)

def formatValue : SiemFormat → String
  | .json => "json"
  | .cef => "cef"
  | .syslog => "syslog"

/-- `SiemFormat(value)`, nothing for a `ValueError` -/
def formatOf (value : String) : Option SiemFormat :=
  [SiemFormat.json, .cef, .syslog].find? (fun f => formatValue f = value)

/-- A value in the recorded changes of the SIEM configuration. -/
inductive ChangeValue where
  | text (value : Option String)
  | number (value : Option ℤ)
  | flag (value : Bool)

/-- `{"old": ..., "new": ...}`, or `"updated"` where the values are not recorded. -/
inductive Change where
  | replaced (old new : ChangeValue)
  | updated

/-- The recorded change of one field, if the request has it. -/
def changeOf {α : Type} (field : String) (change : α → Change) (sent : Option α) :
    List (String × Change) :=
  sent.toList.map (fun value => (field, change value))

/-- What `update_siem_config` writes to the audit log. -/
def siemChanges (config : SiemSettings) (data : SiemConfigUpdate) : List (String × Change) :=
  changeOf "webhook_url" (fun v => .replaced (.text config.webhookUrl) (.text (some v)))
      data.webhookUrl++
    changeOf "webhook_secret" (fun _ => .updated) data.webhookSecret++
    changeOf "syslog_host" (fun v => .replaced (.text config.syslogHost) (.text (some v)))
      data.syslogHost++
    changeOf "syslog_port" (fun v => .replaced (.number config.syslogPort) (.number (some v)))
      data.syslogPort++
    changeOf "syslog_protocol"
      (fun v => .replaced (.text (some config.syslogProtocol.value)) (.text (some v)))
      data.syslogProtocol++
    changeOf "syslog_tls_ca_cert" (fun _ => .updated) data.syslogTlsCaCert++
    changeOf "realtime_enabled" (fun v => .replaced (.flag config.realtimeEnabled) (.flag v))
      data.realtimeEnabled++
    changeOf "realtime_format"
      (fun v => .replaced (.text (some (formatValue config.realtimeFormat))) (.text (some v)))
      data.realtimeFormat

/-- `encrypt_field(secret) if secret else None`, where one is sent. -/
def encryptOrClear (cfg : Config) (draw : Salt × FernetDraw) (stored secret : Option String) :
    Except CryptoError (Option String) :=
  match secret with
  | none => .ok stored
  | some text => if text = "" then .ok none else encryptField cfg draw.1 draw.2 (some text)

/-- The value of a field sent as a text, if it is one of the enumeration. -/
def enumSent {α : Type} (ofValue : String → Option α) (stored : α) (sent : Option String) :
    Except HttpError α :=
  match sent with
  | none => .ok stored
  | some value =>
    match ofValue value with
    | none => .error .internal
    | some a => .ok a

def raiseInternal {α : Type} : Except CryptoError α → Except HttpError α
  | .ok a => .ok a
  | .error _ => .error .internal

/-- The assignments of `update_siem_config` -/
def applySiemUpdate (cfg : Config) (draw : Salt × FernetDraw) (config : SiemSettings)
    (data : SiemConfigUpdate) : Except HttpError SiemSettings := do
  let secret ← raiseInternal
    (encryptOrClear cfg draw config.webhookSecretEncrypted data.webhookSecret)
  let protocol ← enumSent protocolOf config.syslogProtocol data.syslogProtocol
  let format ← enumSent formatOf config.realtimeFormat data.realtimeFormat
  .ok { config with
        webhookUrl := data.webhookUrl.or config.webhookUrl
        webhookSecretEncrypted := secret
        syslogHost := data.syslogHost.or config.syslogHost
        syslogPort := data.syslogPort.or config.syslogPort
        syslogProtocol := protocol
        syslogTlsCaCert := data.syslogTlsCaCert.or config.syslogTlsCaCert
        realtimeEnabled := data.realtimeEnabled.getD config.realtimeEnabled
        realtimeFormat := format }

/-- The tables of the three. Each of the last two has one row at most. -/
structure SettingsDb (Cols : Type) where
  providers : List (SSOProvider Cols)
  payment : Option PaymentSettings
  siem : Option SiemSettings

/-- A request of an administrator. New rows have the keys given. -/
inductive SettingsRequest (Cols : Type) where
  | listProviders
  | createProvider (draws : SecretDraws) (id : Uuid) (data : SSOProviderCreate Cols)
  | getProvider (id : Uuid)
  | updateProvider (draws : SecretDraws) (id : Uuid) (data : SSOProviderUpdate Cols)
  | deleteProvider (id : Uuid)
  | getSettings
  | upsertSettings (draws : PaymentDraws) (id userId : Uuid) (data : PaymentSettingsCreate)
  | getSiemConfig (id : Uuid)
  | updateSiemConfig (draw : Salt × FernetDraw) (id : Uuid) (data : SiemConfigUpdate)

inductive SettingsResponse (Cols : Type) where
  | provider (response : SSOProviderResponse Cols)
  | providers (responses : List (SSOProviderResponse Cols))
  | noContent
  | payment (response : PaymentSettingsResponse)
  /-- The response, and the changes in the audit row of the request. -/
  | siem (response : SiemConfigResponse) (changes : List (String × Change))

def providerNotFound : HttpError := ⟨404, "SSO provider not found"⟩

def settingsNotConfigured : HttpError := ⟨404, "Payment settings not configured"⟩

variable {Cols : Type}

/-- The configuration, inserted with its defaults if there is none. -/
def loadSiemConfig (db : SettingsDb Cols) (id : Uuid) : SiemSettings :=
  db.siem.getD { id := id }

/-- The routes. `nameLe` is the collation the providers are listed by. -/
def settingsHandle (cfg : Config) (nameLe : String → String → Bool) :
    SettingsRequest Cols → Handler (SettingsDb Cols) HttpError (SettingsResponse Cols)
  | .listProviders => fun db =>
    let rows := db.providers.mergeSort (fun p q => nameLe p.name q.name)
    (.ok (.providers (rows.map (providerToResponse cfg))), db)
  | .createProvider draws id data => fun db =>
    match newProvider cfg draws id data with
    | .error _ => (.error .internal, db)
    | .ok provider =>
      match Table.insert SSOProvider.id provider db.providers with
      | none => (.error .internal, db)
      | some providers =>
        (.ok (.provider (providerToResponse cfg provider)), { db with providers := providers })
  | .getProvider id => fun db =>
    match Table.find SSOProvider.id id db.providers with
    | none => (.error providerNotFound, db)
    | some provider => (.ok (.provider (providerToResponse cfg provider)), db)
  | .updateProvider draws id data => fun db =>
    match Table.find SSOProvider.id id db.providers with
    | none => (.error providerNotFound, db)
    | some provider =>
      match updateSsoProvider cfg draws db.providers provider data with
      | .error _ => (.error .internal, db)
      | .ok (changed, providers) =>
        (.ok (.provider (providerToResponse cfg changed)), { db with providers := providers })
  | .deleteProvider id => fun db =>
    match Table.find SSOProvider.id id db.providers with
    | none => (.error providerNotFound, db)
    | some _ =>
      (.ok .noContent, { db with providers := Table.remove SSOProvider.id id db.providers })
  | .getSettings => fun db =>
    match db.payment with
    | none => (.error settingsNotConfigured, db)
    | some ps => (.ok (.payment (buildSettingsResponse cfg ps)), db)
  | .upsertSettings draws id userId data => fun db =>
    match createOrUpdatePaymentSettings cfg draws id userId db.payment data with
    | .error _ => (.error .internal, db)
    | .ok ps => (.ok (.payment (buildSettingsResponse cfg ps)), { db with payment := some ps })
  | .getSiemConfig id => fun db =>
    let config := loadSiemConfig db id
    (.ok (.siem (siemConfigToResponse cfg config) []), { db with siem := some config })
  | .updateSiemConfig draw id data => fun db =>
    let config := loadSiemConfig db id
    match applySiemUpdate cfg draw config data with
    | .error e => (.error e, db)
    | .ok changed =>
      (.ok (.siem (siemConfigToResponse cfg changed) (siemChanges config data)),
        { db with siem := some changed })

section
variable {cfg : Config}

/-- Stored and shown again, a secret is its mask, whatever salt it was given. -/
theorem exists_encryptField (h : cfg.Documented) (draw : Salt × FernetDraw)
    (secret : Option String) : ∃ stored, encryptField cfg draw.1 draw.2 secret = .ok stored ∧
      maskSecret cfg stored = shownSecret secret := by
  cases secret with
  | none => exact ⟨none, rfl, rfl⟩
  | some plain =>
    by_cases hplain : plain = ""
    · subst hplain
      exact ⟨some "", rfl, rfl⟩
    have hinverts := h.decryptField_encryptField draw.1 draw.2 (some plain)
    cases hstored : encryptField cfg draw.1 draw.2 (some plain) with
    | error e =>
      rw [hstored] at hinverts
      cases hinverts
    | ok stored =>
      rw [hstored] at hinverts
      change decryptField cfg stored = .ok (some plain) at hinverts
      refine ⟨stored, rfl, ?_⟩
      cases stored with
      | none => cases hinverts
      | some text =>
        have htext : text ≠ "" := by
          rintro rfl
          exact hplain (Option.some.inj (Except.ok.inj hinverts)).symm
        simp only [maskSecret, if_neg htext, hinverts]
        exact (if_neg hplain).symm

theorem exists_encryptGiven (h : cfg.Documented) (draw : Salt × FernetDraw)
    (secret : Option String) : ∃ stored, encryptGiven cfg draw secret = .ok stored ∧
      maskSecret cfg stored = shownSecret secret := by
  cases secret with
  | none => exact ⟨none, rfl, rfl⟩
  | some text =>
    by_cases hempty : text = ""
    · subst hempty
      exact ⟨none, rfl, rfl⟩
    · rw [encryptGiven, if_neg hempty]
      exact exists_encryptField h draw (some text)

/-- A secret that is sent replaces the one shown. -/
theorem exists_encryptSent (h : cfg.Documented) (draw : Salt × FernetDraw)
    (stored secret : Option String) : ∃ out, encryptSent cfg draw stored secret = .ok out ∧
      maskSecret cfg out =
        (secret.map (fun text => shownSecret (some text))).getD (maskSecret cfg stored) := by
  cases secret with
  | none => exact ⟨stored, rfl, rfl⟩
  | some text => exact exists_encryptField h draw (some text)

theorem exists_encryptOrClear (h : cfg.Documented) (draw : Salt × FernetDraw)
    (stored secret : Option String) : ∃ out, encryptOrClear cfg draw stored secret = .ok out ∧
      maskSecret cfg out =
        (secret.map (fun text => shownSecret (some text))).getD (maskSecret cfg stored) := by
  cases secret with
  | none => exact ⟨stored, rfl, rfl⟩
  | some text =>
    by_cases hempty : text = ""
    · subst hempty
      exact ⟨none, rfl, rfl⟩
    · rw [encryptOrClear, if_neg hempty]
      exact exists_encryptField h draw (some text)

/-- One that is not empty does. -/
theorem exists_encryptReplacing (h : cfg.Documented) (draw : Salt × FernetDraw)
    (stored secret : Option String) : ∃ out, encryptReplacing cfg draw stored secret = .ok out ∧
      maskSecret cfg out = (shownSecret secret).or (maskSecret cfg stored) := by
  cases secret with
  | none => exact ⟨stored, rfl, rfl⟩
  | some text =>
    by_cases hempty : text = ""
    · subst hempty
      exact ⟨stored, rfl, rfl⟩
    · rw [encryptReplacing, if_neg hempty]
      obtain ⟨out, hout, hmask⟩ := exists_encryptField h draw (some text)
      refine ⟨out, hout, hmask.trans ?_⟩
      simp only [shownSecret, Option.bind_some, if_neg hempty, Option.some_or]

end

end LegalForge.MaskedSettings
