import LegalForge.AuthModels
import LegalForge.CanonicalJson
import LegalForge.DelimitedText
import LegalForge.FieldEncryption
import LegalForge.SiemPush

/-! The webhook requests to the SIEM and their signatures. What is signed is the time of the
request and its body, and the body is the event with sorted keys. -/
namespace LegalForge.Audit
open JsonText Encoding Encryption
open Auth (Bytes User)

/-- A SHA-256 digest. -/
abbrev Digest := {bytes : Bytes // bytes.length = 32}

/-- `hmac.new(key, message, sha256)`, outside the program. -/
abbrev Hmac := Bytes → Bytes → Digest

def hexdigest (digest : Digest) : String :=
  String.ofList (digest.1.flatMap fun byte => padded 16 2 byte.toNat)

/-- The headers that a receiver looks at, and the body. -/
structure WebhookRequest where
  url : String
  timestamp : String
  signature : Option String
  content : Bytes
  deriving DecidableEq

def signPayload (timestamp : String) (payloadBytes : Bytes) : Bytes :=
  encodeUtf8 timestamp++encodeUtf8 "."++payloadBytes

/-- `str(int(time.time()))` -/
def timestampText (now : ℕ) : String :=
  String.ofList (Nat.toDigits 10 now)

/-- `push_siem_webhook`, up to the request that it posts. -/
def pushSiemWebhook (hmac : Hmac) (url : String) (payload : Value) (secret : String) (now : ℕ) :
    WebhookRequest :=
  let payloadBytes := encodeUtf8 (dumpsSorted payload)
  let timestamp := timestampText now
  let signature :=
    if secret = "" then ""
    else hexdigest (hmac (encodeUtf8 secret) (signPayload timestamp payloadBytes))
  { url := url
    timestamp := timestamp
    signature := if signature = "" then none else some ("sha256="++signature)
    content := payloadBytes }

/-- `datetime.utcnow().isoformat()`, which has no offset. -/
def naiveIsoformat (d : Datetime) : String :=
  String.ofList (d.isoText.take (d.isoText.length-6))

/-- A dictionary of Python strings. -/
def textFields (fields : List (String × String)) : Value :=
  .obj (fields.map fun f => (codePoints f.1.toList, textValue f.2))

/-- `test_event` -/
def siemTestEvent (utcnow : Datetime) (admin : User) : Value :=
  textFields
    [("timestamp", naiveIsoformat utcnow),
     ("event_id", "test-event"),
     ("event_type", "system.siem_webhook_test"),
     ("action", "siem_webhook_test"),
     ("entity_type", "system"),
     ("entity_id", "test"),
     ("user_id", strId admin.id),
     ("user_email", admin.email),
     ("severity", "info"),
     ("outcome", "success"),
     ("source", "lexnebulis"),
     ("message", "SIEM webhook connectivity test from LexNebulis")]

/-- The header of a test. A secret that cannot be decrypted leaves it out, an empty one
does not. -/
def testSignature (hmac : Hmac) (decryptField : String → Option String) (config : SiemConfig)
    (signed : Bytes) : Option String :=
  (nonempty config.webhookSecretEncrypted).bind fun text =>
    (decryptField text).map fun secret => "sha256="++hexdigest (hmac (encodeUtf8 secret) signed)

/-- `test_siem_webhook`, up to the request. Nothing stands for the 404. -/
def testSiemWebhook (hmac : Hmac) (decryptField : String → Option String)
    (config : Option SiemConfig) (utcnow : Datetime) (admin : User) (now : ℕ) :
    Option WebhookRequest := do
  let config ← config
  let url ← nonempty config.webhookUrl
  let payloadBytes := encodeUtf8 (dumpsSorted (siemTestEvent utcnow admin))
  let timestamp := timestampText now
  return {
    url := url
    timestamp := timestamp
    signature := testSignature hmac decryptField config (signPayload timestamp payloadBytes)
    content := payloadBytes }

/-! A receiver. -/

/-- The bytes a receiver signs again. -/
def WebhookRequest.signedBytes (request : WebhookRequest) : Bytes :=
  signPayload request.timestamp request.content

def WebhookRequest.verifies (hmac : Hmac) (secret : String) (request : WebhookRequest) : Prop :=
  request.signature = some ("sha256="++hexdigest (hmac (encodeUtf8 secret) request.signedBytes))

/-- The event a receiver reads. -/
def WebhookRequest.event (request : WebhookRequest) : Option Value :=
  (decodeUtf8 request.content).bind loads

/-- A signed request with an event at a time: of the job behind the audit log, or of the test in
the settings. -/
inductive Sent (hmac : Hmac) (decryptField : String → Option String) (secret : String) :
    Value → ℕ → WebhookRequest → Prop
  | push {url : String} {payload : Value} {now : ℕ} (hsecret : secret ≠ "") :
    Sent hmac decryptField secret payload now (pushSiemWebhook hmac url payload secret now)
  | test {config : SiemConfig} {text : String} {utcnow : Datetime} {admin : User} {now : ℕ}
    {request : WebhookRequest} (htext : nonempty config.webhookSecretEncrypted = some text)
    (hsecret : decryptField text = some secret)
    (hrequest : testSiemWebhook hmac decryptField (some config) utcnow admin now = some request) :
    Sent hmac decryptField secret (siemTestEvent utcnow admin) now request

variable {hmac : Hmac} {decryptField : String → Option String} {secret : String}
  {payload other : Value} {now now' : ℕ} {request request' : WebhookRequest}

/-- A digest has 64 digits. -/
theorem hexdigest_ne_empty (digest : Digest) : hexdigest digest ≠ "" := by
  obtain ⟨bytes, hlength⟩ := digest
  cases bytes with
  | nil => exact absurd hlength (by decide)
  | cons byte bytes =>
    intro hempty
    have hnil := congrArg String.toList hempty
    rw [hexdigest, String.toList_ofList, List.flatMap_cons] at hnil
    have hdigits : padded 16 2 byte.toNat = [] := (List.append_eq_nil_iff.mp hnil).1
    exact absurd (congrArg List.length hdigits) (by simp [length_padded])

/-- On both paths the request carries the time and the sorted event, and the signature of
the two. -/
theorem Sent.spec (h : Sent hmac decryptField secret payload now request) :
    request.timestamp = timestampText now ∧ request.content = encodeUtf8 (dumpsSorted payload) ∧
      request.verifies hmac secret := by
  cases h with
  | push hsecret =>
    refine ⟨rfl, rfl, ?_⟩
    rw [WebhookRequest.verifies, pushSiemWebhook]
    simp only [if_neg hsecret, if_neg (hexdigest_ne_empty _)]
    rfl
  | test htext hsecret hrequest =>
    rw [testSiemWebhook, Option.bind_eq_bind, Option.bind_some, Option.bind_eq_bind,
      Option.bind_eq_some_iff] at hrequest
    obtain ⟨url, -, hrequest⟩ := hrequest
    obtain rfl := Option.some.inj hrequest
    refine ⟨rfl, rfl, ?_⟩
    rw [WebhookRequest.verifies]
    simp only [testSignature, htext, Option.bind_some, hsecret, Option.map_some]
    rfl

/-! The signed bytes. -/

theorem encodeUtf8_append (s t : String) : encodeUtf8 (s++t) = encodeUtf8 s++encodeUtf8 t := by
  unfold encodeUtf8
  rw [String.toUTF8_eq_toByteArray, String.toByteArray_append]
  simp

theorem encodeUtf8_injective : Function.Injective encodeUtf8 := by
  intro s t h
  have htext := congrArg decodeUtf8 h
  rw [decodeUtf8_encodeUtf8, decodeUtf8_encodeUtf8] at htext
  exact Option.some.inj htext

theorem signPayload_encodeUtf8 (timestamp body : String) :
    signPayload timestamp (encodeUtf8 body) = encodeUtf8 (timestamp++"."++body) := by
  rw [signPayload, encodeUtf8_append, encodeUtf8_append]

theorem dot_notMem_toDigits (n : ℕ) : '.' ∉ Nat.toDigits 10 n :=
  fun hdot => absurd (Nat.isDigit_of_mem_toDigits (by decide) (by decide) hdot) (by decide)

theorem timestampText_injective : Function.Injective timestampText := by
  intro m n h
  have hdigits : Nat.toDigits 10 m = Nat.toDigits 10 n := String.ofList_injective h
  have hvalue := congrArg (fun digits => Nat.ofDigitChars 10 digits 0) hdigits
  simpa only [Nat.ofDigitChars_ten_toDigits] using hvalue

/-- A timestamp has no dot, and so the first dot of the signed bytes ends it. -/
theorem signPayload_inj {body body' : String}
    (h : signPayload (timestampText now) (encodeUtf8 body) =
      signPayload (timestampText now') (encodeUtf8 body')) : now = now' ∧ body = body' := by
  rw [signPayload_encodeUtf8, signPayload_encodeUtf8] at h
  have htext := congrArg String.toList (encodeUtf8_injective h)
  have hsplit : ∀ (n : ℕ) (b : String),
      (timestampText n++"."++b).toList = Nat.toDigits 10 n ++ '.' :: b.toList := by
    intro n b
    simp [timestampText]
  have hcount : ∀ n : ℕ, (Nat.toDigits 10 n).count '.' = 0 :=
    fun n => List.count_eq_zero_of_not_mem (dot_notMem_toDigits n)
  rw [hsplit, hsplit] at htext
  obtain ⟨hdigits, hbody⟩ :=
    Delimited.append_cons_inj ((hcount now).trans (hcount now').symm) htext
  exact ⟨timestampText_injective (congrArg String.ofList hdigits), String.toList_injective hbody⟩

/-! What the payloads are. -/

theorem wellFormed_textValue (text : String) : WellFormed (textValue text) :=
  fun _ hn => scalar_of_mem_codePoints hn

theorem codePoints_injective : Function.Injective codePoints :=
  List.map_injective_iff.mpr fun _ _ h => Char.ext (UInt32.toNat_inj.mp h)

theorem wellFormed_textFields {fields : List (String × String)}
    (hnodup : (fields.map Prod.fst).Nodup) : WellFormed (textFields fields) := by
  refine ⟨?_, wellFormedFields_iff.mpr ?_⟩
  · have hkeys : (fields.map fun f => (codePoints f.1.toList, textValue f.2)).map Prod.fst =
        (fields.map Prod.fst).map fun name => codePoints name.toList := by
      rw [List.map_map, List.map_map]
      rfl
    have hinjective : Function.Injective fun name : String => codePoints name.toList :=
      codePoints_injective.comp fun _ _ h => String.toList_injective h
    rw [hkeys]
    exact hnodup.map hinjective
  · intro f hf
    obtain ⟨named, -, rfl⟩ := List.mem_map.mp hf
    exact ⟨fun _ hn => scalar_of_mem_codePoints hn, wellFormed_textValue named.2⟩

theorem wellFormed_siemTestEvent (utcnow : Datetime) (admin : User) :
    WellFormed (siemTestEvent utcnow admin) := by
  apply wellFormed_textFields
  simp only [List.map_cons, List.map_nil]
  decide

/-- Every signed request verifies and is read back as its event. Two of them have the
same signed bytes exactly when they are of one second and their events differ in the order of the
fields alone, so a signature covers the whole event and cannot be moved to another time. -/
theorem signed_requests_exact (h : Sent hmac decryptField secret payload now request)
    (h' : Sent hmac decryptField secret other now' request') (hp : WellFormed payload)
    (ho : WellFormed other) :
    request.verifies hmac secret ∧
      (∃ read, request.event = some read ∧ SameUpToOrder payload read) ∧
      (request.signedBytes = request'.signedBytes ↔ now = now' ∧ SameUpToOrder payload other) := by
  obtain ⟨htimestamp, hcontent, hverifies⟩ := h.spec
  obtain ⟨htimestamp', hcontent', -⟩ := h'.spec
  refine ⟨hverifies, ⟨sortKeys payload, ?_, sameUpToOrder_sortKeys hp⟩, ?_⟩
  · rw [WebhookRequest.event, hcontent, decodeUtf8_encodeUtf8]
    exact loads_dumpsSorted hp
  · rw [WebhookRequest.signedBytes, WebhookRequest.signedBytes, htimestamp, htimestamp', hcontent,
      hcontent', ← dumpsSorted_eq_iff hp ho]
    constructor
    · exact signPayload_inj
    · rintro ⟨rfl, hbody⟩
      rw [hbody]

/-- The digest of the one message below. -/
def reorderedDigest : Digest :=
  ⟨[126, 22, 18, 130, 177, 65, 150, 11, 144, 138, 224, 57, 17, 176, 199, 116,
    144, 39, 17, 74, 24, 23, 13, 47, 40, 246, 222, 252, 171, 216, 13, 5], rfl⟩

/-- The request of one login, its fields in the given order. -/
def loginRequest (fields : List (String × String)) : WebhookRequest :=
  pushSiemWebhook (fun _ _ => reorderedDigest) "https://siem.test" (textFields fields) "orchard-41"
    1700000000

theorem signed_requests_exact_reordered :
    (loginRequest [("entity_id", "e1"), ("action", "login")]).signedBytes =
      (loginRequest [("action", "login"), ("entity_id", "e1")]).signedBytes := by
  have hsecret : "orchard-41" ≠ "" := by decide
  have hsent : ∀ fields, Sent (fun _ _ => reorderedDigest) (fun _ => none) "orchard-41"
      (textFields fields) 1700000000 (loginRequest fields) := fun fields => Sent.push hsecret
  have hsame : SameUpToOrder (textFields [("entity_id", "e1"), ("action", "login")])
      (textFields [("action", "login"), ("entity_id", "e1")]) := by
    refine ⟨rfl, ⟨textValue "e1", ?_, rfl⟩, ⟨textValue "login", ?_, rfl⟩, trivial⟩
    · exact List.mem_cons_of_mem _ List.mem_cons_self
    · exact List.mem_cons_self
  have hexact := signed_requests_exact (hsent [("entity_id", "e1"), ("action", "login")])
    (hsent [("action", "login"), ("entity_id", "e1")]) (wellFormed_textFields (by decide))
    (wellFormed_textFields (by decide))
  exact hexact.2.2.mpr ⟨rfl, hsame⟩

end LegalForge.Audit
