import LegalForge.Base64

/-! Fields that are stored encrypted: a salted format, and the one before it. -/
namespace LegalForge.Encryption
open Auth (Bytes byteChar urlsafeB64encode urlsafeB64decodeBytes urlsafeB64decode_encode
  lt_of_mem_urlsafeB64encode urlsafeB64encode_ne_nil)

/-- `str.encode` -/
def encodeUtf8 (text : String) : Bytes := text.toUTF8.data.toList

/-- `bytes.decode`. Nothing when the bytes are no UTF-8. -/
def decodeUtf8 (bytes : Bytes) : Option String := String.fromUTF8? ⟨bytes.toArray⟩

/-- What a Fernet token takes from outside. -/
structure FernetDraw where
  time : ℕ
  iv : Bytes
  deriving DecidableEq

/-- `Fernet` with its key. A token that is not one of the key decrypts to nothing. -/
structure Fernet where
  encrypt : FernetDraw → Bytes → Bytes
  decrypt : Bytes → Option Bytes

/-- What the cryptography library gives, and the master key. -/
structure Config where
  /-- `PBKDF2HMAC` with SHA-256: length, salt, iterations and password. -/
  pbkdf2 : ℕ → Bytes → ℕ → Bytes → Bytes
  /-- `Fernet(key)`, unless the key is refused. -/
  fernet : Bytes → Option Fernet
  fieldEncryptionKey : String

inductive CryptoError where
  /-- `ValueError` of `Fernet(key)` -/
  | badKey
  | invalidToken
  | unicodeDecodeError
  deriving DecidableEq

def saltLength : ℕ := 16

def iterations : ℕ := 600000

/-- `$LN1$` -/
def saltPrefix : Bytes := [36, 76, 78, 49, 36]

/-- `os.urandom` gives as many bytes as it is asked for. -/
structure Salt where
  bytes : Bytes
  length_eq : bytes.length = saltLength

def deriveKey (cfg : Config) (salt : Bytes) : Bytes :=
  urlsafeB64encode (cfg.pbkdf2 32 salt iterations (encodeUtf8 cfg.fieldEncryptionKey))

def newFernet (cfg : Config) (key : Bytes) : Except CryptoError Fernet :=
  match cfg.fernet key with
  | none => .error .badKey
  | some fernet => .ok fernet

/-- The salt of the fields that have none. -/
def legacySalt : Bytes := encodeUtf8 "lexnebulis-field-encryption"

def legacyKey (cfg : Config) : Bytes :=
  urlsafeB64encode (cfg.pbkdf2 32 legacySalt 100000 (encodeUtf8 cfg.fieldEncryptionKey))

def getLegacyFernet (cfg : Config) : Except CryptoError Fernet :=
  newFernet cfg (legacyKey cfg)

def decodeText (bytes : Bytes) : Except CryptoError String :=
  match decodeUtf8 bytes with
  | none => .error .unicodeDecodeError
  | some text => .ok text

def decryptToken (fernet : Fernet) (token : Bytes) : Except CryptoError Bytes :=
  match fernet.decrypt token with
  | none => .error .invalidToken
  | some bytes => .ok bytes

def encryptField (cfg : Config) (salt : Salt) (draw : FernetDraw) :
    Option String → Except CryptoError (Option String)
  | none => .ok none
  | some value =>
    if value = "" then .ok (some value)
    else do
      let fernet ← newFernet cfg (deriveKey cfg salt.bytes)
      let ciphertext := fernet.encrypt draw (encodeUtf8 value)
      let combined := saltPrefix++salt.bytes++ciphertext
      let text ← decodeText (urlsafeB64encode combined)
      .ok (some text)

/-- What follows `$LN1$` in a value that is Base64. -/
def saltedPart (value : String) : Option Bytes :=
  match urlsafeB64decodeBytes (encodeUtf8 value) with
  | none => none
  | some raw =>
    if raw ≠ [] ∧ raw.take saltPrefix.length = saltPrefix then some (raw.drop saltPrefix.length)
    else none

def decryptField (cfg : Config) : Option String → Except CryptoError (Option String)
  | none => .ok none
  | some value =>
    if value = "" then .ok (some value)
    else
      match saltedPart value with
      | some rest => do
        let salt := rest.take saltLength
        let ciphertext := rest.drop saltLength
        let fernet ← newFernet cfg (deriveKey cfg salt)
        let bytes ← decryptToken fernet ciphertext
        let text ← decodeText bytes
        .ok (some text)
      | none => do
        let legacy ← getLegacyFernet cfg
        let bytes ← decryptToken legacy (encodeUtf8 value)
        let text ← decodeText bytes
        .ok (some text)

/-- What the library documents: the length of a derived key, the keys that are taken, that
decryption inverts encryption under the same key, and how a token begins. -/
structure Config.Documented (cfg : Config) : Prop where
  derived : ∀ length salt rounds password, (cfg.pbkdf2 length salt rounds password).length = length
  accepts : ∀ key : Bytes, key.length = 32 → ∃ fernet, cfg.fernet (urlsafeB64encode key) = some fernet
  inverts : ∀ key fernet draw bytes, cfg.fernet key = some fernet →
    fernet.decrypt (fernet.encrypt draw bytes) = some bytes
  versioned : ∀ key fernet draw bytes, cfg.fernet key = some fernet →
    ∃ rest, fernet.encrypt draw bytes = urlsafeB64encode (128 :: rest)

/-! Texts and their bytes. -/

theorem decodeUtf8_encodeUtf8 (text : String) : decodeUtf8 (encodeUtf8 text) = some text := by
  unfold decodeUtf8 encodeUtf8
  rw [Array.toArray_toList]
  exact dif_pos text.isValidUTF8

theorem utf8EncodeChar_ascii : ∀ v : Fin 128,
    String.utf8EncodeChar (byteChar (UInt8.ofNat v)) = [UInt8.ofNat v] := by
  decide

/-- ASCII bytes are a text. -/
theorem exists_encodeUtf8 {bytes : Bytes} (h : ∀ b ∈ bytes, b < 128) :
    ∃ text, encodeUtf8 text = bytes := by
  use String.ofList (bytes.map byteChar)
  unfold encodeUtf8
  rw [String.toUTF8_eq_toByteArray, String.toByteArray_ofList, List.utf8Encode,
    List.toList_data_toByteArray, List.flatMap_map]
  calc bytes.flatMap (fun b => String.utf8EncodeChar (byteChar b))
      = bytes.flatMap fun b => [b] := by
        apply List.flatMap_congr
        intro b hb
        have hlt : b.toNat < 128 := UInt8.lt_iff_toNat_lt.mp (h b hb)
        simpa using utf8EncodeChar_ascii ⟨b.toNat, hlt⟩
    _ = bytes := List.flatMap_singleton' bytes

theorem decodeText_of_encode {text : String} {bytes : Bytes} (h : encodeUtf8 text = bytes) :
    decodeText bytes = .ok text := by
  rw [decodeText, ← h, decodeUtf8_encodeUtf8]

theorem decodeText_encodeUtf8 (text : String) : decodeText (encodeUtf8 text) = .ok text :=
  decodeText_of_encode rfl

theorem exists_text_of_urlsafeB64encode (bytes : Bytes) :
    ∃ text, encodeUtf8 text = urlsafeB64encode bytes :=
  exists_encodeUtf8 fun _ h => lt_of_mem_urlsafeB64encode h

theorem ne_empty_of_encode {text : String} {b : UInt8} {bytes : Bytes}
    (h : encodeUtf8 text = urlsafeB64encode (b :: bytes)) : text ≠ "" := by
  rintro rfl
  have hlength := urlsafeB64encode_ne_nil b bytes
  exact hlength h.symm

/-! What a value holds is told from its first bytes. -/

section
variable {text : String} {raw : Bytes}

theorem urlsafeB64decodeBytes_of_encode (h : encodeUtf8 text = urlsafeB64encode raw) :
    urlsafeB64decodeBytes (encodeUtf8 text) = some raw := by
  rw [h, urlsafeB64decode_encode]

theorem saltedPart_of_saltPrefix (h : encodeUtf8 text = urlsafeB64encode (saltPrefix++raw)) :
    saltedPart text = some raw := by
  have hprefix : saltPrefix++raw ≠ [] ∧
      (saltPrefix++raw).take saltPrefix.length = saltPrefix := ⟨nofun, List.take_left ..⟩
  unfold saltedPart
  rw [urlsafeB64decodeBytes_of_encode h]
  dsimp only
  rw [if_pos hprefix, List.drop_left]

/-- A Fernet token does not begin like the salted format. -/
theorem saltedPart_of_version (h : encodeUtf8 text = urlsafeB64encode (128 :: raw)) :
    saltedPart text = none := by
  have hother : ¬((128 :: raw : Bytes) ≠ [] ∧
      (128 :: raw).take saltPrefix.length = saltPrefix) := by
    rintro ⟨-, heq⟩
    -- the first byte is the version of a token, not a dollar sign
    have hfirst : (128 : UInt8) = 36 := (List.cons.inj heq).1
    revert hfirst
    decide
  unfold saltedPart
  rw [urlsafeB64decodeBytes_of_encode h]
  dsimp only
  rw [if_neg hother]

end

section
variable {cfg : Config}

theorem newFernet_eq_ok_iff {key : Bytes} {fernet : Fernet} :
    newFernet cfg key = .ok fernet ↔ cfg.fernet key = some fernet := by
  unfold newFernet
  cases cfg.fernet key with
  | none => simp
  | some found => simp

theorem Config.Documented.exists_deriveKey (h : cfg.Documented) (salt : Bytes) :
    ∃ fernet, cfg.fernet (deriveKey cfg salt) = some fernet :=
  h.accepts _ (h.derived ..)

theorem Config.Documented.exists_legacyKey (h : cfg.Documented) :
    ∃ fernet, cfg.fernet (legacyKey cfg) = some fernet :=
  h.accepts _ (h.derived ..)

theorem Config.Documented.decryptToken_encrypt (h : cfg.Documented) {key : Bytes} {fernet : Fernet}
    (hkey : cfg.fernet key = some fernet) (draw : FernetDraw) (bytes : Bytes) :
    decryptToken fernet (fernet.encrypt draw bytes) = .ok bytes := by
  rw [decryptToken, h.inverts key fernet draw bytes hkey]

/-- The end of both formats. -/
theorem Config.Documented.decrypt_decode (h : cfg.Documented) {key : Bytes} {fernet : Fernet}
    (hkey : cfg.fernet key = some fernet) (draw : FernetDraw) (value : String) :
    (do
      let bytes ← decryptToken fernet (fernet.encrypt draw (encodeUtf8 value))
      let text ← decodeText bytes
      Except.ok (some text)) = Except.ok (some value) := by
  rw [h.decryptToken_encrypt hkey]
  show (do
    let text ← decodeText (encodeUtf8 value)
    Except.ok (some text)) = Except.ok (some value)
  rw [decodeText_encodeUtf8]
  rfl

/-- A salted value goes back to the salt and the token that it was made of. -/
theorem Config.Documented.decryptField_salted (h : cfg.Documented) {salt : Salt} {fernet : Fernet}
    (hkey : cfg.fernet (deriveKey cfg salt.bytes) = some fernet) (draw : FernetDraw) {text value : String}
    (htext : encodeUtf8 text =
      urlsafeB64encode (saltPrefix++(salt.bytes++fernet.encrypt draw (encodeUtf8 value)))) :
    decryptField cfg (some text) = .ok (some value) := by
  have hempty : text ≠ "" := ne_empty_of_encode htext
  -- the salt has a fixed length, so it is cut off where it ends
  have hsalt : (salt.bytes++fernet.encrypt draw (encodeUtf8 value)).take saltLength = salt.bytes :=
    List.take_left' salt.length_eq
  have htoken : (salt.bytes++fernet.encrypt draw (encodeUtf8 value)).drop saltLength =
      fernet.encrypt draw (encodeUtf8 value) := List.drop_left' salt.length_eq
  simp only [decryptField, if_neg hempty, saltedPart_of_saltPrefix htext, hsalt, htoken,
    newFernet_eq_ok_iff.mpr hkey]
  exact h.decrypt_decode hkey draw value

theorem Config.Documented.decryptField_encryptField (h : cfg.Documented) (salt : Salt)
    (draw : FernetDraw) (value : Option String) :
    (encryptField cfg salt draw value).bind (decryptField cfg) = .ok value := by
  cases value with
  | none => rfl
  | some value =>
    by_cases hempty : value = ""
    · simp only [encryptField, if_pos hempty]
      show decryptField cfg (some value) = .ok (some value)
      exact if_pos hempty
    · obtain ⟨fernet, hkey⟩ := h.exists_deriveKey salt.bytes
      obtain ⟨text, htext⟩ := exists_text_of_urlsafeB64encode
        (saltPrefix++salt.bytes++fernet.encrypt draw (encodeUtf8 value))
      simp only [encryptField, if_neg hempty, newFernet_eq_ok_iff.mpr hkey]
      show (do
        let text ← decodeText (urlsafeB64encode
          (saltPrefix++salt.bytes++fernet.encrypt draw (encodeUtf8 value)))
        Except.ok (some text)).bind (decryptField cfg) = Except.ok (some value)
      rw [decodeText_of_encode htext]
      rw [List.append_assoc] at htext
      exact h.decryptField_salted hkey draw htext

theorem Config.Documented.decryptField_legacy (h : cfg.Documented) {legacy : Fernet}
    (hkey : cfg.fernet (legacyKey cfg) = some legacy) {draw : FernetDraw} {value token : String}
    (htoken : encodeUtf8 token = legacy.encrypt draw (encodeUtf8 value)) :
    saltedPart token = none ∧ decryptField cfg (some token) = .ok (some value) := by
  obtain ⟨rest, hversion⟩ := h.versioned _ legacy draw (encodeUtf8 value) hkey
  have htext : encodeUtf8 token = urlsafeB64encode (128 :: rest) := htoken.trans hversion
  have hlegacy : saltedPart token = none := saltedPart_of_version htext
  refine ⟨hlegacy, ?_⟩
  have hempty : token ≠ "" := ne_empty_of_encode htext
  simp only [decryptField, if_neg hempty, hlegacy, getLegacyFernet, newFernet_eq_ok_iff.mpr hkey,
    htoken]
  exact h.decrypt_decode hkey draw value

/-- Decryption gives back every value, whatever the salt, and every token of the legacy key. -/
theorem decryptField_inverts (h : cfg.Documented) :
    (∀ salt draw value, (encryptField cfg salt draw value).bind (decryptField cfg) = .ok value) ∧
      ∃ legacy, getLegacyFernet cfg = .ok legacy ∧ ∀ draw value token,
        encodeUtf8 token = legacy.encrypt draw (encodeUtf8 value) →
          saltedPart token = none ∧ decryptField cfg (some token) = .ok (some value) := by
  obtain ⟨legacy, hkey⟩ := h.exists_legacyKey
  refine ⟨h.decryptField_encryptField, legacy, newFernet_eq_ok_iff.mpr hkey, ?_⟩
  intro draw value token htoken
  exact h.decryptField_legacy hkey htoken

end

/-! The library on two tokens. It gives every other text back in a toy format. -/

/-- A token, after its version and the first byte of its time, with what it was made of. -/
structure TokenRecord where
  draw : FernetDraw
  bytes : Bytes
  rest : Bytes

def recordedFernet (r : TokenRecord) : Fernet where
  encrypt draw bytes :=
    if draw = r.draw ∧ bytes = r.bytes then urlsafeB64encode (128 :: 0 :: r.rest)
    else urlsafeB64encode (128 :: 1 :: bytes)
  decrypt token :=
    match urlsafeB64decodeBytes token with
    | some (128 :: 0 :: rest) => if rest = r.rest then some r.bytes else none
    | some (128 :: 1 :: bytes) => some bytes
    | _ => none

theorem recordedFernet_inverts (r : TokenRecord) (draw : FernetDraw) (bytes : Bytes) :
    (recordedFernet r).decrypt ((recordedFernet r).encrypt draw bytes) = some bytes := by
  by_cases h : draw = r.draw ∧ bytes = r.bytes
  · simp [recordedFernet, h, urlsafeB64decode_encode]
  · simp [recordedFernet, h, urlsafeB64decode_encode]

theorem recordedFernet_versioned (r : TokenRecord) (draw : FernetDraw) (bytes : Bytes) :
    ∃ rest, (recordedFernet r).encrypt draw bytes = urlsafeB64encode (128 :: rest) := by
  by_cases h : draw = r.draw ∧ bytes = r.bytes
  · exact ⟨0 :: r.rest, if_pos h⟩
  · exact ⟨1 :: bytes, if_neg h⟩

def accountSalt : Salt :=
  ⟨[7, 29, 181, 64, 3, 250, 17, 92, 44, 201, 130, 88, 9, 233, 71, 156], rfl⟩

/-- PBKDF2 of the master key and the salt. -/
def accountKey : Bytes :=
  [215, 20, 198, 212, 137, 89, 23, 32, 185, 128, 136, 214, 27, 109, 175, 77,
    175, 45, 178, 94, 52, 176, 143, 112, 137, 229, 80, 132, 202, 123, 98, 243]

def accountToken : TokenRecord where
  draw := ⟨1760000000, [161, 12, 55, 240, 8, 99, 143, 27, 210, 66, 5, 178, 94, 31, 237, 120]⟩
  bytes := encodeUtf8 "1234567890"
  rest :=
    [0, 0, 0, 104, 231, 120, 0, 161, 12, 55, 240, 8, 99, 143, 27, 210, 66, 5, 178, 94, 31, 237,
      120, 241, 234, 249, 9, 199, 78, 95, 240, 30, 94, 140, 246, 185, 92, 39, 255, 122, 246, 214,
      117, 187, 121, 50, 106, 169, 155, 246, 120, 222, 12, 176, 237, 43, 55, 224, 15, 33, 169,
      118, 91, 40, 151, 109, 184, 143, 14, 66, 18]

/-- PBKDF2 of the master key and the salt of the fields that have none. -/
def routingKey : Bytes :=
  [95, 145, 118, 68, 96, 205, 34, 212, 128, 159, 231, 15, 194, 149, 34, 133,
    8, 173, 122, 110, 146, 121, 237, 244, 208, 13, 40, 140, 238, 59, 180, 202]

def routingToken : TokenRecord where
  draw := ⟨1700000000, [23, 190, 72, 4, 151, 38, 219, 86, 113, 247, 60, 9, 132, 205, 58, 176]⟩
  bytes := encodeUtf8 "021000021"
  rest :=
    [0, 0, 0, 101, 83, 241, 0, 23, 190, 72, 4, 151, 38, 219, 86, 113, 247, 60, 9, 132, 205, 58,
      176, 137, 247, 106, 61, 102, 246, 166, 53, 250, 137, 65, 198, 219, 231, 153, 118, 52, 39, 36,
      51, 163, 117, 174, 175, 187, 53, 91, 136, 33, 161, 99, 72, 71, 222, 164, 251, 252, 172, 38,
      233, 173, 146, 57, 142, 139, 50, 68, 220]

/-- A derived key has the length that is asked for. -/
def recordedPbkdf2 (length : ℕ) (salt : Bytes) (rounds : ℕ) (password : Bytes) : Bytes :=
  if length = 32 ∧ password = encodeUtf8 "test-encryption-key-for-unit-tests" then
    if salt = accountSalt.bytes ∧ rounds = iterations then accountKey
    else if salt = legacySalt ∧ rounds = 100000 then routingKey
    else List.replicate 32 0
  else List.replicate length 0

def recordedConfig : Config where
  pbkdf2 := recordedPbkdf2
  fernet key :=
    match urlsafeB64decodeBytes key with
    | none => none
    | some bytes =>
      if bytes.length = 32 then
        some (recordedFernet (if bytes = accountKey then accountToken else routingToken))
      else none
  fieldEncryptionKey := "test-encryption-key-for-unit-tests"

theorem exists_recordedFernet {key : Bytes} {fernet : Fernet}
    (h : recordedConfig.fernet key = some fernet) : ∃ r, fernet = recordedFernet r := by
  change (match urlsafeB64decodeBytes key with
    | none => none
    | some bytes => _) = _ at h
  cases hkey : urlsafeB64decodeBytes key with
  | none =>
    rw [hkey] at h
    cases h
  | some bytes =>
    rw [hkey] at h
    dsimp only at h
    split_ifs at h
    · exact ⟨_, (Option.some.inj h).symm⟩
    · exact ⟨_, (Option.some.inj h).symm⟩

theorem recordedConfig_fernet {key : Bytes} (h : key.length = 32) :
    recordedConfig.fernet (urlsafeB64encode key) =
      some (recordedFernet (if key = accountKey then accountToken else routingToken)) := by
  simp [recordedConfig, urlsafeB64decode_encode, h]

theorem recordedConfig_documented : recordedConfig.Documented where
  derived length salt rounds password := by
    show (recordedPbkdf2 length salt rounds password).length = length
    unfold recordedPbkdf2
    split_ifs with hlength hsalt hlegacy
    · exact hlength.1.symm
    · exact hlength.1.symm
    · rw [List.length_replicate, hlength.1]
    · exact List.length_replicate
  accepts key h := ⟨_, recordedConfig_fernet h⟩
  inverts key fernet draw bytes h := by
    obtain ⟨r, rfl⟩ := exists_recordedFernet h
    exact recordedFernet_inverts r draw bytes
  versioned key fernet draw bytes h := by
    obtain ⟨r, rfl⟩ := exists_recordedFernet h
    exact recordedFernet_versioned r draw bytes

def routingText : String :=
  "gAAAAABlU_EAF75IBJcm21Zx9zwJhM06sIn3aj1m9qY1-olBxtvnmXY0JyQz" ++
    "o3Wur7s1W4ghoWNIR96k-_ysJumtkjmOizJE3A=="

/-- The salted value of an account number, and an old token of a routing number. -/
theorem decryptField_inverts_recorded :
    (encryptField recordedConfig accountSalt accountToken.draw (some "1234567890")).bind
        (decryptField recordedConfig) = .ok (some "1234567890") ∧
      decryptField recordedConfig (some routingText) = .ok (some "021000021") := by
  obtain ⟨hsalted, legacy, hlegacy, htokens⟩ := decryptField_inverts recordedConfig_documented
  refine ⟨hsalted accountSalt accountToken.draw (some "1234567890"), ?_⟩
  have hkey : recordedPbkdf2 32 legacySalt 100000 (encodeUtf8 recordedConfig.fieldEncryptionKey) =
      routingKey := by decide +kernel
  have hfernet : recordedConfig.fernet (legacyKey recordedConfig) =
      some (recordedFernet routingToken) := by
    have hencoded : legacyKey recordedConfig = urlsafeB64encode routingKey :=
      congrArg urlsafeB64encode hkey
    rw [hencoded, recordedConfig_fernet rfl, if_neg (by decide)]
  have hsame : legacy = recordedFernet routingToken :=
    Option.some.inj ((newFernet_eq_ok_iff.mp hlegacy).symm.trans hfernet)
  apply (htokens routingToken.draw "021000021" _ _).2
  rw [hsame]
  decide +kernel

end LegalForge.Encryption
