import Mathlib.Tactic

/-! Base64 as Python reads and writes it. -/
namespace LegalForge.Auth

abbrev Bytes := List UInt8

/-! `base64.urlsafe_b64decode`, which skips every character outside its alphabet. -/

def base64Value (c : Char) : Option ℕ :=
  if 'A' ≤ c ∧ c ≤ 'Z' then some (c.toNat-65)
  else if 'a' ≤ c ∧ c ≤ 'z' then some (c.toNat-71)
  else if '0' ≤ c ∧ c ≤ '9' then some (c.toNat+4)
  else if c = '+' ∨ c = '-' then some 62
  else if c = '/' ∨ c = '_' then some 63
  else none

/-- What follows the first `quad` characters of a group of four, of which the bits `left` are
not yet written. Enough padding ends the text. -/
def a2bBase64 : List Char → ℕ → ℕ → ℕ → Option Bytes
  | [], quad, _, _ => if quad = 0 then some [] else none
  | c :: cs, quad, left, pads =>
    if c = '=' then
      if 2 ≤ quad then if 4 ≤ quad+(pads+1) then some [] else a2bBase64 cs quad left (pads+1)
      else a2bBase64 cs quad left pads
    else
      match base64Value c with
      | none => a2bBase64 cs quad left pads
      | some v =>
        match quad with
        | 0 => a2bBase64 cs 1 v 0
        | 1 => (a2bBase64 cs 2 (v%16) 0).map (fun bs => UInt8.ofNat (left*4+v/16) :: bs)
        | 2 => (a2bBase64 cs 3 (v%4) 0).map (fun bs => UInt8.ofNat (left*16+v/4) :: bs)
        | _ => (a2bBase64 cs 0 0 0).map (fun bs => UInt8.ofNat (left*64+v) :: bs)

/-! The bytes of a text that are not in the alphabet are skipped, whatever they are. -/

/-- The character that a byte is in a table of 256 characters. -/
def byteChar (b : UInt8) : Char := Char.ofNat b.toNat

/-- `base64.urlsafe_b64decode` of bytes -/
def urlsafeB64decodeBytes (text : Bytes) : Option Bytes :=
  a2bBase64 (text.map byteChar) 0 0 0

/-- The digit for six bits. -/
def base64Digit (v : ℕ) : UInt8 :=
  UInt8.ofNat
    (if v < 26 then 65+v else if v < 52 then 71+v else if v < 62 then v-4
      else if v = 62 then 45 else 95)

/-- The padding `=`. -/
def base64Pad : UInt8 := 61

/-- `base64.urlsafe_b64encode` -/
def urlsafeB64encode : Bytes → Bytes
  | [] => []
  | [a] =>
    [base64Digit (a.toNat/4), base64Digit (a.toNat%4*16), base64Pad, base64Pad]
  | [a, b] =>
    [base64Digit (a.toNat/4), base64Digit (a.toNat%4*16+b.toNat/16),
      base64Digit (b.toNat%16*4), base64Pad]
  | a :: b :: c :: bytes =>
    base64Digit (a.toNat/4) :: base64Digit (a.toNat%4*16+b.toNat/16) ::
      base64Digit (b.toNat%16*4+c.toNat/64) :: base64Digit (c.toNat%64) :: urlsafeB64encode bytes

/-! A digit is read as its six bits. -/

theorem base64Digit_spec : ∀ v : Fin 64, byteChar (base64Digit v) ≠ '=' ∧
    base64Value (byteChar (base64Digit v)) = some v.val ∧ base64Digit v < 128 := by
  decide

section
variable {v : ℕ} {cs : List Char} {left pads : ℕ}

theorem byteChar_digit_ne_pad (h : v < 64) : byteChar (base64Digit v) ≠ '=' :=
  (base64Digit_spec ⟨v, h⟩).1

theorem base64Value_digit (h : v < 64) : base64Value (byteChar (base64Digit v)) = some v :=
  (base64Digit_spec ⟨v, h⟩).2.1

theorem a2bBase64_first (h : v < 64) :
    a2bBase64 (byteChar (base64Digit v) :: cs) 0 left pads = a2bBase64 cs 1 v 0 := by
  simp only [a2bBase64, if_neg (byteChar_digit_ne_pad h), base64Value_digit h]

theorem a2bBase64_second (h : v < 64) : a2bBase64 (byteChar (base64Digit v) :: cs) 1 left pads =
    (a2bBase64 cs 2 (v%16) 0).map (fun bs => UInt8.ofNat (left*4+v/16) :: bs) := by
  simp only [a2bBase64, if_neg (byteChar_digit_ne_pad h), base64Value_digit h]

theorem a2bBase64_third (h : v < 64) : a2bBase64 (byteChar (base64Digit v) :: cs) 2 left pads =
    (a2bBase64 cs 3 (v%4) 0).map (fun bs => UInt8.ofNat (left*16+v/4) :: bs) := by
  simp only [a2bBase64, if_neg (byteChar_digit_ne_pad h), base64Value_digit h]

theorem a2bBase64_fourth (h : v < 64) : a2bBase64 (byteChar (base64Digit v) :: cs) 3 left pads =
    (a2bBase64 cs 0 0 0).map (fun bs => UInt8.ofNat (left*64+v) :: bs) := by
  simp only [a2bBase64, if_neg (byteChar_digit_ne_pad h), base64Value_digit h]

end

/-- Padding ends a text whose last group has two digits, or three. -/
theorem a2bBase64_pads (left : ℕ) :
    a2bBase64 [byteChar base64Pad, byteChar base64Pad] 2 left 0 = some [] := rfl

theorem a2bBase64_pad (left : ℕ) : a2bBase64 [byteChar base64Pad] 3 left 0 = some [] := rfl

/-- Decoding undoes encoding, wherever the last group ended. -/
theorem a2bBase64_urlsafeB64encode (bytes : Bytes) (left pads : ℕ) :
    a2bBase64 ((urlsafeB64encode bytes).map byteChar) 0 left pads = some bytes := by
  induction bytes using urlsafeB64encode.induct generalizing left pads with
  | case1 => rfl
  | case2 a =>
    have ha := a.toNat_lt
    have hfirst : a.toNat/4*4+a.toNat%4*16/16 = a.toNat := by omega
    simp only [urlsafeB64encode, List.map_cons, List.map_nil]
    rw [a2bBase64_first (by omega), a2bBase64_second (by omega), a2bBase64_pads, Option.map_some,
      hfirst, UInt8.ofNat_toNat]
  | case3 a b =>
    have ha := a.toNat_lt
    have hb := b.toNat_lt
    have hfirst : a.toNat/4*4+(a.toNat%4*16+b.toNat/16)/16 = a.toNat := by omega
    have hsecond : (a.toNat%4*16+b.toNat/16)%16*16+b.toNat%16*4/4 = b.toNat := by omega
    simp only [urlsafeB64encode, List.map_cons, List.map_nil]
    rw [a2bBase64_first (by omega), a2bBase64_second (by omega), a2bBase64_third (by omega),
      a2bBase64_pad, Option.map_some, Option.map_some, hfirst, hsecond, UInt8.ofNat_toNat,
      UInt8.ofNat_toNat]
  | case4 a b c bytes ih =>
    have ha := a.toNat_lt
    have hb := b.toNat_lt
    have hc := c.toNat_lt
    have hfirst : a.toNat/4*4+(a.toNat%4*16+b.toNat/16)/16 = a.toNat := by omega
    have hsecond : (a.toNat%4*16+b.toNat/16)%16*16+(b.toNat%16*4+c.toNat/64)/4 = b.toNat := by omega
    have hthird : (b.toNat%16*4+c.toNat/64)%4*64+c.toNat%64 = c.toNat := by omega
    simp only [urlsafeB64encode, List.map_cons]
    rw [a2bBase64_first (by omega), a2bBase64_second (by omega), a2bBase64_third (by omega),
      a2bBase64_fourth (by omega), ih, Option.map_some, Option.map_some, Option.map_some, hfirst,
      hsecond, hthird, UInt8.ofNat_toNat, UInt8.ofNat_toNat, UInt8.ofNat_toNat]

theorem urlsafeB64decode_encode (bytes : Bytes) :
    urlsafeB64decodeBytes (urlsafeB64encode bytes) = some bytes :=
  a2bBase64_urlsafeB64encode bytes 0 0

theorem urlsafeB64encode_ne_nil (b : UInt8) (bytes : Bytes) : urlsafeB64encode (b :: bytes) ≠ [] := by
  match bytes with
  | [] => exact List.cons_ne_nil _ _
  | [_] => exact List.cons_ne_nil _ _
  | _ :: _ :: _ => exact List.cons_ne_nil _ _

theorem base64Digit_lt {v : ℕ} (h : v < 64) : base64Digit v < 128 :=
  (base64Digit_spec ⟨v, h⟩).2.2

/-- What is written is ASCII. -/
theorem lt_of_mem_urlsafeB64encode {bytes : Bytes} {b : UInt8} (h : b ∈ urlsafeB64encode bytes) :
    b < 128 := by
  have hpad : base64Pad < 128 := by decide
  induction bytes using urlsafeB64encode.induct with
  | case1 => cases h
  | case2 a =>
    have ha := a.toNat_lt
    simp only [urlsafeB64encode, List.mem_cons, List.not_mem_nil, or_false] at h
    rcases h with rfl | rfl | rfl | rfl
    · exact base64Digit_lt (by omega)
    · exact base64Digit_lt (by omega)
    · exact hpad
    · exact hpad
  | case3 a a' =>
    have ha := a.toNat_lt
    have ha' := a'.toNat_lt
    simp only [urlsafeB64encode, List.mem_cons, List.not_mem_nil, or_false] at h
    rcases h with rfl | rfl | rfl | rfl
    · exact base64Digit_lt (by omega)
    · exact base64Digit_lt (by omega)
    · exact base64Digit_lt (by omega)
    · exact hpad
  | case4 a a' c bytes ih =>
    have ha := a.toNat_lt
    have ha' := a'.toNat_lt
    have hc := c.toNat_lt
    simp only [urlsafeB64encode, List.mem_cons] at h
    rcases h with rfl | rfl | rfl | rfl | h
    · exact base64Digit_lt (by omega)
    · exact base64Digit_lt (by omega)
    · exact base64Digit_lt (by omega)
    · exact base64Digit_lt (by omega)
    · exact ih h

end LegalForge.Auth
