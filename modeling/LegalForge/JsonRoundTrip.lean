import LegalForge.JsonText

/-! Reading a text that `dumps` wrote gives the value back. -/
namespace LegalForge.JsonText
open Encoding

/-! Strings. -/

/-- The code points that a text can hold. -/
def Scalar (n : ℕ) : Prop :=
  n < 0x110000 ∧ ¬(0xd800 ≤ n ∧ n < 0xe000)

theorem scalar_of_char (c : Char) : Scalar c.toNat := by
  have hvalid : c.toNat < 0xd800 ∨ 0xdfff < c.toNat ∧ c.toNat < 0x110000 := c.valid
  unfold Scalar
  omega

theorem scalar_of_mem_codePoints {text : List Char} {n : ℕ} (h : n ∈ codePoints text) :
    Scalar n := by
  obtain ⟨c, -, rfl⟩ := List.mem_map.mp h
  exact scalar_of_char c

theorem hexDigit_digitChar : ∀ d < 16, hexDigit (Nat.digitChar d) = some d := by
  decide

theorem foldlM_hexDigit (k n m : ℕ) (hn : n < 16^k) :
    (padded 16 k n).foldlM (fun n c => (hexDigit c).map fun d => n*16+d) m =
      some (m*16^k+n) := by
  induction k generalizing n with
  | zero =>
    have hzero : n = 0 := by omega
    simp [padded, digits, hzero]
  | succ k ih =>
    have hhigh : n/16 < 16^k := by
      rw [Nat.pow_succ'] at hn
      exact Nat.div_lt_of_lt_mul hn
    have hlow : hexDigit (Nat.digitChar (n%16)) = some (n%16) :=
      hexDigit_digitChar _ (Nat.mod_lt n (by decide))
    have hprefix := ih (n/16) hhigh
    unfold padded at hprefix ⊢
    rw [digits, List.map_append, List.foldlM_append, hprefix]
    simp only [List.map_cons, List.map_nil, Option.bind_eq_bind, Option.bind_some,
      List.foldlM_cons, List.foldlM_nil, hlow, Option.map_some]
    have hsplit : 16*(n/16)+n%16 = n := Nat.div_add_mod n 16
    rw [Option.pure_def, Option.some.injEq, Nat.pow_succ, ← Nat.mul_assoc]
    omega

theorem hexNumeral_padded {n : ℕ} (h : n < 0x10000) : hexNumeral (padded 16 4 n) = some n := by
  rw [hexNumeral, foldlM_hexDigit 4 n 0 h]
  simp

/-- An escape of four digits is read as one unit. -/
theorem scanString_unicodeEscape {n : ℕ} (h : n < 0x10000) (rest : List Char) :
    scanString (unicodeEscape n++rest) =
      (scanString rest).map fun out => (n :: out.1, out.2) := by
  have hvalue := hexNumeral_padded h
  have hfour : ∃ a b c d, padded 16 4 n = [a, b, c, d] :=
    ⟨_, _, _, _, rfl⟩
  obtain ⟨a, b, c, d, hdigits⟩ := hfour
  rw [hdigits] at hvalue
  simp only [unicodeEscape, hdigits, List.cons_append, List.nil_append, scanString, hvalue,
    Option.bind_some]

/-- The units that `dumps` writes a code point with. -/
def units (n : ℕ) : List ℕ :=
  if n < 0x10000 then [n] else [highSurrogate n, lowSurrogate n]

theorem scanString_plain {c : Char} (hquote : c ≠ '"') (hback : c ≠ '\\') (hctrl : 32 ≤ c.toNat)
    (rest : List Char) :
    scanString (c :: rest) = (scanString rest).map fun out => (c.toNat :: out.1, out.2) := by
  have hnot : ¬c.toNat < 32 := by omega
  rw [scanString.eq_def]
  split
  · rename_i h
    cases h
  · rename_i h
    exact absurd (List.cons.inj h).1 hquote
  · rename_i h
    exact absurd (List.cons.inj h).1 hback
  · rename_i h
    exact absurd (List.cons.inj h).1 hback
  · rename_i h
    obtain ⟨rfl, rfl⟩ := List.cons.inj h
    rw [if_neg hnot]

theorem surrogates_lt {n : ℕ} (hhigh : 0x10000 ≤ n) (hlt : n < 0x110000) :
    isHigh (highSurrogate n) = true ∧ isLow (lowSurrogate n) = true ∧
      highSurrogate n < 0x10000 ∧ lowSurrogate n < 0x10000 := by
  have hquotient : (n-0x10000)/0x400 < 0x400 := by omega
  have hrest : (n-0x10000)%0x400 < 0x400 := Nat.mod_lt _ (by decide)
  refine ⟨decide_eq_true ?_, decide_eq_true ?_, ?_, ?_⟩ <;>
    simp only [highSurrogate, lowSurrogate] <;> omega

theorem toNat_ofNat_ascii : ∀ n < 127, (Char.ofNat n).toNat = n := by
  decide

theorem scanString_escaped {n : ℕ} (h : Scalar n) (rest : List Char) :
    scanString (escaped n++rest) =
      (scanString rest).map fun out => (units n++out.1, out.2) := by
  unfold escaped
  split_ifs with h1 h2 h3 h4 h5 h6 h7 h8 h9
  · subst h1
    rfl
  · subst h2
    rfl
  · subst h3
    rfl
  · subst h4
    rfl
  · subst h5
    rfl
  · subst h6
    rfl
  · subst h7
    rfl
  · -- a printable character stands for itself
    have hcode : (Char.ofNat n).toNat = n := toNat_ofNat_ascii n (by omega)
    have hunits : units n = [n] := if_pos (by omega)
    have hquote : Char.ofNat n ≠ '"' := fun heq => h1 (by rw [← hcode, heq]; rfl)
    have hback : Char.ofNat n ≠ '\\' := fun heq => h2 (by rw [← hcode, heq]; rfl)
    rw [List.cons_append, List.nil_append, scanString_plain hquote hback (by omega), hcode, hunits]
    rfl
  · have hunits : units n = [n] := if_pos h9
    rw [scanString_unicodeEscape h9, hunits]
    rfl
  · obtain ⟨-, -, hhigh, hlow⟩ := surrogates_lt (by omega) h.1
    have hunits : units n = [highSurrogate n, lowSurrogate n] := if_neg h9
    rw [List.append_assoc, scanString_unicodeEscape hhigh, scanString_unicodeEscape hlow,
      Option.map_map, hunits]
    rfl

theorem scanString_quoted {s : Str} (h : ∀ n ∈ s, Scalar n) (rest : List Char) :
    scanString (s.flatMap escaped++ '"' :: rest) = some (s.flatMap units, rest) := by
  induction s with
  | nil => rfl
  | cons n s ih =>
    have hn : Scalar n := h n List.mem_cons_self
    have hs := ih fun m hm => h m (List.mem_cons_of_mem n hm)
    rw [List.flatMap_cons, List.append_assoc, scanString_escaped hn, hs]
    rfl

theorem joinPairs_cons {n : ℕ} (h : ¬isHigh n = true) (rest : List ℕ) :
    joinPairs (n :: rest) = n :: joinPairs rest := by
  cases rest with
  | nil => rfl
  | cons m rest => simp [joinPairs, h]

theorem joinPairs_units {s : Str} (h : ∀ n ∈ s, Scalar n) : joinPairs (s.flatMap units) = s := by
  induction s with
  | nil => rfl
  | cons n s ih =>
    have hn : Scalar n := h n List.mem_cons_self
    have hs := ih fun m hm => h m (List.mem_cons_of_mem n hm)
    rw [List.flatMap_cons]
    by_cases hlt : n < 0x10000
    · have hlow : ¬isHigh n = true := by
        have hsurrogate := hn.2
        simp only [isHigh, decide_eq_true_eq]
        omega
      rw [units, if_pos hlt, List.cons_append, List.nil_append, joinPairs_cons hlow, hs]
    · -- the pair is put together again
      obtain ⟨hhigh, hlow, -, -⟩ := surrogates_lt (by omega) hn.1
      have hvalue : 0x10000+(highSurrogate n-0xd800)*0x400+(lowSurrogate n-0xdc00) = n := by
        unfold highSurrogate lowSurrogate
        omega
      rw [units, if_neg hlt, List.cons_append, List.cons_append, List.nil_append, joinPairs, hhigh,
        hlow, hvalue, hs]
      rfl

/-- A text without escapes, as it stands between two quotes. -/
theorem joinPairs_codePoints (text : List Char) :
    joinPairs (codePoints text) = codePoints text := by
  induction text with
  | nil => rfl
  | cons c text ih =>
    have hc : ¬isHigh c.toNat = true := by
      have hscalar := (scalar_of_char c).2
      simp only [isHigh, decide_eq_true_eq]
      omega
    rw [codePoints, List.map_cons, joinPairs_cons hc]
    exact congrArg (List.cons c.toNat) ih

/-- The characters that stand for themselves inside a string. -/
def plainChar (c : Char) : Bool :=
  c ≠ '"' ∧ c ≠ '\\' ∧ 32 ≤ c.toNat

theorem scanString_raw {text : List Char} (h : ∀ c ∈ text, plainChar c = true)
    (rest : List Char) : scanString (text++ '"' :: rest) = some (codePoints text, rest) := by
  induction text with
  | nil => rfl
  | cons c text ih =>
    have hc := h c List.mem_cons_self
    simp only [plainChar, decide_eq_true_eq] at hc
    have htext := ih fun d hd => h d (List.mem_cons_of_mem c hd)
    rw [List.cons_append, scanString_plain hc.1 hc.2.1 hc.2.2, htext]
    rfl

/-! Numbers. What ends a value inside a text cannot continue a number. -/

def Ends (rest : List Char) : Prop :=
  ∀ c, rest.head? = some c → c = ',' ∨ c = ']' ∨ c = '}'

theorem ends_nil : Ends [] := nofun

theorem ends_cons {c : Char} (rest : List Char) (h : c = ',' ∨ c = ']' ∨ c = '}') :
    Ends (c :: rest) := by
  intro d hd
  obtain rfl := Option.some.inj hd
  exact h

theorem digits_append {rest : List Char} (h : Ends rest) (text : List Char) :
    (text++rest).takeWhile Char.isDigit = text.takeWhile Char.isDigit ∧
      (text++rest).dropWhile Char.isDigit = text.dropWhile Char.isDigit++rest := by
  induction text with
  | nil =>
    cases rest with
    | nil => exact ⟨rfl, rfl⟩
    | cons c rest =>
      have hc : c.isDigit = false := by
        rcases h c rfl with rfl | rfl | rfl <;> decide
      simp [hc]
  | cons c text ih =>
    by_cases hc : c.isDigit = true
    · simp [hc, ih]
    · simp [hc]

theorem scanWhole_append {rest : List Char} (h : Ends rest) (text : List Char) :
    scanWhole (text++rest) = (scanWhole text).map fun out => (out.1, out.2++rest) := by
  have hdigits := digits_append h text
  by_cases hzero : ∃ q, text = '0' :: q
  · obtain ⟨q, rfl⟩ := hzero
    rfl
  · have hzero' : ¬∃ q, text++rest = '0' :: q := by
      rintro ⟨q, hq⟩
      cases text with
      | nil =>
        rw [List.nil_append] at hq
        rcases h '0' (by rw [hq]; rfl) with hc | hc | hc <;> exact absurd hc (by decide)
      | cons c text => exact hzero ⟨text, by rw [(List.cons.inj hq).1]⟩
    have hscan : ∀ t : List Char, (¬∃ q, t = '0' :: q) → scanWhole t =
        if t.takeWhile Char.isDigit = [] then none
        else some (t.takeWhile Char.isDigit, t.dropWhile Char.isDigit) := by
      intro t ht
      unfold scanWhole
      split
      · exact absurd ⟨_, rfl⟩ ht
      · rfl
    rw [hscan _ hzero', hscan _ hzero, hdigits.1, hdigits.2]
    split_ifs <;> rfl

theorem scanFraction_append {rest : List Char} (h : Ends rest) (text : List Char) :
    scanFraction (text++rest) = ((scanFraction text).1, (scanFraction text).2++rest) := by
  cases text with
  | nil =>
    cases rest with
    | nil => rfl
    | cons c rest => rcases h c rfl with rfl | rfl | rfl <;> rfl
  | cons c text =>
    have hdigits := digits_append h text
    by_cases hc : c = '.'
    · subst hc
      simp only [List.cons_append, scanFraction, hdigits.1, hdigits.2]
      split_ifs <;> rfl
    · have hscan : ∀ q, scanFraction (c :: q) = ([], c :: q) := by
        intro q
        unfold scanFraction
        split
        · rename_i heq
          exact absurd (List.cons.inj heq).1 hc
        · rfl
      rw [List.cons_append, hscan, hscan]
      rfl

theorem exponentSign_append {rest : List Char} (h : Ends rest) (text : List Char) :
    exponentSign (text++rest) = exponentSign text := by
  cases text with
  | nil =>
    cases rest with
    | nil => rfl
    | cons c rest => rcases h c rfl with rfl | rfl | rfl <;> rfl
  | cons c text =>
    rw [List.cons_append]
    unfold exponentSign
    split <;> split <;> simp_all

theorem length_exponentSign_le (text : List Char) : (exponentSign text).length ≤ text.length := by
  unfold exponentSign
  split <;> simp

theorem scanExponent_append {rest : List Char} (h : Ends rest) (text : List Char) :
    scanExponent (text++rest) = ((scanExponent text).1, (scanExponent text).2++rest) := by
  cases text with
  | nil =>
    cases rest with
    | nil => rfl
    | cons c rest =>
      have hc : ¬(c = 'e' ∨ c = 'E') := by
        rcases h c rfl with rfl | rfl | rfl <;> decide
      simp [scanExponent, hc]
  | cons c text =>
    have hdrop : (text++rest).drop (exponentSign text).length =
        text.drop (exponentSign text).length++rest :=
      List.drop_append_of_le_length (length_exponentSign_le text)
    have hdigits := digits_append h (text.drop (exponentSign text).length)
    simp only [List.cons_append, scanExponent, exponentSign_append h, hdrop, hdigits.1, hdigits.2]
    split_ifs <;> rfl

theorem minusSign_append {rest : List Char} (h : Ends rest) (text : List Char) :
    minusSign (text++rest) = minusSign text := by
  cases text with
  | nil =>
    cases rest with
    | nil => rfl
    | cons c rest => rcases h c rfl with rfl | rfl | rfl <;> rfl
  | cons c text =>
    rw [List.cons_append]
    unfold minusSign
    split <;> split <;> simp_all

theorem length_minusSign_le (text : List Char) : (minusSign text).length ≤ text.length := by
  unfold minusSign
  split <;> simp

theorem scanNumber_append {rest : List Char} (h : Ends rest) (text : List Char) :
    scanNumber (text++rest) = (scanNumber text).map fun out => (out.1, out.2++rest) := by
  have hdrop : (text++rest).drop (minusSign text).length =
      text.drop (minusSign text).length++rest :=
    List.drop_append_of_le_length (length_minusSign_le text)
  simp only [scanNumber, minusSign_append h, hdrop, scanWhole_append h, Option.map_map]
  refine Option.map_congr fun whole _ => ?_
  simp only [Function.comp_def, scanFraction_append h, scanExponent_append h]

/-- A number begins with its sign or with a digit. -/
theorem scanNumber_head {text : List Char} {out : List Char × List Char}
    (h : scanNumber text = some out) : ∃ c q, text = c :: q ∧ (c = '-' ∨ c.isDigit = true) := by
  obtain ⟨whole, hwhole, -⟩ := Option.map_eq_some_iff.mp h
  cases text with
  | nil => cases hwhole
  | cons c text =>
    refine ⟨c, text, rfl, ?_⟩
    by_contra hneg
    obtain ⟨hminus, hdigit⟩ := not_or.mp hneg
    have hsign : minusSign (c :: text) = [] := by
      unfold minusSign
      split
      · rename_i heq
        exact absurd (List.cons.inj heq).1 hminus
      · rfl
    rw [hsign, List.length_nil, List.drop_zero, scanWhole] at hwhole
    · simp [hdigit] at hwhole
    · intro q heq
      obtain rfl := (List.cons.inj heq).1
      exact hdigit (by decide)

/-! Values. -/

mutual

/-- What `json.dumps` writes as JSON: strings without surrogates, numbers that are
finite, and dictionaries, whose keys are distinct. -/
def WellFormed : Value → Prop
  | .null => True
  | .bool _ => True
  | .num text => scanNumber text = some (text, [])
  | .str s => ∀ n ∈ s, Scalar n
  | .arr items => WellFormedItems items
  | .obj fields => (fields.map Prod.fst).Nodup ∧ WellFormedFields fields

def WellFormedItems : List Value → Prop
  | [] => True
  | v :: items => WellFormed v ∧ WellFormedItems items

def WellFormedFields : List (Str × Value) → Prop
  | [] => True
  | (key, v) :: fields => (∀ n ∈ key, Scalar n) ∧ WellFormed v ∧ WellFormedFields fields

end

theorem skipSpace_cons {c : Char} (h : isSpace c = false) (text : List Char) :
    skipSpace (c :: text) = c :: text := by
  simp [skipSpace, h]

theorem skipSpace_space (text : List Char) : skipSpace (' ' :: text) = skipSpace text := rfl

/-- An array that is not closed at once has an item. -/
theorem scanValue_array {text : List Char} (h : ∀ q, skipSpace text ≠ ']' :: q) (fuel : ℕ) :
    scanValue (fuel+1) ('[' :: text) =
      (scanValue fuel (skipSpace text)).bind fun out =>
        (scanItems fuel out.2).map fun items => (.arr (out.1 :: items.1), items.2) := by
  rw [scanValue]
  split
  · rename_i heq
    exact absurd heq (h _)
  · rfl

theorem scanValue_object {text : List Char} (h : ∀ q, skipSpace text ≠ '}' :: q) (fuel : ℕ) :
    scanValue (fuel+1) ('{' :: text) =
      (scanMember fuel (skipSpace text)).bind fun out =>
        (scanFields fuel out.2).map fun fields =>
          (.obj (dictOf (out.1 :: fields.1)), fields.2) := by
  rw [scanValue]
  split
  · rename_i heq
    exact absurd heq (h _)
  · rfl

/-- How the text of a value begins. -/
theorem print_head {v : Value} (h : WellFormed v) :
    ∃ c q, print v = c :: q ∧ isSpace c = false ∧ c ≠ ']' ∧ c ≠ '}' := by
  have hmake : ∀ c q, isSpace c = false → c ≠ ']' → c ≠ '}' →
      ∃ c' q', c :: q = c' :: q' ∧ isSpace c' = false ∧ c' ≠ ']' ∧ c' ≠ '}' :=
    fun c q h1 h2 h3 => ⟨c, q, rfl, h1, h2, h3⟩
  match v, h with
  | .null, _ => exact hmake 'n' _ (by decide) (by decide) (by decide)
  | .bool true, _ => exact hmake 't' _ (by decide) (by decide) (by decide)
  | .bool false, _ => exact hmake 'f' _ (by decide) (by decide) (by decide)
  | .num text, h =>
    obtain ⟨c, q, rfl, hc⟩ := scanNumber_head h
    have hspace : ∀ d : Char, d = '-' ∨ d.isDigit = true → isSpace d = false ∧ d ≠ ']' ∧ d ≠ '}' := by
      rintro d (rfl | hd)
      · decide
      · refine ⟨?_, ?_, ?_⟩
        · rw [isSpace, decide_eq_false_iff_not]
          rintro (rfl | rfl | rfl | rfl) <;> exact absurd hd (by decide)
        · rintro rfl
          exact absurd hd (by decide)
        · rintro rfl
          exact absurd hd (by decide)
    obtain ⟨h1, h2, h3⟩ := hspace c hc
    exact hmake c q h1 h2 h3
  | .str s, _ => exact hmake '"' _ (by decide) (by decide) (by decide)
  | .arr [], _ => exact hmake '[' _ (by decide) (by decide) (by decide)
  | .arr (_ :: _), _ => exact hmake '[' _ (by decide) (by decide) (by decide)
  | .obj [], _ => exact hmake '{' _ (by decide) (by decide) (by decide)
  | .obj ((_, _) :: _), _ => exact hmake '{' _ (by decide) (by decide) (by decide)

theorem skipSpace_print {v : Value} (h : WellFormed v) (rest : List Char) :
    skipSpace (print v++rest) = print v++rest := by
  obtain ⟨c, q, heq, hspace, -⟩ := print_head h
  rw [heq, List.cons_append, skipSpace_cons hspace]

theorem scanAtom_number {text : List Char} (h : scanNumber text = some (text, []))
    {rest : List Char} (hrest : Ends rest) :
    scanAtom (text++rest) = some (.num text, rest) := by
  rw [scanAtom, scanNumber_append hrest, h]
  rfl

theorem scanValue_number {text : List Char} (h : scanNumber text = some (text, []))
    {rest : List Char} (hrest : Ends rest) (fuel : ℕ) :
    scanValue (fuel+1) (text++rest) = some (.num text, rest) := by
  rw [← scanAtom_number h hrest]
  obtain ⟨c, q, rfl, hc⟩ := scanNumber_head h
  have hother : ∀ d : Char, d = '"' ∨ d = '[' ∨ d = '{' → c ≠ d := by
    rintro d hd rfl
    rcases hc with rfl | hdigit
    · revert hd
      decide
    · rcases hd with rfl | rfl | rfl <;> exact absurd hdigit (by decide)
  rw [List.cons_append, scanValue]
  · intro q' heq
    exact hother '"' (Or.inl rfl) (List.cons.inj heq).1
  · intro q' heq
    exact hother '[' (Or.inr (Or.inl rfl)) (List.cons.inj heq).1
  · intro q' heq
    exact hother '{' (Or.inr (Or.inr rfl)) (List.cons.inj heq).1

theorem dictOf_of_nodup {pairs : List (Str × Value)} (h : (pairs.map Prod.fst).Nodup) :
    dictOf pairs = pairs := by
  have hfold : ∀ (ps acc : List (Str × Value)), ((acc++ps).map Prod.fst).Nodup →
      ps.foldl (fun fields p =>
        if p.1 ∈ fields.map Prod.fst then fields.map fun q => if q.1 = p.1 then p else q
        else fields++[p]) acc = acc++ps := by
    intro ps
    induction ps with
    | nil => exact fun acc _ => (List.append_nil acc).symm
    | cons p ps ih =>
      intro acc hnodup
      have hnew : p.1 ∉ acc.map Prod.fst := by
        rw [List.map_append, List.map_cons] at hnodup
        intro hmem
        exact (List.nodup_append.mp hnodup).2.2 p.1 hmem p.1 List.mem_cons_self rfl
      have hsplit : acc++p :: ps = acc++[p]++ps := by rw [List.append_assoc]; rfl
      rw [List.foldl_cons, if_neg hnew, hsplit]
      exact ih (acc++[p]) (hsplit ▸ hnodup)
  exact hfold pairs [] h

theorem scanMember_print {key : Str} {v : Value} {fuel : ℕ} {rest : List Char}
    (hkey : ∀ n ∈ key, Scalar n) (hv : WellFormed v)
    (hscan : scanValue fuel (print v++rest) = some (v, rest)) :
    scanMember (fuel+1) (quoted key++ ':' :: ' ' :: (print v++rest)) = some ((key, v), rest) := by
  have hquoted : quoted key++ ':' :: ' ' :: (print v++rest) =
      '"' :: (key.flatMap escaped++ '"' :: ':' :: ' ' :: (print v++rest)) := by
    simp [quoted]
  have hcolon : ∀ t, skipSpace (':' :: t) = ':' :: t := skipSpace_cons (by decide)
  have hspace : skipSpace (' ' :: (print v++rest)) = print v++rest :=
    (skipSpace_space _).trans (skipSpace_print hv rest)
  rw [hquoted, scanMember, scanString_quoted hkey]
  simp only [Option.bind_some, hcolon, hspace, hscan, Option.map_some, joinPairs_units hkey]

theorem ends_printItems (items : List Value) (rest : List Char) :
    Ends (printItems items++rest) := by
  cases items with
  | nil => exact ends_cons rest (Or.inr (Or.inl rfl))
  | cons v items => exact ends_cons _ (Or.inl rfl)

theorem ends_printFields (fields : List (Str × Value)) (rest : List Char) :
    Ends (printFields fields++rest) := by
  cases fields with
  | nil => exact ends_cons rest (Or.inr (Or.inr rfl))
  | cons p fields => exact ends_cons _ (Or.inl rfl)

mutual

theorem scanValue_print : ∀ (v : Value) (fuel : ℕ) (rest : List Char), WellFormed v →
    (print v).length ≤ fuel → Ends rest → scanValue fuel (print v++rest) = some (v, rest)
  | v, 0, rest, hv, hfuel, _ => by
    obtain ⟨c, q, heq, -⟩ := print_head hv
    rw [heq] at hfuel
    exact absurd hfuel (Nat.not_succ_le_zero _)
  | .null, fuel+1, rest, _, _, _ => rfl
  | .bool true, fuel+1, rest, _, _, _ => rfl
  | .bool false, fuel+1, rest, _, _, _ => rfl
  | .num text, fuel+1, rest, hv, _, hrest => scanValue_number hv hrest fuel
  | .str s, fuel+1, rest, hv, _, _ => by
    have hquoted : print (.str s)++rest = '"' :: (s.flatMap escaped++ '"' :: rest) := by
      simp [print, quoted]
    rw [hquoted, scanValue, scanString_quoted hv, Option.map_some, joinPairs_units hv]
  | .arr [], fuel+1, rest, _, _, _ => rfl
  | .arr (v :: items), fuel+1, rest, hv, hfuel, _ => by
    simp only [print, List.length_cons, List.length_append] at hfuel
    have hitem := scanValue_print v fuel (printItems items++rest) hv.1 (by omega)
      (ends_printItems items rest)
    have hitems := scanItems_print items fuel rest hv.2 (by omega)
    have hskip := skipSpace_print hv.1 (printItems items++rest)
    -- an item does not begin like the end of the list,
    have hopen : ∀ q, skipSpace (print v++(printItems items++rest)) ≠ ']' :: q := by
      obtain ⟨c, q, heq, -, hclose, -⟩ := print_head hv.1
      intro q' h
      rw [hskip, heq, List.cons_append] at h
      exact hclose (List.cons.inj h).1
    rw [print, List.cons_append, List.append_assoc, scanValue_array hopen, hskip, hitem,
      Option.bind_some, hitems, Option.map_some]
  | .obj [], fuel+1, rest, _, _, _ => rfl
  | .obj ((key, v) :: fields), fuel+1, rest, hv, hfuel, _ => by
    obtain ⟨hnodup, hkey, hvalue, hfields⟩ := hv
    have hquotes : 2 ≤ (quoted key).length := by simp [quoted]
    simp only [print, List.length_cons, List.length_append] at hfuel
    obtain ⟨fuel, rfl⟩ : ∃ n, fuel = n+1 := ⟨fuel-1, by omega⟩
    have hscan := scanValue_print v fuel (printFields fields++rest) hvalue (by omega)
      (ends_printFields fields rest)
    have hmember := scanMember_print hkey hvalue hscan
    have hrest := scanFields_print fields (fuel+1) rest hfields (by omega)
    have hskip : ∀ t, skipSpace (quoted key++t) = quoted key++t := fun t =>
      skipSpace_cons (by decide) _
    -- nor a key like the end of the object
    have hopen : ∀ t q, skipSpace (quoted key++t) ≠ '}' :: q := by
      intro t q h
      rw [hskip, quoted, List.cons_append] at h
      exact absurd (List.cons.inj h).1 (by decide)
    have htext : print (.obj ((key, v) :: fields))++rest =
        '{' :: (quoted key++ ':' :: ' ' :: (print v++(printFields fields++rest))) := by
      simp [print]
    rw [htext, scanValue_object (hopen _), hskip, hmember, Option.bind_some, hrest,
      Option.map_some, dictOf_of_nodup hnodup]

theorem scanItems_print : ∀ (items : List Value) (fuel : ℕ) (rest : List Char),
    WellFormedItems items → (printItems items).length ≤ fuel →
    scanItems fuel (printItems items++rest) = some (items, rest)
  | [], 0, _, _, hfuel => absurd hfuel (by decide)
  | [], fuel+1, rest, _, _ => rfl
  | v :: items, 0, _, _, hfuel => absurd hfuel (Nat.not_succ_le_zero _)
  | v :: items, fuel+1, rest, hv, hfuel => by
    simp only [printItems, List.length_cons, List.length_append] at hfuel
    have hitem := scanValue_print v fuel (printItems items++rest) hv.1 (by omega)
      (ends_printItems items rest)
    have hitems := scanItems_print items fuel rest hv.2 (by omega)
    have hspace : skipSpace (' ' :: (print v++(printItems items++rest))) =
        print v++(printItems items++rest) :=
      (skipSpace_space _).trans (skipSpace_print hv.1 _)
    have hcomma : ∀ t, skipSpace (',' :: t) = ',' :: t := skipSpace_cons (by decide)
    rw [printItems, List.cons_append, List.cons_append, List.append_assoc, scanItems]
    simp only [hcomma, hspace, hitem, Option.bind_some, hitems, Option.map_some]

theorem scanFields_print : ∀ (fields : List (Str × Value)) (fuel : ℕ) (rest : List Char),
    WellFormedFields fields → (printFields fields).length ≤ fuel →
    scanFields fuel (printFields fields++rest) = some (fields, rest)
  | [], 0, _, _, hfuel => absurd hfuel (by decide)
  | [], fuel+1, rest, _, _ => rfl
  | (key, v) :: fields, 0, _, _, hfuel => absurd hfuel (Nat.not_succ_le_zero _)
  | (key, v) :: fields, fuel+1, rest, hv, hfuel => by
    obtain ⟨hkey, hvalue, hfields⟩ := hv
    have hquotes : 2 ≤ (quoted key).length := by simp [quoted]
    simp only [printFields, List.length_cons, List.length_append] at hfuel
    obtain ⟨fuel, rfl⟩ : ∃ n, fuel = n+1 := ⟨fuel-1, by omega⟩
    have hscan := scanValue_print v fuel (printFields fields++rest) hvalue (by omega)
      (ends_printFields fields rest)
    have hmember := scanMember_print hkey hvalue hscan
    have hrest := scanFields_print fields (fuel+1) rest hfields (by omega)
    have hspace : ∀ t, skipSpace (' ' :: (quoted key++t)) = quoted key++t := fun t =>
      (skipSpace_space _).trans (skipSpace_cons (by decide) _)
    have hcomma : ∀ t, skipSpace (',' :: t) = ',' :: t := skipSpace_cons (by decide)
    have htext : printFields ((key, v) :: fields)++rest =
        ',' :: ' ' :: (quoted key++ ':' :: ' ' :: (print v++(printFields fields++rest))) := by
      simp [printFields]
    rw [htext, scanFields]
    simp only [hcomma, hspace, hmember, Option.bind_some, hrest, Option.map_some]

end

/-- `json.loads(json.dumps(value)) == value` -/
theorem loads_dumps {v : Value} (h : WellFormed v) : loads (dumps v) = some v := by
  have hskip := skipSpace_print h []
  rw [List.append_nil] at hskip
  have hscan := scanValue_print v ((print v).length+1) [] h (Nat.le_succ _) ends_nil
  rw [List.append_nil] at hscan
  simp only [loads, dumps, String.toList_ofList, hskip, hscan]
  rfl

/-! Texts that `json.dumps` has not written. -/

/-- A numeral starts with a zero only if it is one. -/
theorem toDigits_zero_cons {n : ℕ} {rest : List Char} (h : Nat.toDigits 10 n = '0' :: rest) :
    rest = [] := by
  induction n using Nat.strongRecOn generalizing rest with
  | _ n ih =>
    by_cases hn : n < 10
    · rw [Nat.toDigits_of_lt_base hn] at h
      exact (List.cons.inj h).2.symm
    · have hle : 10 ≤ n := Nat.le_of_not_lt hn
      rw [Nat.toDigits_of_base_le (by decide) hle] at h
      obtain ⟨c, high, hhigh⟩ := List.exists_cons_of_ne_nil (Nat.toDigits_ne_nil (n := n/10) (b := 10))
      rw [hhigh, List.cons_append] at h
      obtain ⟨rfl, -⟩ := List.cons.inj h
      -- a leading zero of `n/10` would make it zero
      have hnil := ih (n/10) (Nat.div_lt_self (by omega) (by decide)) hhigh
      have hzero : Nat.ofDigitChars 10 (Nat.toDigits 10 (n/10)) 0 = 0 := by
        rw [hhigh, hnil]
        rfl
      rw [Nat.ofDigitChars_ten_toDigits] at hzero
      omega

theorem scanNumber_toDigits (n : ℕ) :
    scanNumber (Nat.toDigits 10 n) = some (Nat.toDigits 10 n, []) := by
  have hdigits : ∀ c ∈ Nat.toDigits 10 n, c.isDigit = true := fun c hc =>
    Nat.isDigit_of_mem_toDigits (by decide) (by decide) hc
  have hsign : minusSign (Nat.toDigits 10 n) = [] := by
    unfold minusSign
    split
    · rename_i rest heq
      exact absurd (hdigits '-' (by rw [heq]; exact List.mem_cons_self)) (by decide)
    · rfl
  have hwhole : scanWhole (Nat.toDigits 10 n) = some (Nat.toDigits 10 n, []) := by
    unfold scanWhole
    split
    · rename_i rest heq
      rw [heq, toDigits_zero_cons heq]
    · have htake : (Nat.toDigits 10 n).takeWhile Char.isDigit = Nat.toDigits 10 n :=
        List.takeWhile_eq_self_iff.mpr hdigits
      rw [htake, if_neg Nat.toDigits_ne_nil, List.dropWhile_eq_nil_iff.mpr hdigits]
  rw [scanNumber, hsign]
  simp only [List.length_nil, List.drop_zero, hwhole, Option.map_some, List.nil_append]
  simp [scanFraction, scanExponent]

/-- A member whose key and text are written as they are. -/
theorem scanMember_raw {key text : List Char} (hkey : ∀ c ∈ key, plainChar c = true)
    (htext : ∀ c ∈ text, plainChar c = true) (fuel : ℕ) (rest : List Char) :
    scanMember (fuel+2) ('"' :: (key++ '"' :: ':' :: ' ' :: '"' :: (text++ '"' :: rest))) =
      some ((codePoints key, .str (codePoints text)), rest) := by
  have hcolon : ∀ t, skipSpace (':' :: t) = ':' :: t := skipSpace_cons (by decide)
  have hquote : ∀ t, skipSpace (' ' :: '"' :: t) = '"' :: t := fun t =>
    (skipSpace_space _).trans (skipSpace_cons (by decide) t)
  rw [scanMember, scanString_raw hkey]
  simp only [Option.bind_some, hcolon, hquote]
  rw [scanValue, scanString_raw htext]
  simp only [Option.map_some, joinPairs_codePoints]

theorem scanFields_raw {key text : List Char} (hkey : ∀ c ∈ key, plainChar c = true)
    (htext : ∀ c ∈ text, plainChar c = true) {fuel : ℕ} {rest rest' : List Char}
    {fields : List (Str × Value)} (hrest : scanFields (fuel+2) rest = some (fields, rest')) :
    scanFields (fuel+3)
      (',' :: ' ' :: '"' :: (key++ '"' :: ':' :: ' ' :: '"' :: (text++ '"' :: rest))) =
      some ((codePoints key, .str (codePoints text)) :: fields, rest') := by
  have hcomma : ∀ t, skipSpace (',' :: t) = ',' :: t := skipSpace_cons (by decide)
  have hquote : ∀ t, skipSpace (' ' :: '"' :: t) = '"' :: t := fun t =>
    (skipSpace_space _).trans (skipSpace_cons (by decide) t)
  rw [scanFields]
  simp only [hcomma, hquote]
  rw [scanMember_raw hkey htext, Option.bind_some, hrest, Option.map_some]

/-- An object that is written member by member. -/
theorem loads_object {text : String} {first next : List Char} {member : Str × Value}
    {fields : List (Str × Value)} (htext : text.toList = '{' :: '"' :: first)
    (hlength : 4 ≤ first.length)
    (hmember : ∀ fuel, scanMember (fuel+2) ('"' :: first) = some (member, next))
    (hfields : ∀ fuel, scanFields (fuel+4) next = some (fields, [])) :
    loads text = some (.obj (dictOf (member :: fields))) := by
  have hopen : skipSpace ('{' :: '"' :: first) = '{' :: '"' :: first := skipSpace_cons (by decide) _
  have hquote : skipSpace ('"' :: first) = '"' :: first := skipSpace_cons (by decide) _
  have hclose : ∀ q, skipSpace ('"' :: first) ≠ '}' :: q := by
    intro q h
    rw [hquote] at h
    exact absurd (List.cons.inj h).1 (by decide)
  obtain ⟨n, hn⟩ := Nat.exists_eq_add_of_le' hlength
  have hscan : scanValue (('{' :: '"' :: first).length+1) ('{' :: '"' :: first) =
      some (.obj (dictOf (member :: fields)), []) := by
    simp only [List.length_cons, hn]
    rw [scanValue_object hclose, hquote, hmember (n+4), Option.bind_some, hfields (n+2)]
    rfl
  simp only [loads, htext, hopen, hscan]
  rfl

end LegalForge.JsonText
