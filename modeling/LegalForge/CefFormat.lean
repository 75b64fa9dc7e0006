import Mathlib

/-! The Common Event Format: seven header fields that end at unescaped bars, and
an extension of key=value pairs. Texts are lists of characters. -/
namespace LegalForge.Cef

/-- A header as the fields of one line, and the pairs of the extension in order. -/
structure Record where
  version : List Char
  deviceVendor : List Char
  deviceProduct : List Char
  deviceVersion : List Char
  signatureId : List Char
  name : List Char
  severity : List Char
  extension : List (List Char × List Char)
  deriving DecidableEq

/-! Reading. -/

/-- A header field and what follows its bar, after a backslash or not. -/
def readField : Bool → List Char → Option (List Char × List Char)
  | _, [] => none
  | true, c :: rest =>
    if c = '|' ∨ c = '\\' then (readField false rest).map (fun field => (c :: field.1, field.2))
    else none
  | false, c :: rest =>
    if c = '|' then some ([], rest)
    else if c = '\\' then readField true rest
    else (readField false rest).map (fun field => (c :: field.1, field.2))

inductive Token where
  | char (c : Char)
  | equals
  deriving DecidableEq

/-- The character that a backslash and `c` stand for in the extension. -/
def unescape (c : Char) : Option Char :=
  if c = '=' ∨ c = '\\' then some c
  else if c = 'n' then some '\n'
  else if c = 'r' then some '\r'
  else none

/-- The characters and equals signs of an extension, after a backslash or not. -/
def tokens : Bool → List Char → Option (List Token)
  | false, [] => some []
  | true, [] => none
  | true, c :: rest =>
    match unescape c with
    | none => none
    | some d => (tokens false rest).map (fun ts => .char d :: ts)
  | false, c :: rest =>
    if c = '=' then (tokens false rest).map (fun ts => .equals :: ts)
    else if c = '\\' then tokens true rest
    else (tokens false rest).map (fun ts => .char c :: ts)

/-- The texts between the unescaped equals signs. -/
def chunks : List Token → List (List Char)
  | [] => [[]]
  | .equals :: ts => [] :: chunks ts
  | .char c :: ts =>
    match chunks ts with
    | [] => [[c]]
    | chunk :: rest => (c :: chunk) :: rest

/-- The value before the last space, and the key after it. -/
def splitLast : List Char → Option (List Char × List Char)
  | [] => none
  | c :: rest =>
    match splitLast rest with
    | some (value, key) => some (c :: value, key)
    | none => if c = ' ' then some ([], rest) else none

/-- Pair a key with the value that starts the next chunk. -/
def pairUp : List Char → List (List Char) → Option (List (List Char × List Char))
  | _, [] => none
  | key, chunk :: rest =>
    match rest with
    | [] => some [(key, chunk)]
    | _ :: _ =>
      match splitLast chunk with
      | none => none
      | some (value, next) => (pairUp next rest).map (fun pairs => (key, value) :: pairs)

def isKey (key : List Char) : Bool :=
  !key.isEmpty && key.all Char.isAlphanum

def readExtension (text : List Char) : Option (List (List Char × List Char)) :=
  if text = [] then some []
  else
    match tokens false text with
    | none => none
    | some ts =>
      match chunks ts with
      | [] => none
      | key :: rest => (pairUp key rest).filter (fun pairs => pairs.all (fun p => isKey p.1))

def parse (line : List Char) : Option Record := do
  let (version, line) ← readField false line
  let (deviceVendor, line) ← readField false line
  let (deviceProduct, line) ← readField false line
  let (deviceVersion, line) ← readField false line
  let (signatureId, line) ← readField false line
  let (name, line) ← readField false line
  let (severity, line) ← readField false line
  let extension ← readExtension line
  some ⟨version, deviceVendor, deviceProduct, deviceVersion, signatureId, name, severity, extension⟩

/-! Writing without escapes, and when that can be read back. -/

def printExtension : List (List Char × List Char) → List Char
  | [] => []
  | (key, value) :: rest =>
    match rest with
    | [] => key++ '=' :: value
    | _ :: _ => key++ '=' :: (value++ ' ' :: printExtension rest)

def print (r : Record) : List Char :=
  r.version++ '|' :: (r.deviceVendor++ '|' :: (r.deviceProduct++ '|' :: (r.deviceVersion++
    '|' :: (r.signatureId++ '|' :: (r.name++ '|' :: (r.severity++
      '|' :: printExtension r.extension))))))

theorem printExtension_cons_cons (p q : List Char × List Char)
    (pairs : List (List Char × List Char)) :
    printExtension (p :: q :: pairs) = p.1++ '=' :: (p.2++ ' ' :: printExtension (q :: pairs)) :=
  rfl

/-- A header field that needs no escapes. -/
def PlainField (text : List Char) : Prop :=
  '|' ∉ text ∧ '\\' ∉ text

/-- A value that needs no escapes but for its line breaks. -/
def PlainValue (text : List Char) : Prop :=
  '=' ∉ text ∧ '\\' ∉ text

theorem plainField_cons {c : Char} {text : List Char} :
    PlainField (c :: text) ↔ (c ≠ '|' ∧ c ≠ '\\') ∧ PlainField text := by
  simp only [PlainField, List.mem_cons, not_or, ne_comm]
  exact and_and_and_comm

theorem readField_of_plain {text : List Char} (h : PlainField text) (rest : List Char) :
    readField false (text++ '|' :: rest) = some (text, rest) := by
  induction text with
  | nil => rfl
  | cons c text ih =>
    obtain ⟨⟨hbar, hslash⟩, htext⟩ := plainField_cons.mp h
    rw [List.cons_append, readField, if_neg hbar, if_neg hslash, ih htext]
    rfl

theorem replicate_append_cons {α : Type} (k : ℕ) (x : α) (l : List α) :
    List.replicate k x++x :: l = List.replicate (k+1) x++l := by
  rw [List.replicate_succ', List.append_assoc, List.singleton_append]

/-- A field that is read back shorter by a backslash never makes up for it: with `k`
backslashes to make up for, nothing was escaped and `k` is zero. -/
theorem plain_of_readField {escaped : Bool} {text rest rest' : List Char} {k : ℕ}
    (h : readField escaped (text++ '|' :: rest) =
      some (List.replicate (k+escaped.toNat) '\\'++text, rest')) :
    escaped = false ∧ k = 0 ∧ PlainField text := by
  induction text generalizing escaped k with
  | nil =>
    cases escaped with
    | false =>
      have hfield := congrArg List.length (Prod.mk.inj (Option.some.inj h)).1
      simp only [List.length_nil, List.append_nil, List.length_replicate, Bool.toNat_false] at hfield
      exact ⟨rfl, by omega, by simp [PlainField]⟩
    | true =>
      obtain ⟨field, -, hfield⟩ := Option.map_eq_some_iff.mp h
      have hhead := (List.cons.inj (Prod.mk.inj hfield).1).1
      cases hhead
  | cons c text ih =>
    cases escaped with
    | true =>
      -- the escaped character is a backslash, and then one more is missing
      rw [List.cons_append, readField] at h
      split_ifs at h with hc
      obtain ⟨⟨field, last⟩, hrest, hpair⟩ := Option.map_eq_some_iff.mp h
      obtain ⟨hfield, rfl⟩ := Prod.mk.inj hpair
      obtain ⟨rfl, htail⟩ := List.cons.inj hfield
      have hread : readField false (text++ '|' :: rest) =
          some (List.replicate (k+1+false.toNat) '\\'++text, last) := by
        rw [hrest, Bool.toNat_false, Nat.add_zero, ← replicate_append_cons]
        exact congrArg (fun field => some (field, last)) htail
      obtain ⟨-, hk, -⟩ := ih hread
      omega
    | false =>
      rw [List.cons_append, readField] at h
      split_ifs at h with hbar hslash
      · have hlen := congrArg List.length (Prod.mk.inj (Option.some.inj h)).1
        simp at hlen
      · subst hslash
        rw [replicate_append_cons] at h
        obtain ⟨hfalse, -⟩ := ih h
        cases hfalse
      · obtain ⟨⟨field, last⟩, hrest, hpair⟩ := Option.map_eq_some_iff.mp h
        obtain ⟨hfield, rfl⟩ := Prod.mk.inj hpair
        cases k with
        | zero =>
          obtain ⟨-, htail⟩ := List.cons.inj hfield
          have hread : readField false (text++ '|' :: rest) =
              some (List.replicate (0+false.toNat) '\\'++text, last) := by
            rw [hrest]
            exact congrArg (fun field => some (field, last)) htail
          obtain ⟨-, -, htext⟩ := ih hread
          exact ⟨rfl, rfl, plainField_cons.mpr ⟨⟨hbar, hslash⟩, htext⟩⟩
        | succ k => exact absurd (List.cons.inj hfield).1 hslash

/-- A field is read as it was written exactly when it needs no escapes. -/
theorem readField_iff {text rest rest' : List Char} :
    readField false (text++ '|' :: rest) = some (text, rest') ↔
      PlainField text ∧ rest' = rest := by
  constructor
  · intro h
    have hplain : PlainField text := (plain_of_readField (k := 0) h).2.2
    refine ⟨hplain, ?_⟩
    rw [readField_of_plain hplain] at h
    exact (Prod.mk.inj (Option.some.inj h)).2.symm
  · rintro ⟨hplain, rfl⟩
    exact readField_of_plain hplain rest'

theorem plainValue_cons {c : Char} {text : List Char} :
    PlainValue (c :: text) ↔ (c ≠ '=' ∧ c ≠ '\\') ∧ PlainValue text := by
  simp only [PlainValue, List.mem_cons, not_or, ne_comm]
  exact and_and_and_comm

theorem tokens_plain_append {text : List Char} (h : PlainValue text) (rest : List Char) :
    tokens false (text++rest) = (tokens false rest).map (fun ts => text.map .char++ts) := by
  induction text with
  | nil => simp
  | cons c text ih =>
    obtain ⟨⟨hequals, hslash⟩, htext⟩ := plainValue_cons.mp h
    rw [List.cons_append, tokens, if_neg hequals, if_neg hslash, ih htext, Option.map_map]
    rfl

/-- The space after a value cannot be escaped, so that a value is read for itself. -/
theorem tokens_value_append {escaped : Bool} {value rest : List Char} {ts : List Token} :
    tokens escaped (value++ ' ' :: rest) = some ts ↔
      ∃ tv tr, tokens escaped value = some tv ∧ tokens false rest = some tr ∧
        ts = tv++.char ' ' :: tr := by
  induction value generalizing escaped ts with
  | nil =>
    cases escaped with
    | true => simp [tokens, unescape]
    | false =>
      have hspace : tokens false (' ' :: rest) =
          (tokens false rest).map (fun ts => .char ' ' :: ts) := rfl
      rw [List.nil_append, hspace, Option.map_eq_some_iff]
      constructor
      · rintro ⟨tr, hrest, rfl⟩
        exact ⟨[], tr, rfl, hrest, rfl⟩
      · rintro ⟨tv, tr, hvalue, hrest, rfl⟩
        obtain rfl := Option.some.inj hvalue
        exact ⟨tr, hrest, rfl⟩
  | cons c value ih =>
    -- a token goes in front on both sides
    have hmap (t : Token) (e : Bool) : (tokens e (value++ ' ' :: rest)).map (fun ts => t :: ts) =
        some ts ↔ ∃ tv tr, (tokens e value).map (fun ts => t :: ts) = some tv ∧
          tokens false rest = some tr ∧ ts = tv++.char ' ' :: tr := by
      simp only [Option.map_eq_some_iff, ih]
      constructor
      · rintro ⟨_, ⟨tv, tr, hvalue, hrest, rfl⟩, rfl⟩
        exact ⟨t :: tv, tr, ⟨tv, hvalue, rfl⟩, hrest, rfl⟩
      · rintro ⟨_, tr, ⟨tv, hvalue, rfl⟩, hrest, rfl⟩
        exact ⟨tv++.char ' ' :: tr, ⟨tv, tr, hvalue, hrest, rfl⟩, rfl⟩
    cases escaped with
    | true =>
      simp only [List.cons_append, tokens]
      cases unescape c with
      | none => simp
      | some d => exact hmap (.char d) false
    | false =>
      simp only [List.cons_append, tokens]
      split_ifs
      · exact hmap .equals false
      · exact ih
      · exact hmap (.char c) false

/-- The tokens of the pairs of an extension. -/
def assemble : List (List Char × List Token) → List Token
  | [] => []
  | (key, value) :: rest =>
    match rest with
    | [] => key.map .char++.equals :: value
    | _ :: _ => key.map .char++.equals :: (value++.char ' ' :: assemble rest)

theorem tokens_pair {key : List Char} (hkey : PlainValue key) (rest : List Char) :
    tokens false (key++ '=' :: rest) =
      (tokens false rest).map (fun ts => key.map .char++.equals :: ts) := by
  rw [tokens_plain_append hkey, tokens, if_pos rfl, Option.map_map]
  rfl

/-- Every value is read for itself. -/
theorem tokens_printExtension {pairs : List (List Char × List Char)} {ts : List Token}
    (hkeys : ∀ p ∈ pairs, PlainValue p.1) (h : tokens false (printExtension pairs) = some ts) :
    ∃ qs, List.Forall₂ (fun p q => q.1 = p.1 ∧ tokens false p.2 = some q.2) pairs qs ∧
      ts = assemble qs := by
  induction pairs generalizing ts with
  | nil => exact ⟨[], .nil, (Option.some.inj h).symm⟩
  | cons p pairs ih =>
    obtain ⟨key, value⟩ := p
    obtain ⟨hkey, hkeys⟩ := List.forall_mem_cons.mp hkeys
    cases pairs with
    | nil =>
      rw [printExtension, tokens_pair hkey] at h
      obtain ⟨tv, hvalue, rfl⟩ := Option.map_eq_some_iff.mp h
      exact ⟨[(key, tv)], .cons ⟨rfl, hvalue⟩ .nil, rfl⟩
    | cons q pairs =>
      rw [printExtension, tokens_pair hkey] at h
      obtain ⟨tail, htail, rfl⟩ := Option.map_eq_some_iff.mp h
      obtain ⟨tv, tr, hvalue, hrest, rfl⟩ := tokens_value_append.mp htail
      obtain ⟨qs, hqs, rfl⟩ := ih hkeys hrest
      cases hqs with
      | cons hq hqs => exact ⟨_, .cons (b := (key, tv)) ⟨rfl, hvalue⟩ (.cons hq hqs), rfl⟩

theorem tokens_length_le {escaped : Bool} {text : List Char} {ts : List Token}
    (h : tokens escaped text = some ts) : ts.length ≤ text.length := by
  induction text generalizing escaped ts with
  | nil =>
    cases escaped with
    | true => cases h
    | false => simp [← Option.some.inj h]
  | cons c text ih =>
    have hmap (t : Token) (hcons : (tokens false text).map (fun ts => t :: ts) = some ts) :
        ts.length ≤ (c :: text).length := by
      obtain ⟨tail, htail, rfl⟩ := Option.map_eq_some_iff.mp hcons
      exact Nat.succ_le_succ (ih htail)
    cases escaped with
    | true =>
      simp only [tokens] at h
      split at h
      · cases h
      · exact hmap _ h
    | false =>
      simp only [tokens] at h
      split_ifs at h
      · exact hmap _ h
      · exact Nat.le_succ_of_le (ih h)
      · exact hmap _ h

/-- A value that reads as itself has no escapes and no equals signs. -/
theorem plainValue_of_tokens {text : List Char} (h : tokens false text = some (text.map .char)) :
    PlainValue text := by
  induction text with
  | nil => simp [PlainValue]
  | cons c text ih =>
    simp only [tokens, List.map_cons] at h
    split_ifs at h with hequals hslash
    · obtain ⟨tail, -, htail⟩ := Option.map_eq_some_iff.mp h
      cases (List.cons.inj htail).1
    · have hlen := tokens_length_le h
      simp only [List.length_cons, List.length_map] at hlen
      omega
    · obtain ⟨tail, htokens, htail⟩ := Option.map_eq_some_iff.mp h
      obtain ⟨-, rfl⟩ := List.cons.inj htail
      exact plainValue_cons.mpr ⟨⟨hequals, hslash⟩, ih htokens⟩

/-- The number of equals signs among tokens. -/
def equalsCount (ts : List Token) : ℕ :=
  ts.count .equals

@[simp] theorem equalsCount_chars (text : List Char) : equalsCount (text.map .char) = 0 := by
  simp [equalsCount, List.count_eq_zero]

@[simp] theorem equalsCount_append (ts us : List Token) :
    equalsCount (ts++us) = equalsCount ts+equalsCount us :=
  List.count_append

@[simp] theorem equalsCount_equals (ts : List Token) :
    equalsCount (.equals :: ts) = equalsCount ts+1 :=
  List.count_cons_self

@[simp] theorem equalsCount_char (c : Char) (ts : List Token) :
    equalsCount (.char c :: ts) = equalsCount ts :=
  List.count_cons_of_ne (by simp)

theorem length_chunks (ts : List Token) : (chunks ts).length = equalsCount ts+1 := by
  induction ts with
  | nil => rfl
  | cons t ts ih =>
    cases t with
    | equals => rw [chunks, List.length_cons, ih, equalsCount_equals]
    | char c =>
      rw [chunks, equalsCount_char, ← ih]
      cases hchunks : chunks ts with
      | nil =>
        rw [hchunks] at ih
        cases ih
      | cons chunk rest => rfl

theorem equalsCount_assemble (qs : List (List Char × List Token)) :
    equalsCount (assemble qs) = qs.length+(qs.map (fun q => equalsCount q.2)).sum := by
  induction qs with
  | nil => rfl
  | cons q qs ih =>
    obtain ⟨key, value⟩ := q
    cases qs with
    | nil =>
      simp only [assemble, equalsCount_append, equalsCount_chars, equalsCount_equals,
        List.length_cons, List.length_nil, List.map_cons, List.map_nil, List.sum_cons, List.sum_nil]
      omega
    | cons q qs =>
      simp only [assemble, equalsCount_append, equalsCount_chars, equalsCount_equals,
        equalsCount_char] at ih ⊢
      rw [ih]
      simp only [List.length_cons, List.map_cons, List.sum_cons]
      omega

theorem length_pairUp {key : List Char} {rest : List (List Char)}
    {pairs : List (List Char × List Char)} (h : pairUp key rest = some pairs) :
    pairs.length = rest.length := by
  induction rest generalizing key pairs with
  | nil => cases h
  | cons chunk rest ih =>
    cases rest with
    | nil => simp [← Option.some.inj h]
    | cons next rest =>
      simp only [pairUp] at h
      split at h
      · cases h
      · obtain ⟨tail, htail, rfl⟩ := Option.map_eq_some_iff.mp h
        rw [List.length_cons, ih htail]
        rfl

theorem splitLast_of_not_mem {text : List Char} (h : ' ' ∉ text) : splitLast text = none := by
  induction text with
  | nil => rfl
  | cons c text ih =>
    obtain ⟨hc, htext⟩ := not_or.mp (fun hmem => h (List.mem_cons.mpr hmem))
    rw [splitLast, ih htext]
    exact if_neg (Ne.symm hc)

theorem splitLast_append {key : List Char} (hkey : ' ' ∉ key) (value : List Char) :
    splitLast (value++ ' ' :: key) = some (value, key) := by
  induction value with
  | nil =>
    rw [List.nil_append, splitLast, splitLast_of_not_mem hkey]
    rfl
  | cons c value ih =>
    rw [List.cons_append, splitLast, ih]

theorem chunks_chars_append (text : List Char) {chunk : List Char} {ts : List Token}
    {rest : List (List Char)} (h : chunks ts = chunk :: rest) :
    chunks (text.map .char++ts) = (text++chunk) :: rest := by
  induction text with
  | nil => exact h
  | cons c text ih =>
    rw [List.map_cons, List.cons_append, chunks, ih]
    rfl

/-- Pairs whose values are read as characters alone. -/
def charTokens (pairs : List (List Char × List Char)) : List (List Char × List Token) :=
  pairs.map (fun p => (p.1, p.2.map .char))

/-- Keys and values without equals signs come apart at the spaces before the keys. -/
theorem pairUp_chunks {p : List Char × List Char} {pairs : List (List Char × List Char)}
    (hkeys : ∀ q ∈ p :: pairs, ' ' ∉ q.1) :
    ∃ rest, chunks (assemble (charTokens (p :: pairs))) = p.1 :: rest ∧
      pairUp p.1 rest = some (p :: pairs) := by
  induction pairs generalizing p with
  | nil =>
    refine ⟨[p.2], ?_, rfl⟩
    have hvalue : chunks (p.2.map .char) = [p.2] := by
      have hnil := chunks_chars_append p.2 (rfl : chunks [] = [[]])
      rwa [List.append_nil, List.append_nil] at hnil
    have hequals : chunks (.equals :: p.2.map .char) = [] :: [p.2] := by rw [chunks, hvalue]
    have hkey := chunks_chars_append p.1 hequals
    rwa [List.append_nil] at hkey
  | cons q pairs ih =>
    obtain ⟨hp, hrest⟩ := List.forall_mem_cons.mp hkeys
    obtain ⟨rest, hchunks, hpairs⟩ := ih hrest
    have hspace : chunks (.char ' ' :: assemble (charTokens (q :: pairs))) =
        (' ' :: q.1) :: rest := by
      rw [chunks, hchunks]
    have hequals : chunks (.equals :: (p.2.map .char++.char ' ' ::
        assemble (charTokens (q :: pairs)))) = [] :: (p.2++ ' ' :: q.1) :: rest := by
      rw [chunks, chunks_chars_append p.2 hspace]
    have hkey := chunks_chars_append p.1 hequals
    rw [List.append_nil] at hkey
    refine ⟨(p.2++ ' ' :: q.1) :: rest, hkey, ?_⟩
    cases rest with
    | nil => cases hpairs
    | cons next rest =>
      rw [pairUp, splitLast_append (hrest q List.mem_cons_self)]
      exact congrArg (Option.map fun pairs => p :: pairs) hpairs

theorem exists_of_equalsCount_eq_zero {ts : List Token} (h : equalsCount ts = 0) :
    ∃ text : List Char, ts = text.map .char := by
  induction ts with
  | nil => exact ⟨[], rfl⟩
  | cons t ts ih =>
    cases t with
    | equals =>
      rw [equalsCount_equals] at h
      omega
    | char c =>
      obtain ⟨text, rfl⟩ := ih (by rwa [equalsCount_char] at h)
      exact ⟨c :: text, rfl⟩

theorem exists_charTokens {qs : List (List Char × List Token)}
    (h : ∀ q ∈ qs, equalsCount q.2 = 0) : ∃ pairs, qs = charTokens pairs := by
  induction qs with
  | nil => exact ⟨[], rfl⟩
  | cons q qs ih =>
    obtain ⟨hq, hqs⟩ := List.forall_mem_cons.mp h
    obtain ⟨text, htext⟩ := exists_of_equalsCount_eq_zero hq
    obtain ⟨pairs, rfl⟩ := ih hqs
    have hq : q = (q.1, text.map .char) := Prod.ext rfl htext
    exact ⟨(q.1, text) :: pairs, congrArg (fun x => x :: charTokens pairs) hq⟩

theorem plainValue_of_isKey {key : List Char} (h : isKey key = true) :
    PlainValue key ∧ ' ' ∉ key := by
  have hall : ∀ c ∈ key, c.isAlphanum = true := by
    simpa using (Bool.and_eq_true_iff.mp h).2
  exact ⟨⟨fun hmem => absurd (hall _ hmem) (by decide), fun hmem => absurd (hall _ hmem) (by decide)⟩,
    fun hmem => absurd (hall _ hmem) (by decide)⟩

theorem printExtension_ne_nil (p : List Char × List Char) (pairs : List (List Char × List Char)) :
    printExtension (p :: pairs) ≠ [] := by
  cases pairs with
  | nil => simp [printExtension]
  | cons q pairs => simp [printExtension]

theorem tokens_of_plain {pairs : List (List Char × List Char)}
    (hkeys : ∀ p ∈ pairs, PlainValue p.1) (h : ∀ p ∈ pairs, PlainValue p.2) :
    tokens false (printExtension pairs) = some (assemble (charTokens pairs)) := by
  induction pairs with
  | nil => rfl
  | cons p pairs ih =>
    obtain ⟨hkey, hkeys⟩ := List.forall_mem_cons.mp hkeys
    obtain ⟨hvalue, hvalues⟩ := List.forall_mem_cons.mp h
    cases pairs with
    | nil =>
      have hend : tokens false p.2 = some (p.2.map .char) := by
        have hnil := tokens_plain_append hvalue []
        rwa [List.append_nil, tokens, Option.map_some, List.append_nil] at hnil
      rw [printExtension, tokens_pair hkey, hend]
      rfl
    | cons q pairs =>
      have hspace : tokens false (' ' :: printExtension (q :: pairs)) =
          some (.char ' ' :: assemble (charTokens (q :: pairs))) := by
        have hrest := ih hkeys hvalues
        rw [tokens, if_neg (by decide), if_neg (by decide), hrest]
        rfl
      rw [printExtension, tokens_pair hkey, tokens_plain_append hvalue, hspace]
      rfl

theorem forall_right_of_forall₂ {α β : Type} {R : α → β → Prop} {P : α → Prop} {Q : β → Prop}
    {l : List α} {m : List β} (h : List.Forall₂ R l m) (hP : ∀ a ∈ l, P a)
    (hQ : ∀ a b, R a b → P a → Q b) : ∀ b ∈ m, Q b := by
  induction h with
  | nil => simp
  | cons hab _ ih =>
    obtain ⟨ha, hl⟩ := List.forall_mem_cons.mp hP
    exact List.forall_mem_cons.mpr ⟨hQ _ _ hab ha, ih hl⟩

/-- An extension is read as it was written exactly when its values need no escapes. -/
theorem readExtension_iff {pairs : List (List Char × List Char)}
    (hkeys : ∀ p ∈ pairs, isKey p.1 = true) :
    readExtension (printExtension pairs) = some pairs ↔ ∀ p ∈ pairs, PlainValue p.2 := by
  cases pairs with
  | nil => simp [readExtension, printExtension]
  | cons p pairs =>
    have hplain : ∀ q ∈ p :: pairs, PlainValue q.1 :=
      fun q hq => (plainValue_of_isKey (hkeys q hq)).1
    have hspace : ∀ q ∈ p :: pairs, ' ' ∉ q.1 := fun q hq => (plainValue_of_isKey (hkeys q hq)).2
    rw [readExtension, if_neg (printExtension_ne_nil p pairs)]
    constructor
    · intro h
      split at h
      · cases h
      · rename_i ts htokens
        obtain ⟨qs, hqs, rfl⟩ := tokens_printExtension hplain htokens
        split at h
        · cases h
        · rename_i key rest hchunks
          obtain ⟨hpairs, -⟩ := Option.filter_eq_some_iff.mp h
          -- as many equals signs as pairs: there are none in the values
          have hcount := length_chunks (assemble qs)
          rw [hchunks, List.length_cons, ← length_pairUp hpairs, equalsCount_assemble,
            hqs.length_eq] at hcount
          have hzero : ∀ q ∈ qs, equalsCount q.2 = 0 := by
            have hsum : (qs.map (fun q => equalsCount q.2)).sum = 0 := by omega
            intro q hq
            exact List.sum_eq_zero_iff_forall_eq_nat.mp hsum _ (List.mem_map_of_mem hq)
          obtain ⟨read, rfl⟩ := exists_charTokens hzero
          have hread : ∀ q ∈ charTokens read, ' ' ∉ q.1 :=
            forall_right_of_forall₂ hqs hspace fun _ _ hpq hp => hpq.1 ▸ hp
          cases read with
          | nil => cases hqs
          | cons r read =>
            have hkeys' : ∀ q ∈ r :: read, ' ' ∉ q.1 :=
              fun q hq => hread (q.1, q.2.map .char) (List.mem_map_of_mem hq)
            obtain ⟨rest', hchunks', hpairs'⟩ := pairUp_chunks hkeys'
            obtain ⟨rfl, rfl⟩ := List.cons.inj (hchunks.symm.trans hchunks')
            rw [Option.some.inj (hpairs'.symm.trans hpairs)] at hqs
            have hself := List.forall₂_same.mp (List.forall₂_map_right_iff.mp hqs)
            exact fun q hq => plainValue_of_tokens (hself q hq).2
    · intro h
      obtain ⟨rest, hchunks, hpairs⟩ := pairUp_chunks hspace
      rw [tokens_of_plain hplain h]
      simp only [hchunks, hpairs, Option.filter_some]
      exact if_pos (List.all_eq_true.mpr hkeys)

/-- No part of the record needs an escape. -/
structure Record.Plain (r : Record) : Prop where
  version : PlainField r.version
  deviceVendor : PlainField r.deviceVendor
  deviceProduct : PlainField r.deviceProduct
  deviceVersion : PlainField r.deviceVersion
  signatureId : PlainField r.signatureId
  name : PlainField r.name
  severity : PlainField r.severity
  extension : ∀ p ∈ r.extension, PlainValue p.2

/-- A record printed without escapes is read back exactly when it needs none. -/
theorem parse_print_iff {r : Record} (hkeys : ∀ p ∈ r.extension, isKey p.1 = true) :
    parse (print r) = some r ↔ r.Plain := by
  constructor
  · intro h
    obtain ⟨⟨version, l₁⟩, h₁, h⟩ := Option.bind_eq_some_iff.mp h
    obtain ⟨⟨vendor, l₂⟩, h₂, h⟩ := Option.bind_eq_some_iff.mp h
    obtain ⟨⟨product, l₃⟩, h₃, h⟩ := Option.bind_eq_some_iff.mp h
    obtain ⟨⟨device, l₄⟩, h₄, h⟩ := Option.bind_eq_some_iff.mp h
    obtain ⟨⟨signature, l₅⟩, h₅, h⟩ := Option.bind_eq_some_iff.mp h
    obtain ⟨⟨name, l₆⟩, h₆, h⟩ := Option.bind_eq_some_iff.mp h
    obtain ⟨⟨severity, l₇⟩, h₇, h⟩ := Option.bind_eq_some_iff.mp h
    obtain ⟨extension, h₈, h⟩ := Option.bind_eq_some_iff.mp h
    obtain rfl := Option.some.inj h
    obtain ⟨hversion, rfl⟩ := readField_iff.mp h₁
    obtain ⟨hvendor, rfl⟩ := readField_iff.mp h₂
    obtain ⟨hproduct, rfl⟩ := readField_iff.mp h₃
    obtain ⟨hdevice, rfl⟩ := readField_iff.mp h₄
    obtain ⟨hsignature, rfl⟩ := readField_iff.mp h₅
    obtain ⟨hname, rfl⟩ := readField_iff.mp h₆
    obtain ⟨hseverity, rfl⟩ := readField_iff.mp h₇
    exact ⟨hversion, hvendor, hproduct, hdevice, hsignature, hname, hseverity,
      (readExtension_iff hkeys).mp h₈⟩
  · intro h
    simp only [parse, print, readField_of_plain h.version, readField_of_plain h.deviceVendor,
      readField_of_plain h.deviceProduct, readField_of_plain h.deviceVersion,
      readField_of_plain h.signatureId, readField_of_plain h.name, readField_of_plain h.severity,
      (readExtension_iff hkeys).mpr h.extension, Option.bind_eq_bind, Option.bind_some]

end LegalForge.Cef
