import LegalForge.BaseModels

/-! The syslog message format: a header of fields in a fixed order, structured data,
and a free text. Texts are lists of characters. -/
namespace LegalForge.Syslog

structure Element where
  id : List Char
  params : List (List Char × List Char)
  deriving DecidableEq

/-- A missing field is a hyphen. -/
structure Message where
  pri : ℕ
  version : ℕ
  timestamp : List Char
  hostname : List Char
  appName : List Char
  procId : List Char
  msgId : List Char
  structuredData : List Element
  message : List Char
  deriving DecidableEq

def number (digits : List Char) : ℕ :=
  digits.foldl (fun n c => 10*n+(c.toNat- '0'.toNat)) 0

/-- `PRI`: no leading zeros, and at most 191. -/
def readPri : List Char → Option (ℕ × List Char)
  | '<' :: rest =>
    let digits := rest.takeWhile Char.isDigit
    match rest.drop digits.length with
    | '>' :: rest =>
      if digits ≠ [] ∧ digits.length ≤ 3 ∧ (digits.head? = some '0' → digits = ['0']) ∧
          number digits ≤ 191 then
        some (number digits, rest)
      else none
    | _ => none
  | _ => none

/-- `VERSION SP` -/
def readVersion (text : List Char) : Option (ℕ × List Char) :=
  let digits := text.takeWhile Char.isDigit
  match text.drop digits.length with
  | ' ' :: rest =>
    if digits ≠ [] ∧ digits.length ≤ 3 ∧ digits.head? ≠ some '0' then some (number digits, rest)
    else none
  | _ => none

def isPrintable (c : Char) : Bool :=
  33 ≤ c.toNat ∧ c.toNat ≤ 126

/-- A header field of printable characters, and what follows its space. -/
def readField (limit : ℕ) (text : List Char) : Option (List Char × List Char) :=
  let field := text.takeWhile (fun c => c ≠ ' ')
  match text.drop field.length with
  | ' ' :: rest =>
    if field ≠ [] ∧ field.length ≤ limit ∧ field.all isPrintable then some (field, rest) else none
  | _ => none

/-- `TIME-OFFSET` -/
def isOffset : List Char → Bool
  | ['Z'] => true
  | [sign, h, h', ':', m, m'] =>
    (sign = '+' ∨ sign = '-') ∧ [h, h', m, m'].all Char.isDigit ∧ number [h, h'] ≤ 23 ∧
      number [m, m'] ≤ 59
  | _ => false

/-- `[TIME-SECFRAC] TIME-OFFSET` -/
def isFraction : List Char → Bool
  | '.' :: rest =>
    let digits := rest.takeWhile Char.isDigit
    (1 ≤ digits.length ∧ digits.length ≤ 6) ∧ isOffset (rest.drop digits.length)
  | rest => isOffset rest

def isTimestamp : List Char → Bool
  | ['-'] => true
  | y :: y' :: y'' :: y''' :: '-' :: m :: m' :: '-' :: d :: d' :: 'T' :: h :: h' :: ':' :: n :: n' ::
      ':' :: s :: s' :: rest =>
    [y, y', y'', y''', m, m', d, d', h, h', n, n', s, s'].all Char.isDigit ∧
      (1 ≤ number [m, m'] ∧ number [m, m'] ≤ 12) ∧
      (1 ≤ number [d, d'] ∧ number [d, d'] ≤ daysInMonth (number [y, y', y'', y''']) (number [m, m'])) ∧
      number [h, h'] ≤ 23 ∧ number [n, n'] ≤ 59 ∧ number [s, s'] ≤ 59 ∧ isFraction rest
  | _ => false

def isNameChar (c : Char) : Bool :=
  isPrintable c ∧ c ≠ '=' ∧ c ≠ ']' ∧ c ≠ '"'

/-- `SD-NAME` -/
def readName (text : List Char) : Option (List Char × List Char) :=
  let name := text.takeWhile isNameChar
  if name ≠ [] ∧ name.length ≤ 32 then some (name, text.drop name.length) else none

/-- A parameter value up to its closing quote, after a backslash or not. A backslash
before other characters than `"`, `\` and `]` stands for itself. -/
def readValue : Bool → List Char → Option (List Char × List Char)
  | _, [] => none
  | true, c :: rest =>
    (readValue false rest).map fun value =>
      (if c = '"' ∨ c = '\\' ∨ c = ']' then c :: value.1 else '\\' :: c :: value.1, value.2)
  | false, c :: rest =>
    if c = '"' then some ([], rest)
    else if c = ']' then none
    else if c = '\\' then readValue true rest
    else (readValue false rest).map fun value => (c :: value.1, value.2)

/-- The parameters up to the closing bracket. Each takes a character at least. -/
def readParams : ℕ → List Char → Option (List (List Char × List Char) × List Char)
  | 0, _ => none
  | fuel+1, text =>
    match text with
    | ']' :: rest => some ([], rest)
    | ' ' :: rest => do
      let (name, rest) ← readName rest
      match rest with
      | '=' :: '"' :: rest =>
        let (value, rest) ← readValue false rest
        let (params, rest) ← readParams fuel rest
        some ((name, value) :: params, rest)
      | _ => none
    | _ => none

def readElements : ℕ → List Char → Option (List Element × List Char)
  | 0, _ => none
  | fuel+1, text =>
    match text with
    | '[' :: rest => do
      let (id, rest) ← readName rest
      let (params, rest) ← readParams (rest.length+1) rest
      let (elements, rest) ← readElements fuel rest
      some (⟨id, params⟩ :: elements, rest)
    | rest => some ([], rest)

/-- `STRUCTURED-DATA` -/
def readStructuredData : List Char → Option (List Element × List Char)
  | '-' :: rest => some ([], rest)
  | '[' :: rest => readElements (rest.length+2) ('[' :: rest)
  | _ => none

/-- `[SP MSG]` -/
def readMessage : List Char → Option (List Char)
  | [] => some []
  | ' ' :: message => some message
  | _ => none

def parse (line : List Char) : Option Message := do
  let (pri, line) ← readPri line
  let (version, line) ← readVersion line
  let (timestamp, line) ← (readField 32 line).filter (fun field => isTimestamp field.1)
  let (hostname, line) ← readField 255 line
  let (appName, line) ← readField 48 line
  let (procId, line) ← readField 128 line
  let (msgId, line) ← readField 32 line
  let (structuredData, line) ← readStructuredData line
  let message ← readMessage line
  some ⟨pri, version, timestamp, hostname, appName, procId, msgId, structuredData, message⟩

/-- What stands where the timestamp belongs has to be one. -/
theorem timestamp_of_parse {text : List Char} {pri version : ℕ} {rest rest' : List Char}
    {m : Message} (hpri : readPri text = some (pri, rest))
    (hversion : readVersion rest = some (version, rest')) (h : parse text = some m) :
    isTimestamp (rest'.takeWhile (fun c => c ≠ ' ')) = true := by
  simp only [parse, hpri, hversion, Option.bind_eq_bind, Option.bind_some] at h
  obtain ⟨⟨field, after⟩, hfield, -⟩ := Option.bind_eq_some_iff.mp h
  obtain ⟨hread, htimestamp⟩ := Option.filter_eq_some_iff.mp hfield
  have hsame : field = rest'.takeWhile (fun c => c ≠ ' ') := by
    unfold readField at hread
    simp only [] at hread
    split at hread
    · split_ifs at hread
      exact (Prod.mk.inj (Option.some.inj hread)).1.symm
    · cases hread
  exact hsame ▸ htimestamp

/-- A timestamp starts with a digit, or is a hyphen. -/
theorem head_of_isTimestamp {c : Char} {text : List Char} (h : isTimestamp (c :: text) = true) :
    c = '-' ∨ c.isDigit = true := by
  unfold isTimestamp at h
  split at h
  · rename_i heq
    exact .inl (List.cons.inj heq).1
  · rename_i heq
    obtain ⟨rfl, -⟩ := List.cons.inj heq
    have hdigits := (of_decide_eq_true h).1
    exact .inr (List.all_eq_true.mp hdigits _ List.mem_cons_self)
  · cases h

example : (parse
    "<165>1 2003-10-11T22:14:15.003Z host evntslog - ID47 [sd@1 iut=\"3\" src=\"a\\]b\"] text".toList).map
      Message.structuredData =
    some [⟨"sd@1".toList, [("iut".toList, "3".toList), ("src".toList, "a]b".toList)]⟩] := by
  decide +kernel

end LegalForge.Syslog
