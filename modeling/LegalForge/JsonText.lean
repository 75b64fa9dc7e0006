import LegalForge.PrefixCode

/-! JSON as Python's `json` module writes and reads it. Nesting and the length of
numbers are not limited. -/
namespace LegalForge.JsonText
open Encoding

/-- A Python string by its code points. Unlike a Lean string it may hold surrogates. -/
abbrev Str := List ℕ

def codePoints (text : List Char) : Str :=
  text.map Char.toNat

inductive Value where
  | null
  | bool (b : Bool)
  /-- A number by its text. `NaN` and the infinities are among them. -/
  | num (text : List Char)
  | str (s : Str)
  | arr (items : List Value)
  /-- A dictionary in its order. -/
  | obj (fields : List (Str × Value))

/-! Writing. -/

/-- `\uXXXX` -/
def unicodeEscape (n : ℕ) : List Char :=
  '\\' :: 'u' :: padded 16 4 n

def highSurrogate (n : ℕ) : ℕ := 0xd800+(n-0x10000)/0x400

def lowSurrogate (n : ℕ) : ℕ := 0xdc00+(n-0x10000)%0x400

/-- One code point inside a string, with `ensure_ascii`. -/
def escaped (n : ℕ) : List Char :=
  if n = 34 then ['\\', '"']
  else if n = 92 then ['\\', '\\']
  else if n = 10 then ['\\', 'n']
  else if n = 13 then ['\\', 'r']
  else if n = 9 then ['\\', 't']
  else if n = 12 then ['\\', 'f']
  else if n = 8 then ['\\', 'b']
  else if 32 ≤ n ∧ n ≤ 126 then [Char.ofNat n]
  else if n < 0x10000 then unicodeEscape n
  else unicodeEscape (highSurrogate n)++unicodeEscape (lowSurrogate n)

def quoted (s : Str) : List Char :=
  '"' :: (s.flatMap escaped++['"'])

mutual

def print : Value → List Char
  | .null => ['n', 'u', 'l', 'l']
  | .bool true => ['t', 'r', 'u', 'e']
  | .bool false => ['f', 'a', 'l', 's', 'e']
  | .num text => text
  | .str s => quoted s
  | .arr [] => ['[', ']']
  | .arr (v :: items) => '[' :: (print v++printItems items)
  | .obj [] => ['{', '}']
  | .obj ((key, v) :: fields) => '{' :: (quoted key++ ':' :: ' ' :: (print v++printFields fields))

/-- What follows an item of an array. -/
def printItems : List Value → List Char
  | [] => [']']
  | v :: items => ',' :: ' ' :: (print v++printItems items)

/-- What follows a member of an object. -/
def printFields : List (Str × Value) → List Char
  | [] => ['}']
  | (key, v) :: fields =>
    ',' :: ' ' :: (quoted key++ ':' :: ' ' :: (print v++printFields fields))

end

/-- `json.dumps(value)` -/
def dumps (v : Value) : String :=
  String.ofList (print v)

/-! Reading. -/

def isSpace (c : Char) : Bool :=
  c = ' ' ∨ c = '\t' ∨ c = '\n' ∨ c = '\r'

def skipSpace (text : List Char) : List Char :=
  text.dropWhile isSpace

def hexDigit (c : Char) : Option ℕ :=
  let n := c.toNat
  if 48 ≤ n ∧ n ≤ 57 then some (n-48)
  else if 97 ≤ n ∧ n ≤ 102 then some (n-87)
  else if 65 ≤ n ∧ n ≤ 70 then some (n-55)
  else none

def hexNumeral (digits : List Char) : Option ℕ :=
  digits.foldlM (fun n c => (hexDigit c).map fun d => n*16+d) 0

def simpleEscape (c : Char) : Option ℕ :=
  if c = '"' then some 34
  else if c = '\\' then some 92
  else if c = '/' then some 47
  else if c = 'b' then some 8
  else if c = 'f' then some 12
  else if c = 'n' then some 10
  else if c = 'r' then some 13
  else if c = 't' then some 9
  else none

/-- The rest of a string after its opening quote. Control characters are refused. -/
def scanString : List Char → Option (List ℕ × List Char)
  | [] => none
  | '"' :: rest => some ([], rest)
  | '\\' :: 'u' :: a :: b :: c :: d :: rest =>
    (hexNumeral [a, b, c, d]).bind fun n => (scanString rest).map fun out => (n :: out.1, out.2)
  | '\\' :: c :: rest =>
    (simpleEscape c).bind fun n => (scanString rest).map fun out => (n :: out.1, out.2)
  | c :: rest =>
    if c.toNat < 32 then none else (scanString rest).map fun out => (c.toNat :: out.1, out.2)

def isHigh (n : ℕ) : Bool := 0xd800 ≤ n ∧ n < 0xdc00

def isLow (n : ℕ) : Bool := 0xdc00 ≤ n ∧ n < 0xe000

/-- Two escapes that form a surrogate pair stand for one code point. -/
def joinPairs : List ℕ → Str
  | [] => []
  | [n] => [n]
  | n :: m :: rest =>
    if isHigh n && isLow m then (0x10000+(n-0xd800)*0x400+(m-0xdc00)) :: joinPairs rest
    else n :: joinPairs (m :: rest)

def scanWhole (text : List Char) : Option (List Char × List Char) :=
  match text with
  | '0' :: rest => some (['0'], rest)
  | _ =>
    if text.takeWhile Char.isDigit = [] then none
    else some (text.takeWhile Char.isDigit, text.dropWhile Char.isDigit)

def scanFraction (text : List Char) : List Char × List Char :=
  match text with
  | '.' :: rest =>
    if rest.takeWhile Char.isDigit = [] then ([], text)
    else ('.' :: rest.takeWhile Char.isDigit, rest.dropWhile Char.isDigit)
  | _ => ([], text)

def exponentSign (text : List Char) : List Char :=
  match text with
  | '+' :: _ => ['+']
  | '-' :: _ => ['-']
  | _ => []

def scanExponent (text : List Char) : List Char × List Char :=
  match text with
  | [] => ([], [])
  | c :: rest =>
    let sign := exponentSign rest
    let digits := rest.drop sign.length
    if (c = 'e' ∨ c = 'E') ∧ digits.takeWhile Char.isDigit ≠ [] then
      (c :: (sign++digits.takeWhile Char.isDigit), digits.dropWhile Char.isDigit)
    else ([], text)

def minusSign (text : List Char) : List Char :=
  match text with
  | '-' :: _ => ['-']
  | _ => []

/-- The longest number at the front of a text. -/
def scanNumber (text : List Char) : Option (List Char × List Char) :=
  let sign := minusSign text
  (scanWhole (text.drop sign.length)).map fun whole =>
    let fraction := scanFraction whole.2
    let exponent := scanExponent fraction.2
    (sign++whole.1++fraction.1++exponent.1, exponent.2)

def constants : List (List Char × Value) :=
  [(['n', 'u', 'l', 'l'], .null), (['t', 'r', 'u', 'e'], .bool true),
   (['f', 'a', 'l', 's', 'e'], .bool false), (['N', 'a', 'N'], .num ['N', 'a', 'N']),
   (['I', 'n', 'f', 'i', 'n', 'i', 't', 'y'], .num ['I', 'n', 'f', 'i', 'n', 'i', 't', 'y']),
   (['-', 'I', 'n', 'f', 'i', 'n', 'i', 't', 'y'],
    .num ['-', 'I', 'n', 'f', 'i', 'n', 'i', 't', 'y'])]

def scanAtom (text : List Char) : Option (Value × List Char) :=
  match scanNumber text with
  | some (numeral, rest) => some (.num numeral, rest)
  | none =>
    (constants.find? fun c => c.1.isPrefixOf text).map fun c => (c.2, text.drop c.1.length)

/-- `dict(pairs)`: the last value of a key stays, at the place of the first. -/
def dictOf (pairs : List (Str × Value)) : List (Str × Value) :=
  pairs.foldl (fun fields p =>
    if p.1 ∈ fields.map Prod.fst then fields.map fun q => if q.1 = p.1 then p else q
    else fields++[p]) []

mutual

/-- A value at the front of a text. Every call takes a character at least, so
that the length of the text is fuel enough. -/
def scanValue : ℕ → List Char → Option (Value × List Char)
  | 0, _ => none
  | fuel+1, text =>
    match text with
    | '"' :: rest => (scanString rest).map fun out => (.str (joinPairs out.1), out.2)
    | '[' :: rest =>
      match skipSpace rest with
      | ']' :: rest' => some (.arr [], rest')
      | rest' =>
        (scanValue fuel rest').bind fun out =>
          (scanItems fuel out.2).map fun items => (.arr (out.1 :: items.1), items.2)
    | '{' :: rest =>
      match skipSpace rest with
      | '}' :: rest' => some (.obj [], rest')
      | rest' =>
        (scanMember fuel rest').bind fun out =>
          (scanFields fuel out.2).map fun fields => (.obj (dictOf (out.1 :: fields.1)), fields.2)
    | _ => scanAtom text

/-- What follows an item of an array. -/
def scanItems : ℕ → List Char → Option (List Value × List Char)
  | 0, _ => none
  | fuel+1, text =>
    match skipSpace text with
    | ']' :: rest => some ([], rest)
    | ',' :: rest =>
      (scanValue fuel (skipSpace rest)).bind fun out =>
        (scanItems fuel out.2).map fun items => (out.1 :: items.1, items.2)
    | _ => none

def scanMember : ℕ → List Char → Option ((Str × Value) × List Char)
  | 0, _ => none
  | fuel+1, text =>
    match text with
    | '"' :: rest =>
      (scanString rest).bind fun key =>
        match skipSpace key.2 with
        | ':' :: rest' =>
          (scanValue fuel (skipSpace rest')).map fun out => ((joinPairs key.1, out.1), out.2)
        | _ => none
    | _ => none

/-- What follows a member of an object. -/
def scanFields : ℕ → List Char → Option (List (Str × Value) × List Char)
  | 0, _ => none
  | fuel+1, text =>
    match skipSpace text with
    | '}' :: rest => some ([], rest)
    | ',' :: rest =>
      (scanMember fuel (skipSpace rest)).bind fun out =>
        (scanFields fuel out.2).map fun fields => (out.1 :: fields.1, fields.2)
    | _ => none

end

/-- `json.loads(text)`, nothing when it raises. -/
def loads (text : String) : Option Value :=
  let start := skipSpace text.toList
  match scanValue (start.length+1) start with
  | some (v, rest) => if skipSpace rest = [] then some v else none
  | none => none

end LegalForge.JsonText
