import LegalForge.Json
import LegalForge.JsonRoundTrip

/-! The filter language of SCIM (RFC 7644, section 3.4.2.2): expressions, how they are written,
and which resources satisfy them. -/
namespace LegalForge.FilterLanguage
open JsonText

inductive CompareOp where
  | eq
  | ne
  | co
  | sw
  | ew
  | gt
  | ge
  | lt
  | le
  deriving DecidableEq

inductive CompareValue where
  | null
  | bool (b : Bool)
  | number (q : ℚ)
  | string (s : String)
  deriving DecidableEq

/-- `uri:name.sub` -/
structure AttrPath where
  uri : Option String := none
  name : String
  sub : Option String := none
  deriving DecidableEq

inductive Filter where
  | present (path : AttrPath)
  | compare (path : AttrPath) (op : CompareOp) (value : CompareValue)
  /-- `path[f]` -/
  | group (path : AttrPath) (f : Filter)
  | not (f : Filter)
  | and (f g : Filter)
  | or (f g : Filter)

/-! Reading. Names, operators and the words between expressions are read in either case. -/

def keyword (word : List Char) (text : List Char) : Option (List Char) :=
  if (text.take word.length).map Char.toLower = word then some (text.drop word.length) else none

def nameChar (c : Char) : Bool := c.isAlphanum || c = '-' || c = '_'

def isName : List Char → Bool
  | [] => false
  | c :: rest => c.isAlpha && rest.all nameChar

/-- A character of a path, its URI included. -/
def pathChar (c : Char) : Bool := c ∉ [' ', '"', '(', ')', '[', ']']

/-- What stands before the last colon, and what after it. -/
def splitUri (path : List Char) : Option String × List Char :=
  let name := (path.reverse.takeWhile (· ≠ ':')).reverse
  if name = path then (none, path)
  else (some (String.ofList (path.take (path.length-name.length-1))), name)

def pathOf (uri : Option String) (text : List Char) : Option AttrPath :=
  let name := text.takeWhile (· ≠ '.')
  match text.dropWhile (· ≠ '.') with
  | [] => if isName name then some ⟨uri, String.ofList name, none⟩ else none
  | _ :: sub =>
    if isName name && isName sub then some ⟨uri, String.ofList name, some (String.ofList sub)⟩
    else none

def readPath (text : List Char) : Option (AttrPath × List Char) :=
  let (uri, name) := splitUri (text.takeWhile pathChar)
  (pathOf uri name).map fun path => (path, text.dropWhile pathChar)

/-- The operators. `pr` takes no value. -/
def operators : List (List Char × Option CompareOp) :=
  [(['p', 'r'], none), (['e', 'q'], some .eq), (['n', 'e'], some .ne), (['c', 'o'], some .co),
   (['s', 'w'], some .sw), (['e', 'w'], some .ew), (['g', 't'], some .gt), (['g', 'e'], some .ge),
   (['l', 't'], some .lt), (['l', 'e'], some .le)]

def readOperator (text : List Char) : Option (Option CompareOp × List Char) :=
  operators.findSome? fun (word, op) => (keyword word text).map fun rest => (op, rest)

/-- The characters of a text of code points, which must not have lone surrogates. -/
def ofCodePoints (text : Str) : Option (List Char) :=
  text.mapM fun n => if n.isValidChar then some (Char.ofNat n) else none

def digitsValue (digits : List Char) : ℕ :=
  digits.foldl (fun n c => n*10+(c.toNat-48)) 0

/-- The value of a JSON numeral. -/
def numeralValue (text : List Char) : ℚ :=
  let unsigned := text.drop (minusSign text).length
  let whole := unsigned.takeWhile Char.isDigit
  let fraction := (scanFraction (unsigned.drop whole.length)).1
  let exponent := (unsigned.drop (whole.length+fraction.length)).drop 1
  let digits := exponent.drop (exponentSign exponent).length
  let power : ℚ := (10 : ℚ)^(digitsValue digits)
  let value : ℚ := (digitsValue whole : ℚ)+digitsValue (fraction.drop 1)/(10 : ℚ)^(fraction.length-1)
  let scaled := if exponentSign exponent = ['-'] then value/power else value*power
  if minusSign text = ['-'] then -scaled else scaled

def literals : List (List Char × CompareValue) :=
  [(['t', 'r', 'u', 'e'], .bool true), (['f', 'a', 'l', 's', 'e'], .bool false),
   (['n', 'u', 'l', 'l'], .null)]

def readValue (text : List Char) : Option (CompareValue × List Char) :=
  match text with
  | '"' :: rest =>
    (scanString rest).bind fun out =>
      (ofCodePoints (joinPairs out.1)).map fun s => (.string (String.ofList s), out.2)
  | _ =>
    match scanNumber text with
    | some (numeral, rest) => some (.number (numeralValue numeral), rest)
    | none => (literals.find? fun l => l.1.isPrefixOf text).map fun l => (l.2, text.drop l.1.length)

/-- What follows the path of an expression, and a space. -/
def readComparison (path : AttrPath) (text : List Char) : Option (Filter × List Char) :=
  (readOperator text).bind fun
    | (none, rest) => some (.present path, rest)
    | (some op, ' ' :: rest) => (readValue rest).map fun out => (.compare path op out.1, out.2)
    | (some _, _) => none

/-- What follows `not`, if it is an operator. -/
def afterNot (text : List Char) : Option (List Char) :=
  match keyword ['n', 'o', 't'] text with
  | some ('(' :: rest) => some rest
  | some (' ' :: '(' :: rest) => some rest
  | _ => none

def close (c : Char) (out : Filter × List Char) : Option (Filter × List Char) :=
  match out.2 with
  | d :: rest => if d = c then some (out.1, rest) else none
  | [] => none

mutual

/-- Expressions with `or` between them. Fuel that is three times the length of the text is
enough. -/
def readOr : ℕ → List Char → Option (Filter × List Char)
  | 0, _ => none
  | fuel+1, text =>
    (readAnd fuel text).bind fun out =>
      match keyword [' ', 'o', 'r', ' '] out.2 with
      | none => some out
      | some rest => (readOr fuel rest).map fun more => (.or out.1 more.1, more.2)

def readAnd : ℕ → List Char → Option (Filter × List Char)
  | 0, _ => none
  | fuel+1, text =>
    (readUnit fuel text).bind fun out =>
      match keyword [' ', 'a', 'n', 'd', ' '] out.2 with
      | none => some out
      | some rest => (readAnd fuel rest).map fun more => (.and out.1 more.1, more.2)

/-- One expression, or one in parentheses. -/
def readUnit : ℕ → List Char → Option (Filter × List Char)
  | 0, _ => none
  | fuel+1, text =>
    match afterNot text with
    | some rest => ((readOr fuel rest).bind (close ')')).map fun out => (.not out.1, out.2)
    | none =>
      match text with
      | '(' :: rest => (readOr fuel rest).bind (close ')')
      | _ =>
        (readPath text).bind fun out =>
          match out.2 with
          | '[' :: rest =>
            ((readOr fuel rest).bind (close ']')).map fun more => (.group out.1 more.1, more.2)
          | ' ' :: rest => readComparison out.1 rest
          | _ => none

end

/-- The filter a text is, nothing for a text that is none. -/
def parseFilter (text : String) : Option Filter :=
  match readOr (3*text.toList.length+3) text.toList with
  | some (f, []) => some f
  | _ => none

/-! Meaning. -/

inductive AttributeType where
  | text (caseExact : Bool)
  | dateTime
  deriving DecidableEq

/-- The attributes whose values are not compared as texts in either case, by their names. -/
structure Schema where
  core : String
  types : List (List String × AttributeType)

/-- How cases are folded, and which moment a date and time names. -/
structure Reading where
  fold : String → String
  instant : String → Option ℚ

def lowerName (name : String) : String :=
  String.ofList (name.toList.map Char.toLower)

def member (name : String) : Json → List Json
  | .obj fields => (fields.filter fun f => lowerName f.1 = lowerName name).map Prod.snd
  | _ => []

/-- The one field of a name. -/
theorem member_of_others {name : String} {value : Json} {before after : List (String × Json)}
    (hothers : ∀ key ∈ (before++after).map Prod.fst, lowerName key ≠ lowerName name) :
    member name (.obj (before++(name, value) :: after)) = [value] := by
  have hnone : ∀ f ∈ before++after, ¬decide (lowerName f.1 = lowerName name) = true := by
    intro f hf
    rw [decide_eq_true_iff]
    exact hothers f.1 (List.mem_map_of_mem hf)
  have hbefore := List.filter_eq_nil_iff.mpr fun f hf => hnone f (List.mem_append_left _ hf)
  have hafter := List.filter_eq_nil_iff.mpr fun f hf => hnone f (List.mem_append_right _ hf)
  rw [member, List.filter_append, hbefore, List.filter_cons, hafter, if_pos (decide_eq_true rfl)]
  rfl

/-- The values of an attribute. One without a value, or with the value null, has none. -/
def valuesOf : Json → List Json
  | .arr items => items
  | .null => []
  | value => [value]

def valuesAt (schema : Schema) (path : AttrPath) (resource : Json) : List Json :=
  let roots :=
    match path.uri with
    | none => [resource]
    | some uri => if lowerName uri = lowerName schema.core then [resource] else member uri resource
  let values := roots.flatMap fun root => (member path.name root).flatMap valuesOf
  match path.sub with
  | none => values
  | some sub => values.flatMap fun value => (member sub value).flatMap valuesOf

/-- A complex value is compared by its `value`. -/
def simpleValues (values : List Json) : List Json :=
  values.flatMap fun value =>
    match value with
    | .obj fields => (member "value" (.obj fields)).flatMap valuesOf
    | _ => [value]

def hasValue : Json → Bool
  | .str s => s ≠ ""
  | .obj fields => fields.any fun f => !(valuesOf f.2).isEmpty
  | _ => true

def compareTexts (op : CompareOp) (a b : String) : Bool :=
  match op with
  | .eq => a = b
  | .ne => a ≠ b
  | .co => b.toList <:+: a.toList
  | .sw => b.toList.isPrefixOf a.toList
  | .ew => b.toList.isSuffixOf a.toList
  | .gt => b.toList < a.toList
  | .ge => b.toList ≤ a.toList
  | .lt => a.toList < b.toList
  | .le => a.toList ≤ b.toList

def compareNumbers (op : CompareOp) (a b : ℚ) : Bool :=
  match op with
  | .eq => a = b
  | .ne => a ≠ b
  | .gt => b < a
  | .ge => b ≤ a
  | .lt => a < b
  | .le => a ≤ b
  | _ => false

/-- Values of different types are not equal, and not in any order. -/
def compareOther (op : CompareOp) (same : Bool) : Bool :=
  match op with
  | .eq => same
  | .ne => !same
  | _ => false

def CompareOp.isOrder : CompareOp → Bool
  | .gt => true
  | .ge => true
  | .lt => true
  | .le => true
  | _ => false

/-- Nothing for a comparison that is refused: truth values are in no order. -/
def compareValues (reading : Reading) (type : AttributeType) (op : CompareOp) :
    Json → CompareValue → Option Bool
  | .bool a, value =>
    if op.isOrder then none else some (compareOther op (value = .bool a))
  | .str a, .string b =>
    match type with
    | .text true => some (compareTexts op a b)
    | .text false => some (compareTexts op (reading.fold a) (reading.fold b))
    | .dateTime =>
      match reading.instant a, reading.instant b with
      | some s, some t => some (compareNumbers op s t)
      | _, _ => some (compareOther op false)
  | .num a, .number b => some (compareNumbers op a b)
  | .null, .null => some (compareOther op true)
  | _, _ => some (compareOther op false)

/-- The names of an attribute inside the attributes of `scope`. -/
def AttrPath.names (scope : List String) (path : AttrPath) : List String :=
  scope++(path.name :: path.sub.toList).map lowerName

def Schema.typeOf (schema : Schema) (names : List String) : AttributeType :=
  (schema.types.lookup names).getD (.text false)

/-- Whether one of the values meets a condition, where it can be asked of all of them. -/
def anyValue (values : List Json) (p : Json → Option Bool) : Option Bool :=
  (values.mapM p).map fun results => results.any id

def evaluate (reading : Reading) (schema : Schema) (scope : List String) :
    Filter → Json → Option Bool
  | .present path, resource => some ((valuesAt schema path resource).any hasValue)
  | .compare path op value, resource =>
    let values := simpleValues (valuesAt schema path resource)
    anyValue (if values.isEmpty then [.null] else values) fun v =>
      compareValues reading (schema.typeOf (path.names scope)) op v value
  | .group path f, resource =>
    anyValue (valuesAt schema path resource) fun v =>
      evaluate reading schema (path.names scope) f v
  | .not f, resource => (evaluate reading schema scope f resource).map not
  | .and f g, resource =>
    (evaluate reading schema scope f resource).bind fun a =>
      (evaluate reading schema scope g resource).map fun b => a && b
  | .or f g, resource =>
    (evaluate reading schema scope f resource).bind fun a =>
      (evaluate reading schema scope g resource).map fun b => a || b

/-- The text is a filter that the resource satisfies. -/
def Satisfies (reading : Reading) (schema : Schema) (text : String) (resource : Json) : Prop :=
  (parseFilter text).bind (fun f => evaluate reading schema [] f resource) = some true

end LegalForge.FilterLanguage
