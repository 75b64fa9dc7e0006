import Mathlib

/-! JSON values as `json.loads` returns them. -/
namespace LegalForge

inductive Json where
  | null
  | bool (b : Bool)
  | num (q : ℚ)
  | str (s : String)
  | arr (items : List Json)
  /-- The keys are distinct. -/
  | obj (fields : List (String × Json))

namespace Json

/-- `bool(value)` -/
def truthy : Json → Bool
  | null => false
  | bool b => b
  | num q => q ≠ 0
  | str s => s ≠ ""
  | arr items => !items.isEmpty
  | obj fields => !fields.isEmpty

/-- `value.get(key)`, `None` when the key is missing. -/
def get (value : Json) (key : String) : Json :=
  match value with
  | obj fields => (fields.lookup key).getD null
  | _ => null

/-- `a or b` -/
def or (a b : Json) : Json :=
  if a.truthy then a else b

/-- `key in value`, for a dictionary. -/
def has (value : Json) (key : String) : Bool :=
  match value with
  | obj fields => (fields.lookup key).isSome
  | _ => false

/-- `value == text` -/
def isText (value : Json) (text : String) : Bool :=
  match value with
  | str s => s = text
  | _ => false

/-- A value for a field of type `Optional[str]`. -/
def optStr : Json → Option (Option String)
  | null => some none
  | str s => some (some s)
  | _ => none

end Json

end LegalForge
