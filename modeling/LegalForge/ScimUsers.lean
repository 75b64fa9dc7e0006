import LegalForge.AuthModels

/-! Provisioning of users over SCIM. Requests are JSON of any shape: what the
service cannot handle ends in an exception and a rollback. -/
namespace LegalForge.Scim
open Auth

def enterpriseSchema : String := "urn:ietf:params:scim:schemas:extension:enterprise:2.0:User"

/-- `text.lower()`, as far as ASCII results can come of it: besides the capital
letters the Kelvin sign gives one. -/
def lower (text : String) : String :=
  text.map (fun c => if c = 'K' then 'k' else c.toLower)

/-- The characters `strip` removes. -/
def isSpace (c : Char) : Bool :=
  let n := c.toNat
  (9 ≤ n ∧ n ≤ 13) ∨ (28 ≤ n ∧ n ≤ 32) ∨ n = 0x85 ∨ n = 0xa0 ∨ n = 0x1680 ∨
    (0x2000 ≤ n ∧ n ≤ 0x200a) ∨ n = 0x2028 ∨ n = 0x2029 ∨ n = 0x202f ∨ n = 0x205f ∨ n = 0x3000

def strip (text : String) : String :=
  String.ofList ((text.toList.dropWhile isSpace).reverse.dropWhile isSpace).reverse

def roleMap : List (String × UserRole) :=
  [("administrator", .admin), ("lawyer", .attorney), ("partner", .attorney),
   ("associate", .attorney), ("legal_assistant", .paralegal), ("clerk", .billingClerk),
   ("billing", .billingClerk)]

/-- The text of an entry of `roles`. Numbers, booleans, lists and null print as
no role name, and a dictionary needs a text under `value`. -/
def roleText : Json → Option String
  | .obj fields =>
    match fields.lookup "value" with
    | none => some ""
    | some (.str s) => some s
    | some _ => none
  | .str s => some s
  | _ => some ""

def departmentRole (scimData : Json) : Option UserRole :=
  match scimData.get enterpriseSchema with
  | .obj fields =>
    match (Json.obj fields).get "department" with
    | .str dept => some ((UserRole.ofValue (strip (lower dept))).getD .attorney)
    | dept => if dept.truthy then none else some .attorney
  | _ => some .attorney

/-- `_map_role_from_scim`, nothing for an exception. -/
def mapRoleFromScim (scimData : Json) : Option UserRole :=
  match scimData.get "roles" with
  | .arr (entry :: _) => do
    let text ← roleText entry
    let role := strip (lower text)
    match (UserRole.ofValue role).or (roleMap.lookup role) with
    | some r => some r
    | none => departmentRole scimData
  | _ => departmentRole scimData

/-- Attributes assigned to a user, not flushed yet. -/
structure UserChanges where
  email : Option Json := none
  firstName : Option Json := none
  lastName : Option Json := none
  role : Option UserRole := none
  isActive : Option Json := none
  scimExternalId : Option Json := none

/-- The first email that is primary, or the only one. -/
def primaryEmail (emails : List Json) : Option Json :=
  emails.find? (fun e =>
    match e with
    | .obj _ => (e.get "primary").truthy || emails.length = 1
    | _ => false)

def scimEmail (scimData : Json) : Option Json :=
  let userName :=
    if (scimData.get "userName").truthy then some (scimData.get "userName") else none
  match scimData.get "emails" with
  | .arr emails =>
    match primaryEmail emails with
    | some e => some (if e.has "value" then e.get "value" else userName.getD (.str ""))
    | none => userName
  | _ => userName

/-- `data[key]` if the key is there. -/
def field (value : Json) (key : String) : Option Json :=
  if value.has key then some (value.get key) else none

/-- `_map_scim_to_user_data`, nothing for an exception. -/
def mapScimToUserData (scimData : Json) : Option UserChanges :=
  match scimData with
  | .obj _ => do
    let role ← mapRoleFromScim scimData
    some
      { email := scimEmail scimData
        firstName := field (scimData.get "name") "givenName"
        lastName := field (scimData.get "name") "familyName"
        role := some role
        isActive := field scimData "active"
        scimExternalId := field scimData "externalId" }
  | _ => none

/-- A JSON value for a text column that is not null. -/
def textColumn (limit : ℕ) : Json → Option String
  | .str s => varchar limit s
  | _ => none

def nullableTextColumn (limit : ℕ) : Json → Option (Option String)
  | .null => some none
  | value => (textColumn limit value).map some

/-- A JSON value for a boolean column: the numbers 0 and 1 count as booleans. -/
def boolColumn : Json → Option Bool
  | .bool b => some b
  | .num q => if q = 0 then some false else if q = 1 then some true else none
  | _ => none

/-- The value of a text column after an assignment, if it can be flushed. -/
def assignedColumn (limit : ℕ) (current : String) : Option Json → Option String
  | none => some current
  | some value => if value.isText current then some current else textColumn limit value

def assignedExternalId (current : Option String) : Option Json → Option (Option String)
  | none => some current
  | some value => nullableTextColumn 500 value

def assignedActive (current : Bool) : Option Json → Option Bool
  | none => some current
  | some value => boolColumn value

/-- The row the assigned attributes make, if every one of them fits its column. -/
def changedUser (changes : UserChanges) (user : User) : Option User := do
  let email ← assignedColumn 255 user.email changes.email
  let firstName ← assignedColumn 100 user.firstName changes.firstName
  let lastName ← assignedColumn 100 user.lastName changes.lastName
  let isActive ← assignedActive user.isActive changes.isActive
  let scimExternalId ← assignedExternalId user.scimExternalId changes.scimExternalId
  some { user with
    email := email
    firstName := firstName
    lastName := lastName
    role := changes.role.getD user.role
    isActive := isActive
    scimExternalId := scimExternalId }

def notFound (userId : Uuid) : String :=
  "User "++String.ofList (uuidText userId)++" not found"

/-- The user `create_user` finds under the new email. A null email matches
nobody, and a value that is no text raises. -/
def existingUser (db : Db) : Option Json → Option (Option User)
  | none => some none
  | some .null => some none
  | some (.str email) => some (getUserByEmail db email)
  | some _ => none

/-- The row `create_user` adds. -/
def newUser (changes : UserChanges) (userId : Uuid) (passwordHash : String) : Option User := do
  let email ← changes.email
  let email ← textColumn 255 email
  let firstName ← textColumn 100 (changes.firstName.getD (.str ""))
  let lastName ← textColumn 100 (changes.lastName.getD (.str ""))
  let isActive ← boolColumn (changes.isActive.getD (.bool true))
  let scimExternalId ← nullableTextColumn 500 (changes.scimExternalId.getD .null)
  some
    { id := userId
      email := email
      passwordHash := passwordHash
      firstName := firstName
      lastName := lastName
      role := changes.role.getD .attorney
      isActive := isActive
      scimExternalId := scimExternalId }

/-- `POST /v2/Users`, with the key and the random password that are drawn. -/
def createUser (db : Db) (scimData : Json) (userId : Uuid) (passwordHash : String) :
    Except HttpError User × Db :=
  match mapScimToUserData scimData with
  | none => (.error .internal, db)
  | some changes =>
    match existingUser db changes.email with
    | none => (.error .internal, db)
    | some (some _) => (.error ⟨409, "User with this email already exists"⟩, db)
    | some none =>
      match newUser changes userId passwordHash with
      -- a value that fits no column fails at the flush
      | none => (.error .internal, db)
      | some user =>
        match insertUser db user with
        | none => (.error .internal, db)
        | some db' => (.ok user, db')

/-- `update_user`, the row. -/
def replacedUser (scimData : Json) (user : User) : Option User := do
  let changes ← mapScimToUserData scimData
  changedUser changes user

/-- `PUT /v2/Users/{user_id}` -/
def updateUser (db : Db) (userId : Uuid) (scimData : Json) : Except HttpError User × Db :=
  writeUser db userId (notFound userId) (replacedUser scimData)

/-! PATCH -/

/-- `name` as a dictionary. -/
def patchName (changes : UserChanges) (name : Json) : UserChanges :=
  { changes with
    firstName := (field name "givenName").or changes.firstName
    lastName := (field name "familyName").or changes.lastName }

/-- The first of a list of emails. -/
def patchEmails (changes : UserChanges) : Json → UserChanges
  | .arr (e :: _) => if e.has "value" then { changes with email := some (e.get "value") } else changes
  | _ => changes

/-- `path == key or (not path and isinstance(value, dict) and key in value)` -/
def addresses (path value : Json) (key : String) : Bool :=
  path.isText key || (!path.truthy && value.has key)

/-- A bulk replacement. The branches before it have taken every key it looks for. -/
def patchBulk (changes : UserChanges) (value : Json) : UserChanges :=
  let changes :=
    match value.get "active" with
    | .bool b => { changes with isActive := some (.bool b) }
    | _ => changes
  let changes := patchName changes (value.get "name")
  let changes :=
    if value.has "userName" then { changes with email := some (value.get "userName") } else changes
  patchEmails changes (value.get "emails")

/-- An operation `replace`. `value.get` raises for a value that is no dictionary. -/
def patchReplace (changes : UserChanges) (path value : Json) : Option UserChanges :=
  if addresses path value "active" then
    match value with
    | .bool b => some { changes with isActive := some (.bool b) }
    | .obj _ =>
      match value.get "active" with
      | .bool b => some { changes with isActive := some (.bool b) }
      | _ => some changes
    | _ => none
  else if addresses path value "name" then
    some (patchName changes (if path.isText "name" then value else value.get "name"))
  else if addresses path value "userName" then
    match value with
    | .str s => some (if s ≠ "" then { changes with email := some (.str s) } else changes)
    | .obj _ =>
      let userName := value.get "userName"
      some (if userName.truthy then { changes with email := some userName } else changes)
    | _ => none
  else if addresses path value "emails" then
    some (patchEmails changes (if path.isText "emails" then value else value.get "emails"))
  else
    match value with
    | .obj _ => some (if path.truthy then changes else patchBulk changes value)
    | _ => some changes

/-- One email of an operation `add`. A primary email without a value raises. -/
def patchAddEmail (changes : UserChanges) (e : Json) : Option UserChanges :=
  if (e.get "primary").truthy then
    if e.has "value" then some { changes with email := some (e.get "value") } else none
  else some changes

def patchAdd (changes : UserChanges) (path value : Json) : Option UserChanges :=
  if path.isText "emails" then
    match value with
    | .arr emails => emails.foldlM patchAddEmail changes
    | _ => some changes
  else some changes

/-- `dict.get(key, "")` -/
def getText (fields : List (String × Json)) (key : String) : Json :=
  (fields.lookup key).getD (.str "")

/-- One entry of `Operations`. -/
def patchOperation (changes : UserChanges) : Json → Option UserChanges
  | .obj fields =>
    match getText fields "op" with
    | .str op =>
      let path := getText fields "path"
      let value := (Json.obj fields).get "value"
      if lower op = "replace" then patchReplace changes path value
      else if lower op = "add" then patchAdd changes path value
      else if lower op = "remove" ∧ path.isText "active" then
        some { changes with isActive := some (.bool false) }
      else some changes
    | _ => none
  | _ => none

/-- What the loop over `Operations` runs through. The keys of a dictionary and
the characters of a text are no operations. -/
def operations : Json → Option (List Json)
  | .arr items => some items
  | .obj [] => some []
  | .str s => if s = "" then some [] else none
  | _ => none

/-- `patch_user`, the row. -/
def patchedUser (value : Json) (user : User) : Option User := do
  let ops ← operations value
  let changes ← ops.foldlM patchOperation {}
  changedUser changes user

/-- `PATCH /v2/Users/{user_id}` -/
def patchUser (db : Db) (userId : Uuid) (scimData : Json) : Except HttpError User × Db :=
  match scimData with
  | .obj fields =>
    writeUser db userId (notFound userId)
      (patchedUser ((fields.lookup "Operations").getD (.arr [])))
  | _ => (.error .internal, db)

/-- `DELETE /v2/Users/{user_id}`. The row stays. -/
def deleteUser (db : Db) (userId : Uuid) : Except HttpError User × Db :=
  writeUser db userId (notFound userId) (fun user => some (deactivated user))

/-- Every key of a bulk replacement is taken by a branch before it. -/
theorem patchBulk_of_not_addresses {changes : UserChanges} {path value : Json}
    (hpath : path.truthy = false) (hactive : addresses path value "active" = false)
    (hname : addresses path value "name" = false)
    (huserName : addresses path value "userName" = false)
    (hemails : addresses path value "emails" = false) : patchBulk changes value = changes := by
  have hget : ∀ key, addresses path value key = false → value.has key = false ∧
      value.get key = .null := by
    intro key h
    have hhas : value.has key = false := by
      simpa [addresses, hpath] using (Bool.or_eq_false_iff.mp h).2
    refine ⟨hhas, ?_⟩
    cases value with
    | obj fields =>
      have hnone : fields.lookup key = none := by
        simpa [Json.has] using hhas
      simp [Json.get, hnone]
    | _ => rfl
  have hnull : ∀ key, field .null key = none := fun _ => rfl
  simp only [patchBulk, (hget _ hactive).2, (hget _ hname).2, (hget _ huserName).1,
    (hget _ hemails).2, patchName, patchEmails, hnull, Option.none_or]
  rfl

end LegalForge.Scim
