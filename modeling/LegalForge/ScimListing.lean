import LegalForge.AuditLog
import LegalForge.Deadlines
import LegalForge.FilterLanguage
import LegalForge.ScimUsers

/-! The list of users over SCIM, and its filter. One pattern recognises filters, at the front of
the text. -/
namespace LegalForge.Scim
open Auth FilterLanguage JsonText
open Audit (isoformat strId)
open Deadlines (intColumn)

def userSchema : String := "urn:ietf:params:scim:schemas:core:2.0:User"

/-- A user with the columns that the resource shows besides. -/
structure ScimUser extends User where
  createdAt : Datetime
  updatedAt : Datetime

/-- `_map_user_to_scim` -/
def mapUserToScim (user : ScimUser) (baseUrl : String) : Json :=
  .obj
    [("schemas", .arr [.str userSchema, .str enterpriseSchema]),
     ("id", .str (strId user.id)),
     ("externalId", (user.scimExternalId.map Json.str).getD .null),
     ("userName", .str user.email),
     ("name", .obj [("givenName", .str user.firstName), ("familyName", .str user.lastName)]),
     ("emails", .arr [.obj
       [("value", .str user.email), ("primary", .bool true), ("type", .str "work")]]),
     ("active", .bool user.isActive),
     ("roles", .arr [.obj [("value", .str user.role.value)]]),
     (enterpriseSchema, .obj [("department", .str user.role.value)]),
     ("meta", .obj
       [("resourceType", .str "User"),
        ("created", .str (isoformat user.createdAt)),
        ("lastModified", .str (isoformat user.updatedAt)),
        ("location", .str (baseUrl++"/v2/Users/"++strId user.id))])]

/-- The rest of a text that starts with `word`. -/
def literal (word text : List Char) : Option (List Char) :=
  if word.isPrefixOf text then some (text.drop word.length) else none

/-- `\s+` -/
def spaces (text : List Char) : Option (List Char) :=
  match text with
  | c :: rest => if isSpace c then some (rest.dropWhile isSpace) else none
  | [] => none

/-- `"([^"]+)"` -/
def quotedGroup (text : List Char) : Option String :=
  match text with
  | '"' :: rest =>
    let value := rest.takeWhile (· ≠ '"')
    if value ≠ [] ∧ rest.dropWhile (· ≠ '"') ≠ [] then some (String.ofList value) else none
  | _ => none

/-- The group of `re.match(r'userName\s+eq\s+"([^"]+)"', text)`. Only the front of the text has to
match. -/
def matchUserName (text : List Char) : Option String := do
  let text ← literal ['u', 's', 'e', 'r', 'N', 'a', 'm', 'e'] text
  let text ← spaces text
  let text ← literal ['e', 'q'] text
  let text ← spaces text
  quotedGroup text

/-- The email that a filter is recognised to ask for. -/
def recognised (filter : Option String) : Option String :=
  match filter with
  | none => none
  | some text => if text = "" then none else matchUserName (strip text).toList

/-- A text as a parameter of a statement. -/
def parameter (text : String) : Option String :=
  if '\x00' ∈ text.toList then none else some text

structure ListResponse where
  schemas : List String := ["urn:ietf:params:scim:api:messages:2.0:ListResponse"]
  totalResults : ℕ
  startIndex : ℤ
  itemsPerPage : ℕ
  resources : List Json

/-- `query` with the filter that was recognised, nothing for an exception. -/
def filteredUsers (users : List ScimUser) (filter : Option String) : Option (List ScimUser) :=
  match recognised filter with
  | none => some users
  | some email => (parameter email).map fun email => users.filter fun user => user.email = email

/-- `ORDER BY created_at OFFSET ... LIMIT ...` -/
def pageOf (users : List ScimUser) (startIndex count : ℤ) : Option (List ScimUser) := do
  let offset ← intColumn (max 0 (startIndex-1))
  let limit ← intColumn count
  if limit < 0 then none
  else
    some (((users.mergeSort fun a b => a.createdAt ≤ b.createdAt).drop offset.toNat).take limit.toNat)

/-- `list_users`, nothing for an exception. -/
def listUsers (users : List ScimUser) (filter : Option String) (startIndex count : ℤ)
    (baseUrl : String) : Option ListResponse := do
  let found ← filteredUsers users filter
  let page ← pageOf found startIndex count
  let resources := page.map fun user => mapUserToScim user baseUrl
  some
    { totalResults := found.length
      startIndex := startIndex
      itemsPerPage := resources.length
      resources := resources }

/-- The attributes of a user that are case exact, or dates. -/
def userAttributes : Schema where
  core := userSchema
  types :=
    [(["schemas"], .text true), (["id"], .text true), (["externalid"], .text true),
     (["meta", "resourcetype"], .text true), (["meta", "location"], .text true),
     (["meta", "created"], .dateTime), (["meta", "lastmodified"], .dateTime)]

/-- Whatever users there are, those that are returned for the filter satisfy it. -/
def FilterSound (reading : Reading) (text : String) : Prop :=
  ∀ users startIndex count baseUrl response,
    listUsers users (some text) startIndex count baseUrl = some response →
    ∀ r ∈ response.resources, Satisfies reading userAttributes text r

/-- A user whom the recognised part of the filter lets through. -/
def LetThrough (text : String) (user : ScimUser) : Prop :=
  match recognised (some text) with
  | none => True
  | some email => parameter email = some user.email

section
variable {users found page : List ScimUser} {startIndex count : ℤ}

theorem mem_filteredUsers {text : String} {user : ScimUser}
    (h : filteredUsers users (some text) = some found) (hmem : user ∈ found) :
    LetThrough text user := by
  unfold filteredUsers at h
  unfold LetThrough
  split at h
  · trivial
  · obtain ⟨value, hvalue, rfl⟩ := Option.map_eq_some_iff.mp h
    obtain ⟨-, huser⟩ := List.mem_filter.mp hmem
    rw [of_decide_eq_true huser]
    exact hvalue

theorem mem_pageOf {user : ScimUser} (h : pageOf users startIndex count = some page)
    (hmem : user ∈ page) : user ∈ users := by
  unfold pageOf at h
  obtain ⟨offset, -, h⟩ := Option.bind_eq_some_iff.mp h
  obtain ⟨limit, -, h⟩ := Option.bind_eq_some_iff.mp h
  split_ifs at h
  rw [← Option.some.inj h] at hmem
  exact List.mem_mergeSort.mp (List.mem_of_mem_drop (List.mem_of_mem_take hmem))

/-- Who is returned was let through. -/
theorem exists_user_of_mem {text baseUrl : String} {response : ListResponse} {r : Json}
    (h : listUsers users (some text) startIndex count baseUrl = some response)
    (hr : r ∈ response.resources) :
    ∃ user, LetThrough text user ∧ r = mapUserToScim user baseUrl := by
  unfold listUsers at h
  obtain ⟨found, hfound, h⟩ := Option.bind_eq_some_iff.mp h
  obtain ⟨page, hpage, h⟩ := Option.bind_eq_some_iff.mp h
  rw [← Option.some.inj h] at hr
  obtain ⟨user, huser, rfl⟩ := List.mem_map.mp hr
  exact ⟨user, mem_filteredUsers hfound (mem_pageOf hpage huser), rfl⟩

/-- Who is let through is returned, if there is nobody else. -/
theorem listUsers_singleton {text : String} {user : ScimUser} (h : LetThrough text user)
    (baseUrl : String) : ∃ response, listUsers [user] (some text) 1 1 baseUrl = some response ∧
      response.resources = [mapUserToScim user baseUrl] := by
  have hfound : filteredUsers [user] (some text) = some [user] := by
    unfold LetThrough at h
    unfold filteredUsers
    split at h
    · rfl
    · rw [Option.map_eq_some_iff]
      refine ⟨user.email, h, ?_⟩
      rw [List.filter_cons_of_pos (by simp), List.filter_nil]
  have hpage : pageOf [user] 1 1 = some [user] := by
    unfold pageOf
    rw [List.mergeSort_singleton]
    rfl
  let response : ListResponse :=
    { totalResults := 1
      startIndex := 1
      itemsPerPage := 1
      resources := [mapUserToScim user baseUrl] }
  refine ⟨response, ?_, rfl⟩
  unfold listUsers
  rw [hfound, Option.bind_eq_bind, Option.bind_some, hpage]
  rfl

end

theorem filterSound_of_letThrough {reading : Reading} {text : String}
    (h : ∀ user baseUrl, LetThrough text user →
      Satisfies reading userAttributes text (mapUserToScim user baseUrl)) :
    FilterSound reading text := by
  intro users startIndex count baseUrl response hresponse r hr
  obtain ⟨user, hthrough, rfl⟩ := exists_user_of_mem hresponse hr
  exact h user baseUrl hthrough

theorem FilterSound.satisfies {reading : Reading} {text : String} {user : ScimUser}
    (h : FilterSound reading text) (hthrough : LetThrough text user) (baseUrl : String) :
    Satisfies reading userAttributes text (mapUserToScim user baseUrl) := by
  obtain ⟨response, hresponse, hresources⟩ := listUsers_singleton hthrough baseUrl
  apply h [user] 1 1 baseUrl response hresponse
  rw [hresources]
  exact List.mem_singleton_self _

def plainFilter (value : List Char) : List Char :=
  ['u', 's', 'e', 'r', 'N', 'a', 'm', 'e', ' ', 'e', 'q', ' ', '"']++(value++['"'])

section
variable {value : List Char}

theorem strip_plainFilter (value : List Char) :
    strip (String.ofList (plainFilter value)) = String.ofList (plainFilter value) := by
  have hfront : (plainFilter value).dropWhile isSpace = plainFilter value := rfl
  have hback : ((plainFilter value).reverse).dropWhile isSpace = (plainFilter value).reverse := by
    rw [plainFilter, ← List.append_assoc, List.reverse_append]
    rfl
  rw [strip, String.toList_ofList, hfront, hback, List.reverse_reverse]

theorem recognised_plainFilter (hne : value ≠ []) (hplain : ∀ c ∈ value, plainChar c = true) :
    recognised (some (String.ofList (plainFilter value))) = some (String.ofList value) := by
  have hquote : ∀ c ∈ value, (decide (c ≠ '"')) = true := by
    intro c hc
    have hchar := hplain c hc
    simp only [plainChar, decide_eq_true_eq] at hchar
    exact decide_eq_true hchar.1
  have hgroup : quotedGroup ('"' :: (value++['"'])) = some (String.ofList value) := by
    have hrest : quotedGroup ('"' :: (value++['"'])) =
        if (value++['"']).takeWhile (· ≠ '"') ≠ [] ∧ (value++['"']).dropWhile (· ≠ '"') ≠ [] then
          some (String.ofList ((value++['"']).takeWhile (· ≠ '"')))
        else none := rfl
    rw [hrest, List.takeWhile_append_of_pos hquote, List.dropWhile_append_of_pos hquote]
    simp [hne]
  have hnonempty : String.ofList (plainFilter value) ≠ "" := by
    intro h
    have hlist := congrArg String.toList h
    rw [String.toList_ofList] at hlist
    cases hlist
  unfold recognised
  dsimp only
  rw [if_neg hnonempty, strip_plainFilter, String.toList_ofList]
  exact hgroup

theorem ofCodePoints_codePoints (text : List Char) : ofCodePoints (codePoints text) = some text := by
  induction text with
  | nil => rfl
  | cons c text ih =>
    have hvalid : c.toNat.isValidChar := c.valid
    unfold ofCodePoints at ih ⊢
    rw [codePoints, List.map_cons, List.mapM_cons, if_pos hvalid]
    rw [codePoints] at ih
    rw [ih, Char.ofNat_toNat]
    rfl

theorem parseFilter_plainFilter (hplain : ∀ c ∈ value, plainChar c = true) :
    parseFilter (String.ofList (plainFilter value)) =
      some (.compare ⟨none, "userName", none⟩ .eq (.string (String.ofList value))) := by
  have hvalue : readValue ('"' :: (value++['"'])) = some (.string (String.ofList value), []) := by
    have hrest : readValue ('"' :: (value++['"'])) = (scanString (value++['"'])).bind fun out =>
        (ofCodePoints (joinPairs out.1)).map fun s => (.string (String.ofList s), out.2) := rfl
    rw [hrest, scanString_raw hplain, Option.bind_some, joinPairs_codePoints, ofCodePoints_codePoints]
    rfl
  have hcomparison : readComparison ⟨none, "userName", none⟩
      (['e', 'q', ' ', '"']++(value++['"'])) =
      some (.compare ⟨none, "userName", none⟩ .eq (.string (String.ofList value)), []) := by
    have hrest : readComparison ⟨none, "userName", none⟩ (['e', 'q', ' ', '"']++(value++['"'])) =
        (readValue ('"' :: (value++['"']))).map fun out =>
          (.compare ⟨none, "userName", none⟩ .eq out.1, out.2) := rfl
    rw [hrest, hvalue]
    rfl
  have hunit : ∀ fuel, readUnit (fuel+1) (plainFilter value) =
      some (.compare ⟨none, "userName", none⟩ .eq (.string (String.ofList value)), []) := by
    intro fuel
    rw [← hcomparison]
    rfl
  have hlength : 3*(plainFilter value).length+3 = 3*(plainFilter value).length+2+1 := rfl
  rw [parseFilter, String.toList_ofList, hlength, readOr, readAnd, hunit]
  rfl

/-- The attribute `userName` of a user. -/
theorem userNames (user : ScimUser) (baseUrl : String) :
    simpleValues (valuesAt userAttributes ⟨none, "userName", none⟩ (mapUserToScim user baseUrl)) =
      [.str user.email] := by
  have hothers : ∀ key ∈ ["schemas", "id", "externalId", "name", "emails", "active", "roles",
      enterpriseSchema, "meta"], lowerName key ≠ lowerName "userName" := by
    decide +kernel
  have hmember : member "userName" (mapUserToScim user baseUrl) = [.str user.email] :=
    -- the attributes in front of the name are the first three
    @member_of_others "userName" _ [_, _, _] [_, _, _, _, _, _] hothers
  rw [valuesAt]
  dsimp only
  rw [List.flatMap_singleton, hmember]
  rfl

theorem plainFilter_sound (reading : Reading) (hne : value ≠ [])
    (hplain : ∀ c ∈ value, plainChar c = true) :
    FilterSound reading (String.ofList (plainFilter value)) := by
  apply filterSound_of_letThrough
  intro user baseUrl hthrough
  unfold LetThrough at hthrough
  rw [recognised_plainFilter hne hplain] at hthrough
  have hemail : user.email = String.ofList value := by
    unfold parameter at hthrough
    dsimp only at hthrough
    split_ifs at hthrough
    exact (Option.some.inj hthrough).symm
  rw [Satisfies, parseFilter_plainFilter hplain, Option.bind_some, evaluate, userNames]
  have htype : userAttributes.typeOf (AttrPath.names [] ⟨none, "userName", none⟩) = .text false := by
    decide +kernel
  rw [htype, hemail]
  simp [anyValue, compareValues, compareTexts]

end

/-- Cases are folded for ASCII letters, and dates are not read. -/
def asciiReading : Reading where
  fold text := String.ofList (text.toList.map Char.toLower)
  instant _ := none

def activeUser : ScimUser where
  id := 1
  email := "ann@x.org"
  passwordHash := ""
  firstName := "Ann"
  lastName := "Ames"
  createdAt := ⟨2021, 5, 6, 22, 41, 17, 250000, by decide, by decide, by decide, by decide, by decide,
    by decide, by decide⟩
  updatedAt := ⟨2021, 5, 6, 22, 41, 17, 250000, by decide, by decide, by decide, by decide, by decide,
    by decide, by decide⟩

end LegalForge.Scim
