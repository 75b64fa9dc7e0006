import LegalForge.ScimPatch

/-! When a PATCH over SCIM raises, and what an operation without a path leaves out. Both depend on
the operations and on the user only: whoever else there is matters for the new email alone. -/
namespace LegalForge.Scim
open Auth LastWrite

/-! Exceptions. -/

/-- The request does not raise, unless somebody has the new email. -/
def Returns (db : Db) (user : User) (ops : List Operation) : Prop :=
  (patchUser db user.id (patchBody (ops.map Json.obj))).1 ≠ .error .internal ∨
    ∃ changed, patchedUser (.arr (ops.map Json.obj)) user = some changed ∧
      changed.email ≠ user.email ∧ (getUserByEmail db changed.email).isSome

/-- A value can be stored in a text column, or is in it. -/
def Fits (limit : ℕ) (current : String) (value : Option Json) : Prop :=
  ∀ v, value = some v → v.isText current = true ∨ (textColumn limit v).isSome

/-- Every operation can be read, and the last value for each text column fits. -/
structure Storable (ops : List Operation) (user : User) : Prop where
  readable : ∀ op ∈ ops, op.readable = true
  email : Fits 255 user.email (last Operation.email ops)
  firstName : Fits 100 user.firstName (last (Operation.name "givenName") ops)
  lastName : Fits 100 user.lastName (last (Operation.name "familyName") ops)

section
variable {user : User} {ops : List Operation} {db : Db}

theorem isSome_assignedColumn_iff (limit : ℕ) (current : String) (value : Option Json) :
    (assignedColumn limit current value).isSome ↔ Fits limit current value := by
  unfold assignedColumn Fits
  cases value with
  | none => simp
  | some v =>
    dsimp only
    split_ifs with htext
    · simp [htext]
    · simp [htext]

theorem isBool_of_active {op : Operation} {v : Json} (h : op.active = some v) : ∃ b, v = .bool b := by
  have hvalue : ∀ value, activeValue value = some v → ∃ b, v = .bool b := by
    intro value hvalue
    unfold activeValue at hvalue
    split at hvalue
    · exact ⟨_, (Option.some.inj hvalue).symm⟩
    · split at hvalue
      · exact ⟨_, (Option.some.inj hvalue).symm⟩
      · cases hvalue
  unfold Operation.active replacedActive at h
  split_ifs at h
  · exact hvalue _ h
  · exact ⟨false, (Option.some.inj h).symm⟩

/-- Only booleans are assigned to `is_active`. -/
theorem isSome_assignedActive (current : Bool) (ops : List Operation) :
    (assignedActive current (last Operation.active ops)).isSome := by
  cases hlast : last Operation.active ops with
  | none => rfl
  | some v =>
    obtain ⟨op, -, hop⟩ := mem_of_last hlast
    obtain ⟨b, rfl⟩ := isBool_of_active hop
    rfl

theorem isSome_changedUser_iff {changes : UserChanges} (user : User) :
    (changedUser changes user).isSome ↔ Fits 255 user.email changes.email ∧
      Fits 100 user.firstName changes.firstName ∧ Fits 100 user.lastName changes.lastName ∧
      (assignedActive user.isActive changes.isActive).isSome ∧
      (assignedExternalId user.scimExternalId changes.scimExternalId).isSome := by
  rw [← isSome_assignedColumn_iff, ← isSome_assignedColumn_iff, ← isSome_assignedColumn_iff]
  unfold changedUser
  cases assignedColumn 255 user.email changes.email with
  | none => simp
  | some email =>
    cases assignedColumn 100 user.firstName changes.firstName with
    | none => simp
    | some firstName =>
      cases assignedColumn 100 user.lastName changes.lastName with
      | none => simp
      | some lastName =>
        cases assignedActive user.isActive changes.isActive with
        | none => simp
        | some isActive =>
          cases assignedExternalId user.scimExternalId changes.scimExternalId with
          | none => simp
          | some scimExternalId => simp

theorem isSome_patchedUser_iff : (patchedUser (.arr (ops.map Json.obj)) user).isSome ↔
    Storable ops user := by
  by_cases hreadable : ∀ op ∈ ops, op.readable = true
  · rw [patchedUser_eq hreadable, isSome_changedUser_iff]
    constructor
    · intro h
      exact ⟨hreadable, h.1, h.2.1, h.2.2.1⟩
    · intro h
      exact ⟨h.email, h.firstName, h.lastName, isSome_assignedActive _ ops, rfl⟩
  · rw [patchedUser_eq_none hreadable]
    constructor
    · intro h
      cases h
    · intro h
      exact absurd h.readable hreadable

theorem patchUser_found (hfound : getUser db user.id = some user) (items : List Json) :
    patchUser db user.id (patchBody items) =
      match patchedUser (.arr items) user with
      | none => (.error .internal, db)
      | some changed =>
        match flushUser db user changed with
        | none => (.error .internal, db)
        | some db' => (.ok changed, db') :=
  writeUser_found hfound _

theorem returns_of_isSome (hfound : getUser db user.id = some user)
    (h : (patchedUser (.arr (ops.map Json.obj)) user).isSome) : Returns db user ops := by
  obtain ⟨changed, hchanged⟩ := Option.isSome_iff_exists.mp h
  unfold Returns
  rw [patchUser_found hfound, hchanged]
  dsimp only
  cases hflush : flushUser db user changed with
  | some db' =>
    left
    intro hraised
    cases hraised
  | none =>
    right
    unfold flushUser at hflush
    split_ifs at hflush with htaken
    exact ⟨changed, rfl, htaken⟩

theorem isSome_of_returns (hfound : getUser db user.id = some user) (h : Returns db user ops) :
    (patchedUser (.arr (ops.map Json.obj)) user).isSome := by
  rcases h with hreturns | ⟨changed, hchanged, -⟩
  · rw [Option.isSome_iff_ne_none]
    intro hnone
    rw [patchUser_found hfound, hnone] at hreturns
    exact hreturns rfl
  · rw [hchanged]
    rfl

/-- A request returns, whatever else is stored, if and only if its operations can be read and what
they assign can be stored. -/
theorem returns_iff (ops : List Operation) (user : User) :
    (∀ db, getUser db user.id = some user → Returns db user ops) ↔ Storable ops user := by
  rw [← isSome_patchedUser_iff]
  constructor
  · intro h
    exact isSome_of_returns (getUser_onlyUser user) (h (onlyUser user) (getUser_onlyUser user))
  · intro h db hfound
    exact returns_of_isSome hfound h

/-- An identity provider that sends booleans as texts. -/
def textForActive : Operation :=
  [("op", .str "Replace"), ("path", .str "active"), ("value", .str "False")]

def annUser : User where
  id := 61
  email := "ann@firm.org"
  passwordHash := ""
  firstName := "Ann"
  lastName := "Ames"

theorem textForActive_raises : ¬∀ db, getUser db annUser.id = some annUser →
    Returns db annUser [textForActive] := by
  intro h
  have hfound := getUser_onlyUser annUser
  have hsome := isSome_of_returns hfound (h (onlyUser annUser) hfound)
  have hnone : patchedUser (.arr ([textForActive].map Json.obj)) annUser = none := by
    decide +kernel
  rw [hnone] at hsome
  cases hsome

end

/-! Replacements without a path. -/

/-- One replacement, with the attribute as its path. -/
def replaceAttribute (key : String) (value : Json) : Operation :=
  [("op", .str "replace"), ("path", .str key), ("value", value)]

/-- One operation for each attribute that is there. -/
def attributeOperations (value : Json) : List Operation :=
  ["active", "name", "userName", "emails"].filterMap fun key =>
    (field value key).map (replaceAttribute key)

/-- The operation does what the operations for its attributes do one after the other. -/
def SumOfAttributes (op : Operation) (user : User) : Prop :=
  ∀ db, getUser db user.id = some user →
    patchUser db user.id (patchBody [.obj op]) =
      patchUser db user.id (patchBody ((attributeOperations op.value).map Json.obj))

/-- An object whose attributes have the types they should have. -/
structure WellTyped (value : Json) : Prop where
  object : isObject value = true
  active : ∀ v, field value "active" = some v → ∃ b, v = .bool b
  name : ∀ v, field value "name" = some v → isObject v = true
  userName : ∀ v, field value "userName" = some v → ∃ s, s ≠ "" ∧ v = .str s
  emails : ∀ v, field value "emails" = some v → ∃ items, v = .arr items

/-- The last of the emails in an object: the one in `emails`, or else `userName`. -/
def lastEmail (value : Json) : Option Json :=
  (firstEmail (value.get "emails")).or (field value "userName")

/-- Which attribute comes first, and what that means for the others. Only the first one is read, so
the others must not matter. -/
def OthersIdle (value : Json) (user : User) : Prop :=
  let email := assignedColumn 255 user.email (lastEmail value)
  let firstName := assignedColumn 100 user.firstName (field (value.get "name") "givenName")
  let lastName := assignedColumn 100 user.lastName (field (value.get "name") "familyName")
  if value.has "active" then
    email = some user.email ∧ firstName = some user.firstName ∧ lastName = some user.lastName
  else if value.has "name" then firstName = none ∨ lastName = none ∨ email = some user.email
  else if value.has "userName" then
    email = assignedColumn 255 user.email (field value "userName")
  else True

section
variable {value : Json} {op : Operation} {user : User}

theorem does_of_does {name other : String} (h : op.does name = true) (hne : name ≠ other) :
    op.does other = false := by
  unfold Operation.does at h ⊢
  split at h
  · rw [of_decide_eq_true h]
    exact decide_eq_false hne
  · cases h

theorem does_replaceAttribute (key : String) (v : Json) :
    (replaceAttribute key v).does "replace" = true := by
  have hlower : lower "replace" = "replace" := by
    decide +kernel
  exact decide_eq_true hlower

theorem get_eq_of_field {key : String} {v : Json} (h : field value key = some v) :
    value.get key = v := by
  unfold field at h
  split_ifs at h
  exact Option.some.inj h

theorem get_eq_null_of_field {key : String} (h : field value key = none) :
    value.get key = .null := by
  unfold field at h
  split_ifs at h with hhas
  cases value with
  | obj fields =>
    have hnone : fields.lookup key = none := Option.not_isSome_iff_eq_none.mp hhas
    rw [Json.get, hnone]
    rfl
  | _ => rfl

theorem has_eq_isSome_field (value : Json) (key : String) :
    value.has key = (field value key).isSome := by
  unfold field
  split_ifs with h
  · simp [h]
  · simpa using h

/-- A path that is a text is the attribute it names. -/
theorem addresses_str {key : String} (hkey : key ≠ "") (v : Json) (other : String) :
    addresses (.str key) v other = decide (key = other) := by
  simp [addresses, Json.isText, Json.truthy, hkey]

theorem email_replaceAttribute (key : String) (v : Json) :
    (replaceAttribute key v).email = replacedEmail (.str key) v := by
  rw [Operation.email, if_pos (does_replaceAttribute key v)]
  rfl

theorem name_replaceAttribute (part key : String) (v : Json) :
    (replaceAttribute key v).name part = replacedName part (.str key) v := by
  rw [Operation.name, if_pos (does_replaceAttribute key v)]
  rfl

theorem active_replaceAttribute (key : String) (v : Json) :
    (replaceAttribute key v).active = replacedActive (.str key) v := by
  rw [Operation.active, if_pos (does_replaceAttribute key v)]
  rfl

/-- The last value that the operations for the attributes write, from what each of them writes. -/
theorem last_attributeOperations (write : Operation → Option Json) (value : Json) :
    last write (attributeOperations value) =
      (((field value "emails").bind fun v => write (replaceAttribute "emails" v)).or
        ((field value "userName").bind fun v => write (replaceAttribute "userName" v))).or
      (((field value "name").bind fun v => write (replaceAttribute "name" v)).or
        ((field value "active").bind fun v => write (replaceAttribute "active" v))) := by
  unfold attributeOperations
  rw [last_filterMap]
  simp only [last_cons, last_nil, Option.none_or, Option.bind_map, Option.or_assoc]
  rfl

theorem replacedEmail_str (v : Json) : replacedEmail (.str "active") v = none ∧
    replacedEmail (.str "name") v = none ∧
    replacedEmail (.str "userName") v = userNameValue v ∧
    replacedEmail (.str "emails") v = firstEmail v := by
  simp [replacedEmail, addresses_str, targetOf, Json.isText]

theorem replacedName_str (part : String) (v : Json) : replacedName part (.str "active") v = none ∧
    replacedName part (.str "name") v = field v part ∧
    replacedName part (.str "userName") v = none ∧ replacedName part (.str "emails") v = none := by
  simp [replacedName, addresses_str, targetOf, Json.isText]

theorem replacedActive_str (v : Json) : replacedActive (.str "active") v = activeValue v ∧
    replacedActive (.str "name") v = none ∧ replacedActive (.str "userName") v = none ∧
    replacedActive (.str "emails") v = none := by
  simp [replacedActive, addresses_str]

/-- An attribute that is missing reads as null. -/
theorem bind_field_eq (read : Json → Option Json) (hnull : read .null = none) (key : String) :
    (field value key).bind read = read (value.get key) := by
  cases h : field value key with
  | none =>
    rw [get_eq_null_of_field h, hnull]
    rfl
  | some v =>
    rw [get_eq_of_field h]
    rfl

theorem bind_userNameValue (h : WellTyped value) :
    (field value "userName").bind userNameValue = field value "userName" := by
  cases hfield : field value "userName" with
  | none => rfl
  | some v =>
    obtain ⟨s, hs, rfl⟩ := h.userName v hfield
    rw [Option.bind_some, userNameValue, if_pos hs]

theorem bind_activeValue (h : WellTyped value) :
    (field value "active").bind activeValue = field value "active" := by
  cases hfield : field value "active" with
  | none => rfl
  | some v =>
    obtain ⟨b, rfl⟩ := h.active v hfield
    rfl

/-- What the operations for the single attributes assign. -/
theorem assignments_attributeOperations (h : WellTyped value) :
    assignments (attributeOperations value) =
      { email := lastEmail value
        firstName := field (value.get "name") "givenName"
        lastName := field (value.get "name") "familyName"
        isActive := field value "active" } := by
  have hemail : last Operation.email (attributeOperations value) = lastEmail value := by
    simp only [last_attributeOperations, email_replaceAttribute, replacedEmail_str,
      Option.bind_fun_none, Option.or_none, bind_userNameValue h,
      bind_field_eq firstEmail rfl]
    rfl
  have hname : ∀ part, last (Operation.name part) (attributeOperations value) =
      field (value.get "name") part := by
    intro part
    simp only [last_attributeOperations, name_replaceAttribute, replacedName_str,
      Option.bind_fun_none, Option.or_none, Option.none_or,
      bind_field_eq (fun v => field v part) rfl]
  have hactive : last Operation.active (attributeOperations value) = field value "active" := by
    simp only [last_attributeOperations, active_replaceAttribute, replacedActive_str,
      Option.bind_fun_none, Option.none_or, bind_activeValue h]
  unfold assignments
  rw [hemail, hname, hname, hactive]

theorem readable_replaceAttribute (key : String) (v : Json) :
    (replaceAttribute key v).readable = replaceReadable (.str key) v := by
  have hdoes := does_replaceAttribute key v
  have hadd : (replaceAttribute key v).does "add" = false := does_of_does hdoes (by decide)
  unfold Operation.readable
  rw [hdoes, hadd, Bool.not_false, Bool.true_or, Bool.and_true]
  rfl

theorem readable_attributeOperations (h : WellTyped value) :
    ∀ op ∈ attributeOperations value, op.readable = true := by
  intro op hop
  obtain ⟨key, hkey, hmap⟩ := List.mem_filterMap.mp hop
  obtain ⟨v, hv, rfl⟩ := Option.map_eq_some_iff.mp hmap
  rw [readable_replaceAttribute]
  simp only [List.mem_cons, List.not_mem_nil, or_false] at hkey
  rcases hkey with rfl | rfl | rfl | rfl
  · obtain ⟨b, rfl⟩ := h.active v hv
    rfl
  · rfl
  · obtain ⟨s, -, rfl⟩ := h.userName v hv
    rfl
  · rfl

/-! The operation without a path. -/

theorem isText_noPath {path : Json} (hpath : path.truthy = false) {key : String}
    (hkey : key ≠ "") : path.isText key = false := by
  cases path with
  | str s =>
    have hs : s = "" := by
      simpa [Json.truthy] using hpath
    simp [Json.isText, hs, Ne.symm hkey]
  | _ => rfl

theorem addresses_noPath {path : Json} (hpath : path.truthy = false) {key : String}
    (hkey : key ≠ "") (value : Json) : addresses path value key = value.has key := by
  simp [addresses, hpath, isText_noPath hpath hkey]

theorem targetOf_noPath {path : Json} (hpath : path.truthy = false) {key : String}
    (hkey : key ≠ "") (value : Json) : targetOf path value key = value.get key := by
  simp [targetOf, isText_noPath hpath hkey]

/-- An attribute that is missing reads as null. -/
theorem get_of_not_has {key : String} (h : value.has key = false) : value.get key = .null := by
  rw [has_eq_isSome_field] at h
  apply get_eq_null_of_field
  simpa using h

section
variable {path : Json}

theorem replacedActive_noPath (hpath : path.truthy = false) (h : WellTyped value) :
    replacedActive path value = field value "active" := by
  unfold replacedActive
  rw [addresses_noPath hpath (by decide), has_eq_isSome_field]
  cases hfield : field value "active" with
  | none => rfl
  | some v =>
    obtain ⟨b, rfl⟩ := h.active v hfield
    rw [Option.isSome_some, if_pos rfl]
    have hobject := h.object
    cases value with
    | obj fields =>
      simp only [activeValue, get_eq_of_field hfield]
    | _ => cases hobject

theorem replacedName_noPath (hpath : path.truthy = false) (part : String) (value : Json) :
    replacedName part path value =
      if value.has "active" then none else field (value.get "name") part := by
  unfold replacedName
  rw [addresses_noPath hpath (by decide), addresses_noPath hpath (by decide),
    targetOf_noPath hpath (by decide)]
  cases hname : value.has "name" with
  | true => rfl
  | false =>
    rw [get_of_not_has hname]
    rfl

/-- A text that is not empty, read in an object. -/
theorem userNameValue_eq (h : WellTyped value) : userNameValue value = field value "userName" := by
  have hobject := h.object
  cases value with
  | obj fields =>
    have hread : userNameValue (.obj fields) =
        if ((Json.obj fields).get "userName").truthy then some ((Json.obj fields).get "userName")
        else none := rfl
    rw [hread]
    cases hfield : field (.obj fields) "userName" with
    | none =>
      rw [get_eq_null_of_field hfield]
      rfl
    | some v =>
      obtain ⟨s, hs, rfl⟩ := h.userName v hfield
      have htruthy : (Json.str s).truthy = true := decide_eq_true hs
      rw [get_eq_of_field hfield, if_pos htruthy]
  | _ => cases hobject

theorem replacedEmail_noPath (hpath : path.truthy = false) (h : WellTyped value) :
    replacedEmail path value =
      if value.has "active" then none
      else if value.has "name" then none
      else if value.has "userName" then field value "userName"
      else firstEmail (value.get "emails") := by
  unfold replacedEmail
  rw [addresses_noPath hpath (by decide), addresses_noPath hpath (by decide),
    addresses_noPath hpath (by decide), addresses_noPath hpath (by decide),
    targetOf_noPath hpath (by decide), userNameValue_eq h]
  cases hemails : value.has "emails" with
  | true => rfl
  | false =>
    rw [get_of_not_has hemails]
    rfl

end

theorem assignments_bulk (hop : op.does "replace" = true) (hpath : op.path.truthy = false)
    (h : WellTyped op.value) : assignments [op] =
      { email :=
          if op.value.has "active" then none
          else if op.value.has "name" then none
          else if op.value.has "userName" then field op.value "userName"
          else firstEmail (op.value.get "emails")
        firstName :=
          if op.value.has "active" then none else field (op.value.get "name") "givenName"
        lastName :=
          if op.value.has "active" then none else field (op.value.get "name") "familyName"
        isActive := field op.value "active" } := by
  unfold assignments
  simp only [last_cons, last_nil, Option.none_or]
  rw [Operation.email, if_pos hop, replacedEmail_noPath hpath h, Operation.name, if_pos hop,
    replacedName_noPath hpath, Operation.name, if_pos hop, replacedName_noPath hpath,
    Operation.active, if_pos hop, replacedActive_noPath hpath h]

theorem readable_bulk (hop : op.does "replace" = true) (hpath : op.path.truthy = false) :
    op.readable = true := by
  have hadd : op.does "add" = false := does_of_does hop (by decide)
  have htext : isStr (getText op "op") = true := by
    unfold Operation.does at hop
    cases hget : getText op "op" with
    | str text => rfl
    | _ =>
      rw [hget] at hop
      cases hop
  unfold Operation.readable replaceReadable
  rw [hadd, htext, isText_noPath hpath (by decide), isText_noPath hpath (by decide)]
  simp

theorem sumOfAttributes_rows_iff : SumOfAttributes op user ↔
    patchedUser (.arr [.obj op]) user =
      patchedUser (.arr ((attributeOperations op.value).map Json.obj)) user :=
  sameWrite_iff (fun _ => id_patchedUser) (fun _ => id_patchedUser) _

/-- The columns that are assigned, one after the other. -/
theorem changedUser_eq {changes : UserChanges} {isActive : Bool} (hrole : changes.role = none)
    (hexternal : changes.scimExternalId = none)
    (hactive : assignedActive user.isActive changes.isActive = some isActive) :
    changedUser changes user =
      (assignedColumn 255 user.email changes.email).bind fun email =>
        (assignedColumn 100 user.firstName changes.firstName).bind fun firstName =>
          (assignedColumn 100 user.lastName changes.lastName).bind fun lastName => some
            { user with
              email := email
              firstName := firstName
              lastName := lastName
              isActive := isActive } := by
  unfold changedUser
  rw [hactive, hrole, hexternal]
  rfl

theorem exists_assignedActive (h : WellTyped value) (current : Bool) :
    ∃ b, assignedActive current (field value "active") = some b := by
  cases hfield : field value "active" with
  | none => exact ⟨current, rfl⟩
  | some v =>
    obtain ⟨b, rfl⟩ := h.active v hfield
    exact ⟨b, rfl⟩

/-- The row with three texts in it, if there are all three. -/
def textRow (user : User) (isActive : Bool) (email firstName lastName : Option String) :
    Option User :=
  email.bind fun email => firstName.bind fun firstName => lastName.bind fun lastName => some
    { user with
      email := email
      firstName := firstName
      lastName := lastName
      isActive := isActive }

theorem textRow_eq_some_iff {isActive : Bool} {email firstName lastName : Option String}
    {e f l : String} : textRow user isActive (some e) (some f) (some l) =
      textRow user isActive email firstName lastName ↔
      email = some e ∧ firstName = some f ∧ lastName = some l := by
  cases email with
  | none => simp [textRow]
  | some email =>
    cases firstName with
    | none => simp [textRow]
    | some firstName =>
      cases lastName with
      | none => simp [textRow]
      | some lastName => simp [textRow, eq_comm]

theorem textRow_email_iff {isActive : Bool} {email email' firstName lastName : Option String} :
    textRow user isActive email firstName lastName =
      textRow user isActive email' firstName lastName ↔
      firstName = none ∨ lastName = none ∨ email' = email := by
  cases firstName with
  | none => cases email <;> cases email' <;> simp [textRow]
  | some firstName =>
    cases lastName with
    | none => cases email <;> cases email' <;> simp [textRow]
    | some lastName => cases email <;> cases email' <;> simp [textRow, eq_comm]

/-- An operation without a path does what the operations for its attributes do if and only if the
attributes after the first one do not matter. -/
theorem sumOfAttributes_iff (hop : op.does "replace" = true) (hpath : op.path.truthy = false)
    (h : WellTyped op.value) : SumOfAttributes op user ↔ OthersIdle op.value user := by
  have hreadable : ∀ op' ∈ [op], op'.readable = true := by
    simpa using readable_bulk hop hpath
  have hbulk : patchedUser (.arr [.obj op]) user = changedUser (assignments [op]) user :=
    patchedUser_eq hreadable
  obtain ⟨b, hb⟩ := exists_assignedActive h user.isActive
  rw [sumOfAttributes_rows_iff, hbulk, patchedUser_eq (readable_attributeOperations h),
    assignments_bulk hop hpath h, assignments_attributeOperations h,
    changedUser_eq rfl rfl hb, changedUser_eq rfl rfl hb]
  change textRow user b _ _ _ = textRow user b _ _ _ ↔ _
  unfold OthersIdle
  dsimp only
  -- the first attribute that the value has hides those after it
  cases hactive : op.value.has "active" with
  | true => exact textRow_eq_some_iff
  | false =>
    simp only [Bool.false_eq_true, if_false]
    rw [textRow_email_iff]
    cases hname : op.value.has "name" with
    | true => rfl
    | false =>
      have hnoName : ∀ part, field (op.value.get "name") part = none := by
        intro part
        rw [get_of_not_has hname]
        rfl
      have hkept : ∀ current part, assignedColumn 100 current (field (op.value.get "name") part) =
          some current := by
        intro current part
        rw [hnoName]
        rfl
      rw [hkept, hkept]
      simp only [Bool.false_eq_true, if_false, reduceCtorEq, false_or]
      cases huserName : op.value.has "userName" with
      | true => rfl
      | false =>
        have hnone : field op.value "userName" = none := by
          rw [has_eq_isSome_field] at huserName
          simpa using huserName
        rw [lastEmail, hnone, Option.or_none]
        simp

end

/-- A replacement without a path. -/
def replaceObject (fields : List (String × Json)) : Operation :=
  [("op", .str "replace"), ("value", .obj fields)]

def deactivateAndRename : List (String × Json) :=
  [("active", .bool false), ("name", .obj [("givenName", .str "Anna")])]

theorem wellTyped_deactivateAndRename : WellTyped (.obj deactivateAndRename) where
  object := rfl
  active _ h := ⟨false, (Option.some.inj h).symm⟩
  name v h := by
    rw [← Option.some.inj h]
    rfl
  userName := nofun
  emails := nofun

/-- The user is deactivated and keeps the name. -/
theorem deactivateAndRename_differs : (replaceObject deactivateAndRename).does "replace" = true ∧
    (replaceObject deactivateAndRename).path.truthy = false ∧
    WellTyped (replaceObject deactivateAndRename).value ∧
    ¬SumOfAttributes (replaceObject deactivateAndRename) annUser := by
  refine ⟨by decide +kernel, by decide +kernel, wellTyped_deactivateAndRename, ?_⟩
  intro h
  have hrows := sumOfAttributes_rows_iff.mp h
  revert hrows
  decide +kernel

/-- With the name she has already the two agree. -/
theorem sumOfAttributes_iff_annUser :
    SumOfAttributes (replaceObject deactivateAndRename) { annUser with firstName := "Anna" } := by
  have hiff : SumOfAttributes (replaceObject deactivateAndRename) { annUser with firstName := "Anna" } ↔
      _ := sumOfAttributes_iff (by decide +kernel) (by decide +kernel) wellTyped_deactivateAndRename
  apply hiff.mpr
  unfold OthersIdle
  decide +kernel

end LegalForge.Scim
