import LegalForge.AccountEvents
import LegalForge.LastWrite

/-! PATCH over SCIM, operation by operation: what one operation assigns, which lists of operations
can be stored, and which attributes an operation without a path reaches. -/
namespace LegalForge.Scim
open Auth LastWrite

/-- The body of a PATCH. -/
def patchBody (ops : List Json) : Json := .obj [("Operations", .arr ops)]

/-! The row that a request computes, and the tables it is written to. -/

/-- Tables with one user. -/
def onlyUser (user : User) : Db := ⟨[user], [], [], []⟩

section
variable {user changed : User} {row row' : User → Option User}

theorem getUser_onlyUser (user : User) : getUser (onlyUser user) user.id = some user := by
  simp [getUser, onlyUser, Table.find]

theorem flushUser_onlyUser (hid : changed.id = user.id) :
    flushUser (onlyUser user) user changed = some (onlyUser changed) := by
  have hfree : ¬(changed.email ≠ user.email ∧
      (getUserByEmail (onlyUser user) changed.email).isSome) := by
    intro h
    obtain ⟨hne, hsome⟩ := h
    have hnobody : getUserByEmail (onlyUser user) changed.email = none := by
      simp [getUserByEmail, onlyUser, Table.find, Ne.symm hne]
    rw [hnobody] at hsome
    cases hsome
  rw [flushUser, if_neg hfree]
  simp [setUser, onlyUser, Table.alter, hid]

theorem writeUser_found {db : Db} (hfound : getUser db user.id = some user) (missing : String) :
    writeUser db user.id missing row =
      match row user with
      | none => (.error .internal, db)
      | some changed =>
        match flushUser db user changed with
        | none => (.error .internal, db)
        | some db' => (.ok changed, db') := by
  unfold writeUser
  generalize getUser db user.id = found at hfound ⊢
  subst hfound
  rfl

/-- Nobody else has the new email in tables with one user. -/
theorem writeUser_onlyUser (hrow : ∀ changed, row user = some changed → changed.id = user.id)
    (missing : String) : writeUser (onlyUser user) user.id missing row =
      match row user with
      | none => (.error .internal, onlyUser user)
      | some changed => (.ok changed, onlyUser changed) := by
  rw [writeUser_found (getUser_onlyUser user)]
  cases h : row user with
  | none => rfl
  | some changed =>
    dsimp only
    rw [flushUser_onlyUser (hrow changed h)]

/-- Two requests have the same effect in all tables if and only if they compute the same row. -/
theorem sameWrite_iff (hrow : ∀ changed, row user = some changed → changed.id = user.id)
    (hrow' : ∀ changed, row' user = some changed → changed.id = user.id) (missing : String) :
    (∀ db, getUser db user.id = some user →
      writeUser db user.id missing row = writeUser db user.id missing row') ↔
      row user = row' user := by
  constructor
  · intro h
    have hsame := h (onlyUser user) (getUser_onlyUser user)
    rw [writeUser_onlyUser hrow, writeUser_onlyUser hrow'] at hsame
    cases hleft : row user with
    | none =>
      cases hright : row' user with
      | none => rfl
      | some changed' =>
        rw [hleft, hright] at hsame
        cases (Prod.mk.inj hsame).1
    | some changed =>
      cases hright : row' user with
      | none =>
        rw [hleft, hright] at hsame
        cases (Prod.mk.inj hsame).1
      | some changed' =>
        rw [hleft, hright] at hsame
        have hchanged : changed = changed' := Except.ok.inj (Prod.mk.inj hsame).1
        rw [hchanged]
  · intro h db hfound
    rw [writeUser_found hfound, writeUser_found hfound, h]

end

/-! What one operation assigns. -/

/-- One entry of `Operations`: a dictionary. -/
abbrev Operation := List (String × Json)

namespace Operation

def path (op : Operation) : Json := getText op "path"

def value (op : Operation) : Json := (Json.obj op).get "value"

/-- `op.get("op", "").lower() == name` -/
def does (op : Operation) (name : String) : Bool :=
  match getText op "op" with
  | .str text => lower text = name
  | _ => false

end Operation

/-- The value of the first of a list of emails. -/
def firstEmail : Json → Option Json
  | .arr (e :: _) => field e "value"
  | _ => none

/-- What is replaced: the value, or its attribute. -/
def targetOf (path value : Json) (key : String) : Json :=
  if path.isText key then value else value.get key

def activeValue : Json → Option Json
  | .bool b => some (.bool b)
  | value =>
    match value.get "active" with
    | .bool b => some (.bool b)
    | _ => none

def replacedActive (path value : Json) : Option Json :=
  if addresses path value "active" then activeValue value else none

/-- `key` is the first or the last name. -/
def replacedName (key : String) (path value : Json) : Option Json :=
  if addresses path value "active" then none
  else if addresses path value "name" then field (targetOf path value "name") key
  else none

def userNameValue : Json → Option Json
  | .str s => if s ≠ "" then some (.str s) else none
  | value => if (value.get "userName").truthy then some (value.get "userName") else none

def replacedEmail (path value : Json) : Option Json :=
  if addresses path value "active" then none
  else if addresses path value "name" then none
  else if addresses path value "userName" then userNameValue value
  else if addresses path value "emails" then firstEmail (targetOf path value "emails")
  else none

/-- The email of one entry that is added. -/
def primaryValue (e : Json) : Option Json :=
  if (e.get "primary").truthy then field e "value" else none

def addedEmail (path value : Json) : Option Json :=
  if path.isText "emails" then
    match value with
    | .arr emails => last primaryValue emails
    | _ => none
  else none

namespace Operation

def email (op : Operation) : Option Json :=
  if op.does "replace" then replacedEmail op.path op.value
  else if op.does "add" then addedEmail op.path op.value
  else none

def name (key : String) (op : Operation) : Option Json :=
  if op.does "replace" then replacedName key op.path op.value else none

def active (op : Operation) : Option Json :=
  if op.does "replace" then replacedActive op.path op.value
  else if op.does "remove" && op.path.isText "active" then some (.bool false)
  else none

end Operation

/-! Which operations raise. -/

def isObject : Json → Bool
  | .obj _ => true
  | _ => false

def isBool : Json → Bool
  | .bool _ => true
  | _ => false

def isStr : Json → Bool
  | .str _ => true
  | _ => false

/-- The values that a replacement at `path` can work with: for `active` a boolean or an object, for
`userName` a text or an object, elsewhere any. -/
def replaceReadable (path value : Json) : Bool :=
  (!path.isText "active" || isBool value || isObject value) &&
    (!path.isText "userName" || isStr value || isObject value)

/-- A primary email has a value. -/
def addedReadable (e : Json) : Bool :=
  !(e.get "primary").truthy || e.has "value"

def addReadable (path value : Json) : Bool :=
  match value with
  | .arr emails => !path.isText "emails" || emails.all addedReadable
  | _ => true

/-- `op` is a text, and the value can be worked with at the path. -/
def Operation.readable (op : Operation) : Bool :=
  isStr (getText op "op") && (!op.does "replace" || replaceReadable op.path op.value) &&
    (!op.does "add" || addReadable op.path op.value)

section
variable {changes : UserChanges} {path value : Json}

theorem patchEmails_eq (changes : UserChanges) (emails : Json) : patchEmails changes emails =
    { changes with email := (firstEmail emails).or changes.email } := by
  cases emails with
  | arr items =>
    cases items with
    | nil => rfl
    | cons e items =>
      rw [patchEmails, firstEmail, field]
      split_ifs <;> rfl
  | _ => rfl

theorem addresses_of_isText {key : String} (h : path.isText key = true) :
    addresses path value key = true := by
  rw [addresses, h, Bool.true_or]

/-- What the operation says instead of its path is there. -/
theorem isObject_of_addresses {key : String} (h : addresses path value key = true)
    (hpath : path.isText key = false) : isObject value = true := by
  rw [addresses, hpath, Bool.false_or, Bool.and_eq_true] at h
  cases value with
  | obj fields => rfl
  | _ => cases h.2

/-- A path names one attribute. -/
theorem not_addresses_of_isText {key other : String} (h : path.isText key = true)
    (hother : key ≠ other) (hkey : key ≠ "") : addresses path value other = false := by
  cases path with
  | str s =>
    have hs : s = key := of_decide_eq_true h
    simp [addresses, Json.isText, Json.truthy, hs, hother, hkey]
  | _ => cases h

/-- A replacement that is read assigns the values above. The cases are those of the source. -/
theorem patchReplace_eq (h : replaceReadable path value = true) :
    patchReplace changes path value = some { changes with
      email := (replacedEmail path value).or changes.email
      firstName := (replacedName "givenName" path value).or changes.firstName
      lastName := (replacedName "familyName" path value).or changes.lastName
      isActive := (replacedActive path value).or changes.isActive } := by
  obtain ⟨hactive, huserName⟩ := Bool.and_eq_true_iff.mp h
  unfold patchReplace replacedEmail replacedName replacedActive
  -- one attribute after the other, as the source asks for them
  cases h1 : addresses path value "active" with
  | true =>
    simp only [if_true, Option.none_or]
    cases value with
    | bool b => rfl
    | obj fields =>
      simp only [activeValue]
      cases (Json.obj fields).get "active" <;> rfl
    | _ =>
      have hpath : path.isText "active" = false := by
        simpa [isBool, isObject] using hactive
      cases isObject_of_addresses h1 hpath
  | false =>
    simp only [Bool.false_eq_true, if_false, Option.none_or]
    cases h2 : addresses path value "name" with
    | true => rfl
    | false =>
      simp only [Bool.false_eq_true, if_false, Option.none_or]
      cases h3 : addresses path value "userName" with
      | true =>
        simp only [if_true]
        cases value with
        | str s =>
          simp only [userNameValue]
          split_ifs <;> rfl
        | obj fields =>
          simp only [userNameValue]
          split_ifs <;> rfl
        | _ =>
          have hpath : path.isText "userName" = false := by
            simpa [isStr, isObject] using huserName
          cases isObject_of_addresses h3 hpath
      | false =>
        simp only [Bool.false_eq_true, if_false]
        cases h4 : addresses path value "emails" with
        | true =>
          simp only [if_true, patchEmails_eq]
          rfl
        | false =>
          simp only [Bool.false_eq_true, if_false, Option.none_or]
          cases value with
          | obj fields =>
            dsimp only
            split_ifs with hpath
            · rfl
            · rw [patchBulk_of_not_addresses (Bool.eq_false_of_not_eq_true hpath) h1 h2 h3 h4]
          | _ => rfl

/-- A value of another type has no `get`. -/
theorem patchReplace_eq_none (h : replaceReadable path value = false) :
    patchReplace changes path value = none := by
  rcases Bool.and_eq_false_iff.mp h with hactive | huserName
  · obtain ⟨⟨hpath, hbool⟩, hobject⟩ : (path.isText "active" = true ∧ isBool value = false) ∧
        isObject value = false := by
      simpa using hactive
    unfold patchReplace
    rw [if_pos (addresses_of_isText hpath)]
    cases value with
    | bool b => cases hbool
    | obj fields => cases hobject
    | _ => rfl
  · obtain ⟨⟨hpath, hstr⟩, hobject⟩ : (path.isText "userName" = true ∧ isStr value = false) ∧
        isObject value = false := by
      simpa using huserName
    have hactive : addresses path value "active" = false :=
      not_addresses_of_isText hpath (by decide) (by decide)
    have hname : addresses path value "name" = false :=
      not_addresses_of_isText hpath (by decide) (by decide)
    unfold patchReplace
    rw [hactive, hname, addresses_of_isText hpath]
    cases value with
    | str s => cases hstr
    | obj fields => cases hobject
    | _ => rfl

/-! Emails that are added. -/

theorem isSome_patchAddEmail_iff (changes : UserChanges) (e : Json) :
    (patchAddEmail changes e).isSome ↔ addedReadable e = true := by
  unfold patchAddEmail addedReadable
  split_ifs with hprimary hvalue
  · simp [hvalue]
  · simp [hprimary, hvalue]
  · simp [hprimary]

theorem patchAddEmail_eq {changes' : UserChanges} {e : Json}
    (h : patchAddEmail changes e = some changes') :
    changes' = { changes with email := (primaryValue e).or changes.email } := by
  unfold patchAddEmail at h
  unfold primaryValue field
  split_ifs at h with hprimary hvalue
  · rw [if_pos hprimary, if_pos hvalue]
    exact (Option.some.inj h).symm
  · rw [if_neg hprimary]
    exact (Option.some.inj h).symm

/-- Only the email is written, entry by entry. -/
theorem patchAddEmails_eq {changes' : UserChanges} {emails : List Json}
    (h : emails.foldlM patchAddEmail changes = some changes') :
    changes' = { changes with email := (last primaryValue emails).or changes.email } := by
  induction emails generalizing changes with
  | nil => exact (Option.some.inj h).symm
  | cons e emails ih =>
    rw [List.foldlM_cons] at h
    obtain ⟨next, hnext, hrest⟩ := Option.bind_eq_some_iff.mp h
    rw [ih hrest, patchAddEmail_eq hnext, last_cons_or]

theorem isSome_patchAdd_iff : (patchAdd changes path value).isSome ↔ addReadable path value = true := by
  unfold patchAdd addReadable
  cases hpath : path.isText "emails" with
  | false => cases value <;> simp
  | true =>
    cases value with
    | arr emails =>
      have hfold := isSome_foldlM_iff isSome_patchAddEmail_iff emails changes
      simpa using hfold
    | _ => simp

theorem patchAdd_eq {changes' : UserChanges} (h : patchAdd changes path value = some changes') :
    changes' = { changes with email := (addedEmail path value).or changes.email } := by
  unfold patchAdd at h
  unfold addedEmail
  split_ifs at h with hpath
  · rw [if_pos hpath]
    cases value with
    | arr emails => exact patchAddEmails_eq h
    | _ => exact (Option.some.inj h).symm
  · rw [if_neg hpath]
    exact (Option.some.inj h).symm

/-! One operation, and a list of them. -/

/-- The changes with what the operation assigns over them. -/
def Operation.assign (op : Operation) (changes : UserChanges) : UserChanges :=
  { changes with
    email := op.email.or changes.email
    firstName := (op.name "givenName").or changes.firstName
    lastName := (op.name "familyName").or changes.lastName
    isActive := op.active.or changes.isActive }

section
variable {op : Operation} {text : String}

theorem does_of_text (h : getText op "op" = .str text) (name : String) :
    op.does name = decide (lower text = name) := by
  unfold Operation.does
  rw [h]

theorem patchOperation_of_text (h : getText op "op" = .str text) :
    patchOperation changes (.obj op) =
      if lower text = "replace" then patchReplace changes op.path op.value
      else if lower text = "add" then patchAdd changes op.path op.value
      else if lower text = "remove" ∧ op.path.isText "active" then
        some { changes with isActive := some (.bool false) }
      else some changes := by
  unfold patchOperation
  dsimp only
  rw [h]
  rfl

theorem patchOperation_of_not_text (h : isStr (getText op "op") = false) :
    patchOperation changes (.obj op) = none := by
  unfold patchOperation
  cases hop : getText op "op" with
  | str text =>
    rw [hop] at h
    cases h
  | _ =>
    dsimp only
    rw [hop]

theorem isSome_patchOperation_iff (changes : UserChanges) (op : Operation) :
    (patchOperation changes (.obj op)).isSome ↔ op.readable = true := by
  unfold Operation.readable
  cases hop : getText op "op" with
  | str text =>
    rw [patchOperation_of_text hop, does_of_text hop, does_of_text hop]
    by_cases hreplace : lower text = "replace"
    · rw [if_pos hreplace]
      cases hreadable : replaceReadable op.path op.value with
      | true => simp [patchReplace_eq hreadable, hreplace, isStr]
      | false => simp [patchReplace_eq_none hreadable, hreplace]
    · rw [if_neg hreplace]
      by_cases hadd : lower text = "add"
      · rw [if_pos hadd, isSome_patchAdd_iff]
        simp [hadd, isStr]
      · rw [if_neg hadd]
        split_ifs <;> simp [hreplace, hadd, isStr]
  | _ =>
    rw [patchOperation_of_not_text (by rw [hop]; rfl)]
    simp [isStr]

/-- An operation that does not raise assigns what is said above. -/
theorem patchOperation_eq {changes' : UserChanges}
    (h : patchOperation changes (.obj op) = some changes') : changes' = op.assign changes := by
  cases hop : getText op "op" with
  | str text =>
    rw [patchOperation_of_text hop] at h
    unfold Operation.assign Operation.email Operation.name Operation.active
    simp only [does_of_text hop, decide_eq_true_eq]
    -- the operations in the order in which the source asks for them
    by_cases hreplace : lower text = "replace"
    · rw [if_pos hreplace] at h
      simp only [if_pos hreplace]
      cases hreadable : replaceReadable op.path op.value with
      | true =>
        rw [patchReplace_eq hreadable] at h
        exact (Option.some.inj h).symm
      | false =>
        rw [patchReplace_eq_none hreadable] at h
        cases h
    · rw [if_neg hreplace] at h
      simp only [if_neg hreplace, Option.none_or]
      by_cases hadd : lower text = "add"
      · rw [if_pos hadd] at h
        have hremove : ¬lower text = "remove" := by
          rw [hadd]
          decide
        rw [patchAdd_eq h]
        simp [hadd]
      · rw [if_neg hadd] at h
        simp only [if_neg hadd, Option.none_or]
        split_ifs at h with hremove
        · rw [← Option.some.inj h]
          simp [hremove.1, hremove.2]
        · rw [← Option.some.inj h]
          rw [not_and] at hremove
          have hother : (decide (lower text = "remove") && op.path.isText "active") = false := by
            simpa using hremove
          rw [hother]
          rfl
  | _ =>
    rw [patchOperation_of_not_text (by rw [hop]; rfl)] at h
    cases h

/-- After a list of operations every attribute has the last value assigned to it. -/
theorem patchOperations_eq {ops : List Operation} {changes' : UserChanges}
    (h : (ops.map Json.obj).foldlM patchOperation changes = some changes') :
    changes' = { changes with
      email := (last Operation.email ops).or changes.email
      firstName := (last (Operation.name "givenName") ops).or changes.firstName
      lastName := (last (Operation.name "familyName") ops).or changes.lastName
      isActive := (last Operation.active ops).or changes.isActive } := by
  induction ops generalizing changes with
  | nil => exact (Option.some.inj h).symm
  | cons op ops ih =>
    rw [List.map_cons, List.foldlM_cons] at h
    obtain ⟨next, hnext, hrest⟩ := Option.bind_eq_some_iff.mp h
    rw [ih hrest, patchOperation_eq hnext]
    simp only [last_cons_or]
    rfl

theorem isSome_patchOperations_iff (changes : UserChanges) (ops : List Operation) :
    ((ops.map Json.obj).foldlM patchOperation changes).isSome ↔
      ∀ op ∈ ops, op.readable = true := by
  rw [List.foldlM_map]
  exact isSome_foldlM_iff isSome_patchOperation_iff ops changes

/-- What a list of operations assigns. -/
def assignments (ops : List Operation) : UserChanges where
  email := last Operation.email ops
  firstName := last (Operation.name "givenName") ops
  lastName := last (Operation.name "familyName") ops
  isActive := last Operation.active ops

theorem patchedUser_eq {ops : List Operation} {user : User} (h : ∀ op ∈ ops, op.readable = true) :
    patchedUser (.arr (ops.map Json.obj)) user = changedUser (assignments ops) user := by
  have hsome := (isSome_patchOperations_iff {} ops).mpr h
  obtain ⟨changes, hchanges⟩ := Option.isSome_iff_exists.mp hsome
  have hassigned : changes = assignments ops := by
    rw [patchOperations_eq hchanges]
    simp only [Option.or_none]
    rfl
  unfold patchedUser operations
  rw [Option.bind_eq_bind, Option.bind_some, hchanges, ← hassigned]
  rfl

theorem patchedUser_eq_none {ops : List Operation} {user : User}
    (h : ¬∀ op ∈ ops, op.readable = true) : patchedUser (.arr (ops.map Json.obj)) user = none := by
  rw [← isSome_patchOperations_iff {} ops, Option.not_isSome_iff_eq_none] at h
  unfold patchedUser operations
  rw [Option.bind_eq_bind, Option.bind_some, h]
  rfl

end

end

end LegalForge.Scim
