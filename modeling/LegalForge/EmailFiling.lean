import LegalForge.AccessControl
import LegalForge.KeyedTable
import LegalForge.PythonText
import LegalForge.ReadCommitted

/-! Emails filed to matters, and the matters suggested for an address. Filing is a loop of
statements over the addresses of the email, which concurrent requests interleave. -/
namespace LegalForge.Emails
open Auth ReadCommitted
open Access (scalarOneOrNone)
open Deadlines (BoundedText intColumn nullable textColumn)

structure FiledEmail where
  id : Uuid
  matterId : Uuid
  filedBy : Uuid
  fromAddress : Option String := none
  toAddresses : Option (List String) := none
  ccAddresses : Option (List String) := none
  bccAddresses : Option (List String) := none

structure EmailMatterSuggestion where
  id : Uuid
  emailAddress : String
  matterId : Uuid
  confidence : ℚ := 1
  lastUsed : Instant
  useCount : ℤ := 1

structure FileEmailCreate where
  matterId : Uuid
  fromAddress : Option (BoundedText 0 500) := none
  toAddresses : Option (List String) := none
  ccAddresses : Option (List String) := none
  bccAddresses : Option (List String) := none

structure MailDb where
  matters : List Uuid
  emails : List FiledEmail
  suggestions : List EmailMatterSuggestion

/-- `all_addresses` of `file_email` -/
def FiledEmail.allAddresses (email : FiledEmail) : List String :=
  (email.fromAddress.filter (· ≠ "")).toList++email.toAddresses.getD []++
    email.ccAddresses.getD []++email.bccAddresses.getD []

/-- What the loop looks up, in its order: `addr.strip().lower()`, where it is not blank. -/
def FiledEmail.addresses (lower : String → String) (email : FiledEmail) : List String :=
  (email.allAddresses.map fun addr => lower (Text.strip addr)).filter (· ≠ "")

/-- A suggestion that the session has added, or changed since it found it with a count. -/
structure Written where
  row : EmailMatterSuggestion
  loaded : Option ℤ

def Written.id (e : Written) : Uuid := e.row.id

/-- An email, and the suggestions written for it. -/
structure Filing where
  email : FiledEmail
  own : List Written

/-- Where one request stands. -/
inductive Filer where
  | idle
  /-- The addresses are still to be looked up. -/
  | looping (w : Filing) (rest : List String)
  /-- An address is looked up. What becomes of it is not flushed. -/
  | found (w : Filing) (addr : String) (row : Option EmailMatterSuggestion) (rest : List String)
  | failed (error : HttpError)

inductive MailStatement where
  /-- INSERT of the email, under the id it is given. -/
  | fileEmail (emailId filedBy : Uuid) (data : FileEmailCreate)
  | lookUp
  /-- INSERT of a suggestion under a new id, or UPDATE of the one that was found. -/
  | flush (newId : Uuid) (now : Instant)

/-- Rows that a statement locks. -/
inductive MailKey where
  | email (id : Uuid)
  | suggestion (id : Uuid)
  deriving DecidableEq

def newEmail (emailId filedBy : Uuid) (data : FileEmailCreate) : Option FiledEmail := do
  let fromAddress ← nullable textColumn (data.fromAddress.map BoundedText.text)
  some
    { id := emailId
      matterId := data.matterId
      filedBy := filedBy
      fromAddress := fromAddress
      toAddresses := data.toAddresses
      ccAddresses := data.ccAddresses
      bccAddresses := data.bccAddresses }

/-- The suggestions of an address for a matter. -/
def suggestionsOf (rows : List EmailMatterSuggestion) (addr : String) (matterId : Uuid) :
    List EmailMatterSuggestion :=
  rows.filter fun row => row.emailAddress = addr ∧ row.matterId = matterId

/-- A committed row with the columns the session has updated. -/
def Filing.updated (w : Filing) (row : EmailMatterSuggestion) : EmailMatterSuggestion :=
  match Table.find Written.id row.id w.own with
  | none => row
  | some e => { row with lastUsed := e.row.lastUsed, useCount := e.row.useCount }

def Filing.added (w : Filing) : List EmailMatterSuggestion :=
  (w.own.filter fun e => e.loaded.isNone).map Written.row

/-- The suggestions as the statements of the session see them. -/
def Filing.view (w : Filing) (rows : List EmailMatterSuggestion) : List EmailMatterSuggestion :=
  rows.map w.updated++w.added

/-- `suggestion.use_count += 1` with the time of use -/
def EmailMatterSuggestion.use (count : ℤ) (now : Instant) (row : EmailMatterSuggestion) :
    EmailMatterSuggestion :=
  { row with lastUsed := now, useCount := count }

def Written.use (count : ℤ) (now : Instant) (e : Written) : Written :=
  { e with row := e.row.use count now }

def Filing.touch (w : Filing) (row : EmailMatterSuggestion) (count : ℤ) (now : Instant) : Filing :=
  match Table.find Written.id row.id w.own with
  | none => { w with own := w.own++[⟨row.use count now, some row.useCount⟩] }
  | some _ => { w with own := Table.alter Written.id row.id (Written.use count now) w.own }

def Filing.add (w : Filing) (row : EmailMatterSuggestion) : Filing :=
  { w with own := w.own++[⟨row, none⟩] }

/-- The rows of a request that commits. -/
def filed (db : MailDb) (w : Filing) : MailDb where
  matters := db.matters
  emails := db.emails++[w.email]
  suggestions := w.view db.suggestions

/-- `file_email` with `_update_matter_suggestions`, one statement after the other. -/
def fileProgram (lower : String → String) : Program MailDb Filer MailStatement MailKey where
  locks _ m a :=
    match m, a with
    | .idle, .fileEmail emailId _ _ => [.email emailId]
    | .found _ _ none _, .flush newId _ => [.suggestion newId]
    | .found _ _ (some row) _, .flush _ _ => [.suggestion row.id]
    | _, _ => []
  stmt db m a :=
    match m, a with
    | .idle, .fileEmail emailId filedBy data =>
      match newEmail emailId filedBy data with
      | none => some (.failed .internal)
      | some email =>
        if email.matterId ∈ db.matters ∧ email.id ∉ db.emails.map FiledEmail.id then
          some (.looping ⟨email, []⟩ (email.addresses lower))
        else some (.failed .internal)
    | .looping w (addr :: rest), .lookUp =>
      match textColumn addr with
      | none => some (.failed .internal)
      | some addr =>
        match scalarOneOrNone (suggestionsOf (w.view db.suggestions) addr w.email.matterId) with
        | .error error => some (.failed error)
        | .ok row => some (.found w addr row rest)
    | .found w addr none rest, .flush newId now =>
      -- the column cuts spaces off of a longer text, but this text is trimmed
      if addr.length ≤ 255 ∧ newId ∉ (w.view db.suggestions).map EmailMatterSuggestion.id then
        some (.looping (w.add
          { id := newId
            emailAddress := addr
            matterId := w.email.matterId
            lastUsed := now }) rest)
      else some (.failed .internal)
    | .found w _ (some row) rest, .flush _ now =>
      match intColumn (row.useCount+1) with
      | none => some (.failed .internal)
      | some count => some (.looping (w.touch row count now) rest)
    | _, _ => none
  publish db m :=
    match m with
    | .looping w [] => some (filed db w, .idle)
    | _ => none
  abort _ := .idle

end LegalForge.Emails
