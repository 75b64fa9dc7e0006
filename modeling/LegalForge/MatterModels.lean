import LegalForge.AuthModels
import LegalForge.CalendarDays

/-! Matters and their documents. -/
namespace LegalForge.Matters

inductive MatterStatus where
  | «open»
  | pending
  | closed
  | archived
  deriving DecidableEq

def MatterStatus.value : MatterStatus → String
  | .open => "open"
  | .pending => "pending"
  | .closed => "closed"
  | .archived => "archived"

inductive LitigationType where
  | civil
  | criminal
  | family
  | corporate
  | realEstate
  | immigration
  | bankruptcy
  | tax
  | labor
  | ip
  | estate
  | personalInjury
  | other
  deriving DecidableEq

def LitigationType.value : LitigationType → String
  | .civil => "civil"
  | .criminal => "criminal"
  | .family => "family"
  | .corporate => "corporate"
  | .realEstate => "real_estate"
  | .immigration => "immigration"
  | .bankruptcy => "bankruptcy"
  | .tax => "tax"
  | .labor => "labor"
  | .ip => "intellectual_property"
  | .estate => "estate_planning"
  | .personalInjury => "personal_injury"
  | .other => "other"

def LitigationType.all : List LitigationType :=
  [.civil, .criminal, .family, .corporate, .realEstate, .immigration, .bankruptcy, .tax, .labor, .ip,
    .estate, .personalInjury, .other]

/-- `LitigationType(text)`, and `other` for a `ValueError` -/
def LitigationType.ofText (text : String) : LitigationType :=
  (LitigationType.all.find? (fun t => t.value = text)).getD .other

structure Matter where
  id : Uuid
  matterNumber : Option ℤ
  title : String
  clientId : Uuid
  status : MatterStatus := .open
  litigationType : LitigationType := .other
  jurisdiction : Option String := none
  courtName : Option String := none
  caseNumber : Option String := none
  dateOpened : Day
  dateClosed : Option Day := none
  description : Option String := none
  assignedAttorneyId : Option Uuid := none
  notes : Option String := none
  deriving DecidableEq

/-- The columns of a matter, whose number must be there. -/
structure MatterResponse where
  matter : Matter
  number_ne : matter.matterNumber ≠ none

/-- `MatterResponse.model_validate(m)` -/
def matterResponse (m : Matter) : Except HttpError MatterResponse :=
  if h : m.matterNumber ≠ none then .ok ⟨m, h⟩ else .error .internal

structure Document where
  id : Uuid
  matterId : Uuid
  uploadedBy : Uuid
  filename : String
  storageKey : String
  mimeType : String
  sizeBytes : ℤ
  version : ℤ := 1
  description : Option String := none
  deriving DecidableEq

end LegalForge.Matters
