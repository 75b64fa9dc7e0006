import LegalForge.ClientModels
import LegalForge.MatterService

/-! Leads, and what they are converted into. -/
namespace LegalForge.Intake
open Auth Clients Matters
open Deadlines (BoundedText nullable)

inductive PipelineStage where
  | new
  | contacted
  | qualified
  | proposalSent
  | retained
  | declined
  | lost
  deriving DecidableEq

structure Lead where
  id : Uuid
  firstName : String
  lastName : String
  email : Option String := none
  phone : Option String := none
  organization : Option String := none
  stage : PipelineStage := .new
  notes : Option String := none
  convertedClientId : Option Uuid := none
  convertedMatterId : Option Uuid := none
  convertedAt : Option Instant := none
  deriving DecidableEq

structure ConvertLeadRequest where
  clientType : String := "individual"
  organizationName : Option (BoundedText 0 255) := none
  createMatter : Bool := false
  matterTitle : Option (BoundedText 0 500) := none
  litigationType : Option String := some "other"
  jurisdiction : Option (BoundedText 0 255) := none

/-- `data.organization_name or lead.organization` -/
def ConvertLeadRequest.organization (data : ConvertLeadRequest) (lead : Lead) : Option String :=
  match data.organizationName with
  | some name => if name.text = "" then lead.organization else some name.text
  | none => lead.organization

/-- The client a lead becomes, without its number. -/
def leadClient (lead : Lead) (data : ConvertLeadRequest) (clientId createdBy : Uuid) :
    Option Client := do
  let organizationName ← nullable (varchar 255) (data.organization lead)
  some
    { id := clientId
      clientType := if data.clientType = "organization" then .organization else .individual
      firstName := some lead.firstName
      lastName := some lead.lastName
      organizationName := organizationName
      email := lead.email
      phone := lead.phone
      notes := lead.notes
      createdBy := some createdBy }

/-- The title of the matter to create, if there is one to create. -/
def ConvertLeadRequest.matter? (data : ConvertLeadRequest) : Option String :=
  if data.createMatter then (data.matterTitle.map BoundedText.text).filter fun title => title ≠ ""
  else none

/-- The matter of a converted lead, without its number. -/
def leadMatter (data : ConvertLeadRequest) (title : String) (matterId clientId : Uuid) (today : Day) :
    Option Matter :=
  Access.convertedMatter matterId clientId today title (data.jurisdiction.map BoundedText.text)
    data.litigationType

end LegalForge.Intake
