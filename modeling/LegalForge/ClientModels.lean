import LegalForge.Deadlines

/-! The clients of the firm and their numbers. -/
namespace LegalForge.Clients
open Auth
open Deadlines (BoundedText boundedVarchar nullable textColumn)

inductive ClientType where
  | individual
  | organization
  deriving DecidableEq

inductive ClientStatus where
  | active
  | inactive
  | archived
  deriving DecidableEq

structure Client where
  id : Uuid
  clientNumber : Option ℤ := none
  clientType : ClientType := .individual
  firstName : Option String := none
  lastName : Option String := none
  organizationName : Option String := none
  email : Option String := none
  phone : Option String := none
  addressJson : Option Json := none
  notes : Option String := none
  status : ClientStatus := .active
  createdBy : Option Uuid := none

structure ClientCreate where
  clientType : ClientType := .individual
  firstName : Option (BoundedText 0 100) := none
  lastName : Option (BoundedText 0 100) := none
  organizationName : Option (BoundedText 0 255) := none
  email : Option String := none
  phone : Option (BoundedText 0 50) := none
  addressJson : Option Json := none
  notes : Option String := none
  status : ClientStatus := .active

/-- The row of a new client, whose number is set after it is flushed. -/
def newClient (clientId createdBy : Uuid) (data : ClientCreate) : Option Client := do
  let firstName ← nullable boundedVarchar data.firstName
  let lastName ← nullable boundedVarchar data.lastName
  let organizationName ← nullable boundedVarchar data.organizationName
  let email ← nullable (varchar 255) data.email
  let phone ← nullable boundedVarchar data.phone
  let notes ← nullable textColumn data.notes
  some
    { id := clientId
      clientType := data.clientType
      firstName := firstName
      lastName := lastName
      organizationName := organizationName
      email := email
      phone := phone
      addressJson := data.addressJson
      notes := notes
      status := data.status
      createdBy := some createdBy }

/-- `coalesce(max(client_number), 1000)+1` -/
def nextClientNumber (clients : List Client) : ℤ :=
  (clients.filterMap Client.clientNumber).max?.getD 1000+1

end LegalForge.Clients
