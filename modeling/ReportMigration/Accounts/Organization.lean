import ReportMigration.Deployment
import ReportMigration.Text.Like
/-!
Organisations: the check for one that is there already, registration, and the name of one.
-/
namespace ReportMigration

/-- What is given for a new organisation. -/
structure OrganizationForm where
  audit : Audit := {}
  id : Option Id := none
  name : Option String := none
  credits : Option Int := none
  contactPersonName : Option String := none
  mobileNumber : Option String := none
  address : Option String := none
  serviceType : Option String := none

namespace Database

/-- An organisation with a mobile number or with a name that is like the given one. -/
def organizationLike? (db : Database) (mobileNumber name : Option String) : Option Organization :=
  db.organizations.find? fun o =>
    some o.mobileNumber = mobileNumber || name.any (Text.like o.name ·)

/-- The name of an organisation, for use in messages and paths. -/
def organizationName (db : Database) (i : Option Id) : String :=
  match db.organizations.find? fun o => some o.id = i with
  | some o => o.name
  | none => "unknown"

end Database

/-- The organisation that a form makes; it has no credits unless some are given. -/
def OrganizationForm.toOrganization (form : OrganizationForm) (id : Id) :
    Except Fault Organization := do
  let name ← required "organization_details" "name" form.name
  let person ← required "organization_details" "contact_person_name" form.contactPersonName
  let mobile ← required "organization_details" "mobile_number" form.mobileNumber
  let credits := some (form.credits.getD 0)
  storable credits
  return {
    audit := form.audit
    id := id
    name := name
    credits := credits
    contactPersonName := person
    mobileNumber := mobile
    address := form.address
    serviceType := form.serviceType }

/-- Registers an organisation. -/
def createOrganization (form : OrganizationForm) : Op Organization := Op.transaction do
  let id ← match form.id with
    | some id => pure id
    | none => Op.drawId
  let organization ← Op.ofExcept (form.toOrganization id)
  Op.write (·.addOrganization organization)
  return organization

end ReportMigration
