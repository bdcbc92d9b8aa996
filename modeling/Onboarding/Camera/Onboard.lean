import Onboarding.Camera.Session
import Onboarding.Flow.Calls

/-! The flows of cameras. A device is onboarded by logging in to it: on failure the form comes
back with the error and with what was submitted, on success the device becomes an entry, or ends
the flow when it is one already. A reauth flow gives the entry its new credentials. The options
flow chooses the streaming protocol. -/
namespace Onboarding.Camera

/-- What an onboarding flow keeps for the next form. -/
structure Draft where
  host : Option String := none
  username : String := defaultUsername
  password : Option String := none
  reauth : Bool := false
  deriving DecidableEq, Repr

namespace Draft

/-- The form for the credentials. Port and transport are asked for only after a failure. -/
def schema (d : Draft) (overrides : Bool) : Schema :=
  let s := Schema.empty
    |>.required Key.username .string (some (.text d.username))
    |>.required Key.password .string (d.password.map .text)
    |>.required Key.host .string (d.host.map .text)
  if overrides then
    s.extend (Schema.empty.optional Key.port .port |>.optional Key.useHttps .boolean)
  else s

/-- Keeps the submitted credentials. -/
def keep (d : Draft) (input : Data) : Draft :=
  { d with
    host := (input.text? Key.host).or d.host
    username := (input.text? Key.username).getD d.username
    password := (input.text? Key.password).or d.password }

/-- Starts from the credentials of an entry. -/
def ofEntry (data : Data) : Draft where
  host := data.text? Key.host
  username := (data.text? Key.username).getD defaultUsername
  password := data.text? Key.password
  reauth := true

end Draft

/-- Errors by field, and wording for the form. -/
structure Complaint where
  errors : Notes
  placeholders : Notes

namespace Complaint

/-- The wording of a form that has a place for a message. -/
def wording (message : String) : Notes := (∅ : Notes).insert "error" message

def none : Complaint := ⟨∅, wording ""⟩

def about (field code : String) (placeholders : Notes) : Complaint :=
  ⟨(∅ : Notes).insert field code, placeholders⟩

/-- A complaint about the host, with a message. -/
def aboutHost (code message : String) : Complaint := about Key.host code (wording message)

def ofFault : Fault → Complaint
  | .userNotAdmin username userLevel =>
    about Key.username "not_admin" <|
      ((wording "").insert "username" username).insert "userlevel" userLevel
  | .credentialsInvalid => aboutHost "invalid_auth" ""
  | .api message => aboutHost "api_error" message
  | .connection message | .setup message => aboutHost "cannot_connect" message
  | .unexpected message => aboutHost "unknown" message

end Complaint

def reauthSuccessful : String := "reauth_successful"

namespace StepName

def user : String := "user"
def reauth : String := "reauth"
def reauthConfirm : String := "reauth_confirm"
def init : String := "init"

end StepName

/-- The submitted data with the port and transport that the device reported. -/
def completed (input : Data) (i : Identified) : Data :=
  (input.insert Key.port (.ofNat i.port.toNat)).insert Key.useHttps (.bool i.useHttps)

def showUserForm (c : Complaint) : Step Draft device Outcome := do
  return .form {
    step := StepName.user
    schema := (← get).schema !c.errors.isEmpty
    errors := c.errors
    placeholders := c.placeholders }

def userStep (input : Option Data) : Step Draft device Outcome := do
  match input with
  | none => showUserForm Complaint.none
  | some input =>
    match ← Step.ofProg (Session.probe input) with
    | .error f =>
      modify (·.keep input)
      showUserForm (Complaint.ofFault f)
    | .ok i =>
      let data := completed input i
      match ← Step.claim i.uniqueId false, (← get).reauth with
      | some e, true => Step.endWithUpdate e.id data reauthSuccessful
      | _, _ =>
        Step.endIfConfigured none
        return .create i.name data defaultOptions

def reauthConfirmStep (input : Option Data) : Step Draft device Outcome := do
  match input with
  | some _ => userStep none
  | none =>
    return .form {
      step := StepName.reauthConfirm
      schema := .empty
      errors := ∅
      placeholders := ∅ }

def reauthStep (data : Data) : Step Draft device Outcome := do
  set (Draft.ofEntry data)
  reauthConfirmStep none

def onboardingSteps : Steps Draft device := fun name input =>
  if name = StepName.user then userStep input
  else if name = StepName.reauth then reauthStep (input.getD ∅)
  else if name = StepName.reauthConfirm then reauthConfirmStep input
  else throw (.unknownStep name)

def protocolSchema (protocol : String) : Schema :=
  Schema.empty.required Key.protocol (.select protocols) (some (.text protocol))

/-- The options flow remembers the protocol that the entry had when the flow began. -/
def optionsSteps : Steps String device := fun name input => do
  if name = StepName.init then
    match input with
    | some input => return .create "" input ∅
    | none =>
      return .form {
        step := StepName.init
        schema := protocolSchema (← get)
        errors := ∅
        placeholders := ∅ }
  else throw (.unknownStep name)

/-- What a flow of a camera remembers, by its kind. -/
abbrev Memory := Draft ⊕ String

def steps : Steps Memory device := onboardingSteps.either optionsSteps

/-- The protocol that the options of an entry name. -/
def protocolOf (e : Entry) : String := (e.options.text? Key.protocol).getD defaultProtocol

def integration : Integration Memory where
  start := .inl {}
  options := fun e => some (.inr (protocolOf e))

end Onboarding.Camera
