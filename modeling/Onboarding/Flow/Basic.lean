import Onboarding.Form.Schema
import Onboarding.Registry.Basic

/-! Flows: conversations of several steps that end in an entry, in new options, or in nothing. -/
namespace Onboarding

/-- Short texts under names, for the errors and the wording of a form. -/
abbrev Notes := Table String String

/-- A form as a step shows it. -/
structure Page where
  step : String
  schema : Schema
  errors : Notes
  placeholders : Notes

/-- How a step ends. All but a form end the flow. -/
inductive Outcome where
  | form (p : Page)
  | create (title : String) (data options : Data)
  | abort (reason : String)

/-- Why a step fails. An abort ends the flow like any other outcome. -/
inductive StepError where
  | abort (reason : String)
  | unknownStep (step : String)
  | registry (e : RegistryError)
  deriving DecidableEq, Repr

def StepError.message : StepError → String
  | abort reason => "Flow aborted: " ++ reason
  | unknownStep step => "Unknown step: " ++ step
  | registry e => e.message

/-- Whether a flow makes a new entry or new options for an old one. -/
inductive FlowKind where
  | config
  | options
  deriving DecidableEq, Repr

/-- What a step knows of its flow. -/
structure Context where
  flowId : String
  handler : String
  source : Source
  version : UInt32
  uniqueId : Option String
  entryId : Option String
  deriving DecidableEq, Repr

instance : Inhabited Context := ⟨"", "", .user, 1, none, none⟩

/-- The answer to a claim of a unique id. -/
inductive Claim where
  /-- Another flow of the same handler holds it. -/
  | refused
  /-- The flow holds it now; an entry may have held it before. -/
  | granted (existing : Option Entry)

/-- A flow as the list of flows in progress shows it. -/
structure Progress where
  flowId : String
  handler : String
  source : Source
  step : Option String
  uniqueId : Option String
  deriving DecidableEq, Repr

/-- What became of a step. -/
inductive FlowResult.Body where
  | form (p : Page)
  | created (title : String) (data options : Data) (version : UInt32) (entryId : Option String)
  | aborted (reason : String)

/-- The answer to a call on a flow. -/
structure FlowResult where
  flowId : String
  handler : String
  body : FlowResult.Body

namespace FlowResult

/-- Whether the flow has ended. -/
def isTerminal (r : FlowResult) : Bool :=
  match r.body with
  | .form _ => false
  | _ => true

def step? (r : FlowResult) : Option String :=
  match r.body with
  | .form p => some p.step
  | _ => none

def abortReason? (r : FlowResult) : Option String :=
  match r.body with
  | .aborted reason => some reason
  | _ => none

end FlowResult

/-- Why a call on a flow fails. -/
inductive FlowError where
  | unknownHandler (domain : String)
  | unknownFlow (id : String)
  | unknownEntry (id : String)
  | optionsNotSupported (domain : String)
  | unknownStep (step : String)
  | rejected (r : Rejection)
  | registry (e : RegistryError)
  deriving DecidableEq, Repr

def FlowError.message : FlowError → String
  | unknownHandler domain => "No config flow registered for " ++ domain
  | unknownFlow id => "Unknown flow: " ++ id
  | unknownEntry id => "Unknown config entry: " ++ id
  | optionsNotSupported domain => "Integration " ++ domain ++ " does not support options"
  | unknownStep step => "Flow has no step " ++ step
  | rejected r => "Invalid user input: " ++ r.message
  | registry e => e.message

/-- Reasons that any flow may end for. -/
def alreadyConfigured : String := "already_configured"

def alreadyInProgress : String := "already_in_progress"

end Onboarding
