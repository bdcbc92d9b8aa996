/-! The lifecycle of an entry. Setting up and unloading pass through a phase of their own, from
which only their end leads on. -/
namespace Onboarding

inductive Phase where
  | notLoaded
  | setupInProgress
  | loaded
  | setupError
  | unloadInProgress
  deriving DecidableEq, Repr

namespace Phase

def all : List Phase := [notLoaded, setupInProgress, loaded, setupError, unloadInProgress]

/-- The name in documents. -/
def key : Phase → String
  | notLoaded => "not_loaded"
  | setupInProgress => "setup_in_progress"
  | loaded => "loaded"
  | setupError => "setup_error"
  | unloadInProgress => "unload_in_progress"

/-- The name in messages. -/
def label : Phase → String
  | notLoaded => "NotLoaded"
  | setupInProgress => "SetupInProgress"
  | loaded => "Loaded"
  | setupError => "SetupError"
  | unloadInProgress => "UnloadInProgress"

def ofKey? (s : String) : Option Phase := all.find? (·.key == s)

/-- Whether the lifecycle leads from the first phase to the second in one move. -/
def leadsTo : Phase → Phase → Bool
  | notLoaded, setupInProgress | setupError, setupInProgress => true
  | setupInProgress, loaded | setupInProgress, setupError => true
  | notLoaded, unloadInProgress | loaded, unloadInProgress | setupError, unloadInProgress => true
  | unloadInProgress, notLoaded => true
  | _, _ => false

/-- A phase in which nothing is under way. -/
def settled : Phase → Bool
  | notLoaded | loaded | setupError => true
  | setupInProgress | unloadInProgress => false

/-- A move that the lifecycle does not have. -/
structure Refusal where
  start : Phase
  target : Phase
  deriving DecidableEq, Repr

def Refusal.reason (r : Refusal) : String :=
  match r.start, r.target with
  | loaded, setupInProgress => "already loaded, unload first"
  | setupInProgress, _ => "setup in progress"
  | unloadInProgress, _ => "unload in progress"
  | _, _ => "transition not allowed"

def Refusal.message (r : Refusal) : String :=
  "Invalid state transition from " ++ r.start.label ++ " to " ++ r.target.label ++ ": " ++ r.reason

def move (start target : Phase) : Except Refusal Phase :=
  if start.leadsTo target then .ok target else .error ⟨start, target⟩

end Phase

end Onboarding
