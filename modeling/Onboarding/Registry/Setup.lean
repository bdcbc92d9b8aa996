import Onboarding.Job
import Onboarding.Registry.Basic

/-! Setting entries up and unloading them. The integration of the domain decides whether an entry
can be used; it is shown the entry as it was before, while the registry already has it in
progress. One setup or unload is under way at a time. -/
namespace Onboarding

/-- The answer of an integration that is asked to set an entry up. -/
inductive Verdict where
  | ready
  | failed (reason : String)
  | crashed (x : Crash)
  deriving DecidableEq, Repr

/-- What the registry asks of its surroundings. -/
inductive Hosting where
  /-- Asks the integration of the entry's domain to set it up. -/
  | setUp (e : Entry)
  /-- Waits until no other setup or unload is under way. -/
  | awaitTurn

@[reducible] def Hosting.Reply : Hosting → Type
  | setUp _ => Verdict
  | awaitTurn => Unit

def Signature.hosting : Signature := ⟨Hosting, Hosting.Reply⟩

namespace Registry

abbrev Action := ExceptT RegistryError (Job Registry Signature.hosting)

namespace Action

/-- Moves an entry to a phase. -/
def enter (id : String) (target : Phase) (reason : Option String) : Action Unit := do
  match (← get).enter id target reason with
  | .ok r => set r
  | .error e => throw e

def ask (q : Hosting) : Action (Hosting.Reply q) := ExceptT.lift (Job.call (F := .hosting) q)

/-- Takes the turn, acts, and gives the turn back however the action ends. -/
def inTurn (a : Action α) : Action α := do
  if (← get).settingUp then ask .awaitTurn
  modify ({ · with settingUp := true })
  ExceptT.mk (a.run.closing (modify ({ · with settingUp := false })))

/-- Sets an entry up within the turn. A disabled entry is left alone. -/
def setUpNow (id : String) : Action Unit := do
  match (← get).get? id with
  | none => throw (.notFound id)
  | some e =>
    if e.isDisabled then return
    enter id .setupInProgress none
    if e.domain ∈ (← get).handled then
      match ← ask (.setUp e) with
      | .ready => enter id .loaded none
      | .failed reason =>
        enter id .setupError (some reason)
        throw (.setupFailed reason)
      | .crashed x => ExceptT.mk (.crash x)
    else enter id .loaded none

/-- Unloads an entry within the turn. -/
def unloadNow (id : String) : Action Unit := do
  enter id .unloadInProgress none
  enter id .notLoaded none

def setUp (id : String) : Action Unit := inTurn (setUpNow id)

def unload (id : String) : Action Unit := inTurn (unloadNow id)

/-- Unloads an entry and sets it up again, in one turn. -/
def reload (id : String) : Action Unit := inTurn do
  unloadNow id
  setUpNow id

end Action

end Registry

end Onboarding
