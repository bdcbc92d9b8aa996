import Onboarding.Flow.Basic
import Onboarding.Job

/-! Steps of flows. A step reads its context and the registry, claims a unique id for its flow,
updates or reloads an entry, and may ask the outside for what only its integration knows. The
state of a step is what its flow remembers from one step to the next; it is kept also when the
step fails. -/
namespace Onboarding

/-- What a step may ask. -/
inductive StepRequest (F : Signature) where
  | context
  | registry
  /-- Claims a unique id, if need be only where no other flow in progress holds it. -/
  | claim (uniqueId : String) (exclusive : Bool)
  | update (entryId : String) (u : Entry.Update)
  | reload (entryId : String)
  | outside (q : F.Request)

@[reducible] def StepRequest.Reply {F : Signature} : StepRequest F → Type
  | context => Context
  | registry => Registry
  | claim .. => Claim
  | update .. => Except RegistryError Bool
  | reload _ => Except RegistryError Unit
  | outside q => F.Reply q

abbrev Signature.step (F : Signature) : Signature := ⟨StepRequest F, StepRequest.Reply⟩

/-- A part of a step of a flow that remembers an `H`. -/
abbrev Step (H : Type) (F : Signature) := ExceptT StepError (StateT H (Prog (.step F)))

/-- The steps of a family of flows: by name, with the input of the form if there is one. -/
abbrev Steps (H : Type) (F : Signature) := String → Option Data → Step H F Outcome

namespace Step

variable {H : Type} {F G : Signature} {α : Type}

def ask (q : StepRequest F) : Step H F q.Reply :=
  ExceptT.lift (StateT.lift (Prog.request (S := .step F) q))

def context : Step H F Context := ask .context

def registry : Step H F Registry := ask .registry

def outside (q : F.Request) : Step H F (F.Reply q) := ask (.outside q)

/-- A program that asks the outside only, as a part of a step. -/
def ofProg (p : Prog F α) : Step H F α :=
  ExceptT.lift (StateT.lift (p.interpret fun q => Prog.request (S := .step F) (.outside q)))

/-- Goes on with a result of the registry, or fails as it does. -/
def ofRegistry : Except RegistryError α → Step H F α
  | .ok a => pure a
  | .error e => throw (.registry e)

/-- Claims a unique id and gives the entry that holds it, if there is one. A flow that asks for
an exclusive claim ends when another one holds the id. -/
def claim (uniqueId : String) (exclusive : Bool) : Step H F (Option Entry) := do
  match ← ask (.claim uniqueId exclusive) with
  | .refused => throw (.abort alreadyInProgress)
  | .granted existing => return existing

/-- Replaces the data of an entry, and tells whether that changed it. -/
def updateData (entryId : String) (data : Data) : Step H F Bool := do
  ofRegistry (← ask (.update entryId { data := some data }))

/-- Reloads an entry. That its setup fails is for the entry to show, and no failure here. -/
def reload (entryId : String) : Step H F Unit := do
  match ← ask (.reload entryId) with
  | .ok _ => return
  | .error (.setupFailed _) => return
  | .error e => throw (.registry e)

/-- Replaces the data of an entry and reloads it, unless it has that data already. -/
def renew (entryId : String) (data : Data) : Step H F Unit := do
  if ← updateData entryId data then reload entryId

/-- Ends the flow when an entry holds its unique id, after updating the data of that entry. -/
def endIfConfigured (updates : Option Data) : Step H F Unit := do
  let c ← context
  match c.uniqueId with
  | none => return
  | some uniqueId =>
    match (← registry).holder? ⟨c.handler, uniqueId⟩ with
    | none => return
    | some e =>
      match updates with
      | none => pure ()
      | some updates => renew e.id (e.data.overlay updates)
      throw (.abort alreadyConfigured)

/-- Replaces the data of an entry, reloads it if that changed it, and ends the flow. -/
def endWithUpdate (entryId : String) (data : Data) (reason : String) :
    Step H F Outcome := do
  renew entryId data
  return .abort reason

/-- A step whose outside is a part of a wider one. -/
def through (wider : ∀ q : F.Request, Prog (.step G) (F.Reply q)) (s : Step H F α) :
    Step H G α := fun h => Prog.interpret (S := .step F) requests (s h)
where
  requests : ∀ q : StepRequest F, Prog (.step G) q.Reply
    | .context => Prog.request (S := .step G) .context
    | .registry => Prog.request (S := .step G) .registry
    | .claim uniqueId exclusive => Prog.request (S := .step G) (.claim uniqueId exclusive)
    | .update entryId u => Prog.request (S := .step G) (.update entryId u)
    | .reload entryId => Prog.request (S := .step G) (.reload entryId)
    | .outside q => wider q

end Step

namespace Steps

variable {H K : Type} {F G : Signature}

/-- Flows of two families, told apart by what they remember. -/
def either (left : Steps H F) (right : Steps K F) : Steps (H ⊕ K) F := fun name input state =>
  match state with
  | .inl h => (left name input h).bind fun (a, h) => .done (a, .inl h)
  | .inr k => (right name input k).bind fun (a, k) => .done (a, .inr k)

/-- Flows of two families, each with its own outside. -/
def sum (left : Steps H F) (right : Steps K G) : Steps (H ⊕ K) (F.sum G) :=
  either
    (fun name input => (left name input).through fun q =>
      Prog.request (S := .step (F.sum G)) (.outside (.inl q)))
    (fun name input => (right name input).through fun q =>
      Prog.request (S := .step (F.sum G)) (.outside (.inr q)))

end Steps

end Onboarding
