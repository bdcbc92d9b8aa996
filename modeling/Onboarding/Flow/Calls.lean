import Onboarding.Flow.Desk
import Onboarding.Flow.Step
import Onboarding.Registry.Setup

/-! Calls on the desk: flows are started, answered and ended. A call checks an input against the
form shown, takes the step that the form belongs to, and carries out what the step decides. The
calls on one flow take turns; calls on different flows may come between each other wherever a step
asks the outside. -/
namespace Onboarding

/-- What a call on the desk asks of its surroundings. -/
inductive Calling (F : Signature) where
  | hosting (q : Hosting)
  /-- Waits until no other call on the flow is under way. -/
  | awaitFlow (id : String)
  | device (q : F.Request)

@[reducible] def Calling.Reply {F : Signature} : Calling F → Type
  | hosting q => q.Reply
  | awaitFlow _ => Unit
  | device q => F.Reply q

abbrev Signature.desk (F : Signature) : Signature := ⟨Calling F, Calling.Reply⟩

namespace Desk

variable {H : Type} {F : Signature} {α : Type}

/-- The parts of a call on the desk that cannot fail. -/
abbrev Work (H : Type) (F : Signature) := Job (Desk H) (.desk F)

abbrev Action (H : Type) (F : Signature) := ExceptT FlowError (Work H F)

namespace Work

/-- Carries out an action of the registry. -/
def host (a : Registry.Action α) : Work H F (Except RegistryError α) :=
  Job.within Desk.registry (fun registry d => { d with registry })
    (fun q => Job.call (F := .desk F) (.hosting q)) a.run

/-- Answers what a step of a flow asks. -/
def answer (id : String) : ∀ q : StepRequest F, Work H F q.Reply
  | .context => do return (← get).contextOf id
  | .registry => do return (← get).registry
  | .claim uniqueId exclusive => modifyGet (·.claim id uniqueId exclusive)
  | .update entryId u => modifyGet fun d => d.mutate (·.update entryId u d.now)
  | .reload entryId => host (Registry.Action.reload entryId)
  | .outside q => Job.call (F := .desk F) (.device q)

/-- Takes the turn on a flow, acts, and gives the turn back however the action ends. -/
def inTurn (id : String) (w : Work H F α) : Work H F α := do
  if (← get).flows[id]?.any Flow.busy then Job.call (F := .desk F) (.awaitFlow id)
  modify (·.modifyFlow id ({ · with busy := true }))
  w.closing (modify (·.modifyFlow id ({ · with busy := false })))

end Work

namespace Action

def result (c : Context) (body : FlowResult.Body) : FlowResult :=
  { flowId := c.flowId, handler := c.handler, body }

/-- Goes on with a result of the registry, or fails as it does. -/
def ofRegistry : Except RegistryError α → Action H F α
  | .ok a => pure a
  | .error e => throw (.registry e)

/-- Adds the entry that a flow decided on and sets it up. An entry that came first ends the flow;
a setup that fails is for the entry to show. -/
def registerEntry (c : Context) (title : String) (data options : Data) :
    Action H F FlowResult.Body := do
  let id ← modifyGet issue
  let e := { Entry.new id c.handler title (← get).now with
    data, options, source := c.source, version := c.version, uniqueId := c.uniqueId }
  match ← modifyGet (·.mutate (·.add e)) with
  | .error (.alreadyExists _) => return .aborted alreadyConfigured
  | .error error => throw (.registry error)
  | .ok e =>
    let _ ← ExceptT.lift (Work.host (Registry.Action.setUp e.id))
    return .created title data options c.version (some e.id)

/-- Gives the entry of an options flow its new options. -/
def storeOptions (c : Context) (title : String) (data options : Data) :
    Action H F FlowResult.Body := do
  if let some entryId := c.entryId then
    let _ ← ofRegistry (← modifyGet fun d =>
      d.mutate (·.update entryId { options := some data } d.now))
  return .created title data options c.version none

/-- Carries out what a step decided. -/
def conclude (id : String) (kind : FlowKind) (o : Outcome) : Action H F FlowResult := do
  let c := (← get).contextOf id
  match o with
  | .form p =>
    modify (·.showPage id p)
    return result c (.form p)
  | .abort reason =>
    modify (·.close id)
    return result c (.aborted reason)
  | .create title data options =>
    modify (·.close id)
    match kind with
    | .config => return result c (← registerEntry c title data options)
    | .options => return result c (← storeOptions c title data options)

/-- Runs a step of a flow. -/
def takeStep (steps : Steps H F) (id step : String) (input : Option Data) :
    Action H F FlowResult := do
  match (← get).flows[id]? with
  | none => throw (.unknownFlow id)
  | some flow =>
    let (ending, memory) ← ExceptT.lift
      (Prog.interpret (S := .step F) (Work.answer id) (steps step input flow.memory))
    modify (·.modifyFlow id ({ · with memory }))
    match ending with
    | .ok o => conclude id flow.kind o
    | .error (.abort reason) => conclude id flow.kind (.abort reason)
    | .error (.unknownStep step) => throw (.unknownStep step)
    | .error (.registry e) => throw (.registry e)

def inTurn (id : String) (a : Action H F α) : Action H F α := ExceptT.mk (Work.inTurn id a.run)

/-- Starts a flow with its first step. A flow whose first step fails was never started. -/
def start (steps : Steps H F) (kind : FlowKind) (memory : H) (c : Context) (step : String)
    (data : Option Data) : Action H F FlowResult := do
  modify (·.enroll kind memory c step)
  let ending ← ExceptT.lift ((takeStep steps c.flowId step data).run.closing
    (modify (·.modifyFlow c.flowId ({ · with busy := false }))))
  match ending with
  | .ok r => return r
  | .error e =>
    modify (·.delist c.flowId)
    throw e

def integration (domain : String) : Action H F (Integration H) := do
  match (← get).integrations[domain]? with
  | some i => return i
  | none => throw (.unknownHandler domain)

def entry (id : String) : Action H F Entry := do
  match (← get).registry.get? id with
  | some e => return e
  | none => throw (.unknownEntry id)

/-- Starts a flow for a new entry; its first step is the one named like the source. -/
def startConfig (steps : Steps H F) (handler : String) (source : Source) (data : Option Data) :
    Action H F FlowResult := do
  let i ← integration handler
  let flowId ← modifyGet issue
  start steps .config i.start ⟨flowId, handler, source, i.version, none, none⟩ source.key data

/-- Starts a flow that repairs an entry, with the data of that entry. -/
def startReauth (steps : Steps H F) (entryId : String) : Action H F FlowResult := do
  let e ← entry entryId
  let i ← integration e.domain
  let flowId ← modifyGet issue
  start steps .config i.start ⟨flowId, e.domain, .reauth, i.version, none, some entryId⟩
    Source.reauth.key (some e.data)

/-- Starts the options flow of an entry. -/
def startOptions (steps : Steps H F) (entryId : String) : Action H F FlowResult := do
  let e ← entry entryId
  let i ← integration e.domain
  match i.options e with
  | none => throw (.optionsNotSupported e.domain)
  | some memory =>
    let flowId ← modifyGet issue
    start steps .options memory ⟨flowId, entryId, .user, 1, none, some entryId⟩ "init" none

/-- Answers the form of a flow. -/
def submit (steps : Steps H F) (id : String) (input : Data) : Action H F FlowResult := do
  if id ∉ (← get).listed then throw (.unknownFlow id)
  inTurn id do
    match (← get).flows[id]? with
    | none => throw (.unknownFlow id)
    | some flow =>
      if flow.finished then throw (.unknownFlow id)
      match flow.schema.validate input with
      | .error r => throw (.rejected r)
      | .ok input => takeStep steps id flow.step (some input)

end Action

end Desk

end Onboarding
