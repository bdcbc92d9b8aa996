import Onboarding.Flow.Basic
import Onboarding.Issue

/-! The desk that flows are started and answered at: the registry, the integrations, and the
flows in progress. What is listed can be called on; a flow that was taken off the lists may still
be in the middle of a step. -/
namespace Onboarding

/-- What an integration brings along: how its flows begin, and whether it has options. -/
structure Integration (H : Type) where
  version : UInt32 := 1
  start : H
  options : Entry → Option H

/-- The same integration in a larger family of flows. -/
def Integration.map {H K : Type} (f : H → K) (i : Integration H) : Integration K where
  version := i.version
  start := f i.start
  options := fun e => (i.options e).map f

structure Flow (H : Type) where
  kind : FlowKind
  memory : H
  context : Context
  /-- The step and the schema of the form shown. -/
  step : String
  schema : Schema
  finished : Bool := false
  /-- Whether a call on the flow is under way. -/
  busy : Bool := false

structure Desk (H : Type) where
  registry : Registry := {}
  integrations : Table String (Integration H) := ∅
  /-- Every flow that was started, also after its end. -/
  flows : Table String (Flow H) := ∅
  /-- The flows that can be called on. -/
  listed : Std.ExtTreeSet String := ∅
  progress : Table String Progress := ∅
  /-- Count of ids given out. -/
  issued : Nat := 0
  now : Instant

namespace Desk

variable {H : Type} {F : Signature} {α : Type}

def contextOf (d : Desk H) (id : String) : Context := (d.flows[id]?.map Flow.context).getD default

def modifyFlow (d : Desk H) (id : String) (f : Flow H → Flow H) : Desk H :=
  { d with flows := d.flows.modify id f }

def modifyProgress (d : Desk H) (id : String) (f : Progress → Progress) : Desk H :=
  { d with progress := d.progress.modify id f }

/-- Takes a flow off the lists. -/
def delist (d : Desk H) (id : String) : Desk H :=
  { d with listed := d.listed.erase id, progress := d.progress.erase id }

/-- Gives out an id. -/
def issue (d : Desk H) : String × Desk H := (Issue.id d.issued, { d with issued := d.issued + 1 })

/-- Whether another flow in progress of the handler holds the unique id. -/
def heldByOther (d : Desk H) (c : Context) (uniqueId : String) : Bool :=
  d.progress.toList.any fun (_, p) =>
    p.flowId != c.flowId && p.handler == c.handler && p.uniqueId == some uniqueId

theorem heldByOther_iff {d : Desk H} {c : Context} {uniqueId : String} :
    d.heldByOther c uniqueId = true ↔ ∃ (id : String) (p : Progress), d.progress[id]? = some p ∧
      p.flowId ≠ c.flowId ∧ p.handler = c.handler ∧ p.uniqueId = some uniqueId := by
  simp [heldByOther, Std.ExtTreeMap.mem_toList_iff_getElem?_eq_some, and_assoc]

/-- Claims a unique id for a flow. -/
def claim (d : Desk H) (id uniqueId : String) (exclusive : Bool) : Claim × Desk H :=
  let c := d.contextOf id
  if exclusive && d.heldByOther c uniqueId then (.refused, d)
  else
    let d := (d.modifyProgress id ({ · with uniqueId := some uniqueId })).modifyFlow id fun f =>
      { f with context := { f.context with uniqueId := some uniqueId } }
    (.granted (d.registry.holder? ⟨c.handler, uniqueId⟩), d)

/-- Lists a new flow, with the turn on it taken. -/
def enroll (d : Desk H) (kind : FlowKind) (memory : H) (c : Context) (step : String) : Desk H :=
  { d with
    flows := d.flows.insert c.flowId
      { kind, memory, context := c, step, schema := .empty, busy := true }
    listed := d.listed.insert c.flowId
    progress := d.progress.insert c.flowId
      { flowId := c.flowId, handler := c.handler, source := c.source, step := none
        uniqueId := none } }

/-- Notes the form that a flow shows. -/
def showPage (d : Desk H) (id : String) (p : Page) : Desk H :=
  (d.modifyFlow id ({ · with step := p.step, schema := p.schema })).modifyProgress id
    ({ · with step := some p.step })

/-- Ends a flow. -/
def close (d : Desk H) (id : String) : Desk H :=
  (d.modifyFlow id ({ · with finished := true })).delist id

/-- Changes the registry. -/
def mutate (d : Desk H) (f : Registry → Registry × α) : α × Desk H :=
  let (registry, a) := f d.registry
  (a, { d with registry })

/-- Ends a flow without a result. -/
def abort (d : Desk H) (id : String) : Desk H × Except FlowError Unit :=
  if id ∈ d.listed then (d.delist id, .ok ()) else (d, .error (.unknownFlow id))

/-- Starts again with what the disk holds. Integrations are registered as before. -/
def restart (d : Desk H) : Desk H × Except StorageError Unit :=
  let (registry, result) := (Registry.onDisk d.registry.disk d.registry.handled).load d.now
  ({ d with registry, flows := ∅, listed := ∅, progress := ∅ }, result)

end Desk

end Onboarding
