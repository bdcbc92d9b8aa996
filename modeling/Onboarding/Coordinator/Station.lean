import Onboarding.Coordinator.Basic
import Onboarding.Coordinator.Entity

/-! A coordinator among those who hold on to it: handles of listeners kept under names, entities
with subscriptions of their own, and perhaps an owner. It lasts as long as the owner or an entity
holds it; giving up a handle after that does nothing. -/
namespace Onboarding

structure Station (L : Type) where
  coordinator : Coordinator L
  /-- Whether the owner holds the coordinator. -/
  owned : Bool := true
  handles : Std.ExtTreeMap String Nat := ∅
  entities : Std.ExtTreeMap String Entity := ∅

namespace Station

variable {L : Type}

def isAlive (s : Station L) : Bool := s.owned || !s.entities.isEmpty

/-- Gives up a handle. -/
def giveUp (s : Station L) (handle : Option Nat) : Station L :=
  match handle with
  | none => s
  | some h => if s.isAlive then { s with coordinator := s.coordinator.release h } else s

/-- Registers a listener and keeps its handle under a name; the handle kept there before is given
up. -/
def listen (s : Station L) (name : String) (l : L) : Station L :=
  let (coordinator, h) := s.coordinator.listen l
  { s with coordinator, handles := s.handles.insert name h }.giveUp s.handles[name]?

/-- Gives up the handle kept under a name, if there is one. -/
def release (s : Station L) (name : String) : Station L × Bool :=
  ({ s with handles := s.handles.erase name }.giveUp s.handles[name]?, name ∈ s.handles)

/-- The owner lets go of the coordinator. -/
def disown (s : Station L) : Station L := { s with owned := false }

/-- Takes an entity in under a name, in place of the one there before. -/
def placeEntity (s : Station L) (name : String) (e : Entity) : Station L :=
  { s with entities := s.entities.insert name e }.giveUp
    (s.entities[name]?.bind Entity.subscription)

/-- Drops an entity and with it its subscription. -/
def dropEntity (s : Station L) (name : String) : Station L × Bool :=
  ({ s with entities := s.entities.erase name }.giveUp
    (s.entities[name]?.bind Entity.subscription), name ∈ s.entities)

/-- Gives an entity another subscription and gives up the one it had. -/
def resubscribe (s : Station L) (name : String) (handle : Option Nat) : Station L :=
  { s with entities := s.entities.modify name ({ · with subscription := handle }) }.giveUp
    (s.entities[name]?.bind Entity.subscription)

/-- Subscribes an entity through a listener. -/
def subscribe (s : Station L) (name : String) (l : L) : Station L :=
  if name ∈ s.entities then
    let (coordinator, h) := s.coordinator.listen l
    { s with coordinator }.resubscribe name (some h)
  else s

def unsubscribe (s : Station L) (name : String) : Station L := s.resubscribe name none

/-- The portrait of an entity, if there is one of the name. -/
def portrait? (s : Station L) (name : String) : Option Portrait :=
  s.entities[name]?.map (·.portrait s.coordinator.lastSuccess)

abbrev Work (L : Type) := Job (Station L) (.refreshing L)

/-- Refreshes for everyone. What listeners do to the station while they are called takes effect
at once. -/
def refresh : Work L Unit :=
  Job.within Station.coordinator (fun coordinator s => { s with coordinator })
    (fun q => Job.call (F := .refreshing L) q) Coordinator.refresh

end Station

end Onboarding
