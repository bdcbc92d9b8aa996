import Onboarding.Device.Info

/-! Entities: what a platform asks of each, and the entity of a device that a coordinator keeps
up to date. -/
namespace Onboarding

/-- The answers of an entity to its platform. -/
structure Portrait where
  uniqueId : Option String
  name : Option String := none
  deviceInfo : Option Device.Info := none
  /-- Whether the platform asks for updates from time to time. -/
  shouldPoll : Bool := true
  available : Bool := true
  attributes : Data := ∅

/-- An entity of a device that listens to a coordinator. -/
structure Entity where
  domain : String
  deviceId : String
  deviceType : String
  manufacturer : Option String := none
  swVersion : Option String := none
  name : Option String := none
  /-- The handle of its listener. -/
  subscription : Option Nat := none
  deriving DecidableEq, Repr

namespace Entity

def isSubscribed (e : Entity) : Bool := e.subscription.isSome

def deviceInfo (e : Entity) : Device.Info where
  identifiers := [⟨e.domain, e.deviceId⟩]
  name := e.name
  model := some e.deviceType
  manufacturer := e.manufacturer
  swVersion := e.swVersion

def attributes (e : Entity) : Data :=
  ((∅ : Data).insert (e.domain ++ "_type") (.text e.deviceType)).insert (e.domain ++ "_id")
    (.text e.deviceId)

/-- An entity is available as long as the last refresh succeeded, and is never polled. -/
def portrait (e : Entity) (lastSuccess : Bool) : Portrait where
  uniqueId := some e.deviceId
  name := e.name
  deviceInfo := some e.deviceInfo
  shouldPoll := false
  available := lastSuccess
  attributes := e.attributes

end Entity

end Onboarding
