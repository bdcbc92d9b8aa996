import Onboarding.Json.Decoder
import Onboarding.Json.Writer

/-! What is known about a device, by which its entities are grouped. -/
namespace Onboarding.Device

/-- A name of a device within a domain. -/
structure Identifier where
  domain : String
  id : String
  deriving DecidableEq, Repr

structure Info where
  identifiers : List Identifier := []
  name : Option String := none
  model : Option String := none
  manufacturer : Option String := none
  swVersion : Option String := none
  deriving DecidableEq, Repr

namespace Identifier

def toValue (i : Identifier) : Value := .list [.text i.domain, .text i.id]

def decoder : Decoder Identifier := fun room t => do
  match ← Decoder.items .text room t with
  | [domain, id] => return ⟨domain, id⟩
  | _ => none

end Identifier

namespace Info

/-- Texts under their names; what is not known is left out. -/
def known (fields : List (String × Option String)) : List (String × Value) :=
  fields.filterMap fun (name, s) => s.map fun s => (name, .text s)

def toValue (i : Info) : Value :=
  .object <| ("identifiers", .list (i.identifiers.map Identifier.toValue)) ::
    known [("name", i.name), ("model", i.model), ("manufacturer", i.manufacturer),
      ("sw_version", i.swVersion)]

def fieldNames : List String := ["identifiers", "name", "model", "manufacturer", "sw_version"]

def decoder : Decoder Info := fun room t => do
  let (room, p) ← Decoder.parts fieldNames fieldNames.length room t
  return {
    identifiers := ← p.field room "identifiers" (.items Identifier.decoder)
    name := ← p.fieldD room "name" (.optional .text) none
    model := ← p.fieldD room "model" (.optional .text) none
    manufacturer := ← p.fieldD room "manufacturer" (.optional .text) none
    swVersion := ← p.fieldD room "sw_version" (.optional .text) none }

def ofText? (s : String) : Option Info := Decoder.ofText? decoder s

end Info

end Onboarding.Device
