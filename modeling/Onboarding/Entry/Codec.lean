import Onboarding.Entry.Basic
import Onboarding.Instant.Text
import Onboarding.Json.Decoder

/-! The written form of an entry. The phase and its reason are never written; a missing time is
the time of reading. -/
namespace Onboarding.Entry

/-- A field that is left out when there is nothing to write. -/
def optionalField (name : String) (v : Option Value) : List (String × Value) :=
  match v with
  | none => []
  | some v => [(name, v)]

/-- The fields that an entry is written with. -/
def fields (e : Entry) : List (String × Value) :=
  [("entry_id", .text e.id),
    ("domain", .text e.domain),
    ("title", .text e.title),
    ("data", e.data.toValue),
    ("options", e.options.toValue),
    ("version", .ofNat e.version.toNat),
    ("minor_version", .ofNat e.minorVersion.toNat)]
  ++ optionalField "unique_id" (e.uniqueId.map .text)
  ++ [("source", .text e.source.key)]
  ++ optionalField "disabled_by" (e.disabledBy.map fun d => .text d.key)
  ++ [("created_at", .text e.createdAt.text),
    ("modified_at", .text e.modifiedAt.text)]

def toValue (e : Entry) : Value := .object e.fields

def fieldNames : List String :=
  ["entry_id", "domain", "title", "data", "options", "version", "minor_version", "unique_id",
    "source", "disabled_by", "created_at", "modified_at"]

def instant : Decoder Instant := fun room t => (Decoder.text room t).bind Instant.ofText?

def decoder (now : Instant) : Decoder Entry := fun room t => do
  let (room, p) ← Decoder.parts fieldNames 3 room t
  return {
    id := ← p.field room "entry_id" .text
    domain := ← p.field room "domain" .text
    title := ← p.field room "title" .text
    data := ← p.fieldD room "data" .data ∅
    options := ← p.fieldD room "options" .data ∅
    version := ← p.fieldD room "version" .word 1
    minorVersion := ← p.fieldD room "minor_version" .word 1
    uniqueId := ← p.fieldD room "unique_id" (.optional .text) none
    source := ← p.fieldD room "source" (.choice Source.ofKey?) .user
    phase := .notLoaded
    reason := none
    disabledBy := ← p.fieldD room "disabled_by" (.optional (.choice Disabler.ofKey?)) none
    createdAt := ← p.fieldD room "created_at" instant now
    modifiedAt := ← p.fieldD room "modified_at" instant now }

/-- Reads an entry at a given time. -/
def ofText? (now : Instant) (s : String) : Option Entry := Decoder.ofText? (decoder now) s

end Onboarding.Entry
