import Onboarding.Registry.Catalog
import Onboarding.Registry.Disk

/-! The registry of entries: the catalog in memory and the file behind it. A mutation changes the
catalog first and then writes the file, and reports whether the file could be written. -/
namespace Onboarding

inductive RegistryError where
  | notFound (id : String)
  | alreadyExists (i : Identity)
  | refused (r : Phase.Refusal)
  | setupFailed (reason : String)
  | storage (e : StorageError)
  deriving DecidableEq, Repr

def RegistryError.message : RegistryError → String
  | notFound id => "Entry not found: " ++ id
  | alreadyExists i =>
    "Entry already exists for domain " ++ i.domain ++ " with unique_id " ++ i.uniqueId
  | refused r => r.message
  | setupFailed reason => "Setup failed: " ++ reason
  | storage e => "Storage error: " ++ e.message

structure Registry extends Catalog where
  disk : Disk := {}
  /-- The domains whose integration takes part in setting up their entries. -/
  handled : Std.ExtTreeSet String := ∅
  /-- Whether a setup or unload is under way; others wait for their turn. -/
  settingUp : Bool := false

namespace Registry

/-- A registry on a disk, before it has read the file. -/
def onDisk (disk : Disk) (handled : Std.ExtTreeSet String) : Registry := { disk, handled }

/-- Writes all entries to the file. -/
def save (r : Registry) : Registry × Except StorageError Unit :=
  let (disk, result) := r.disk.save r.toList
  ({ r with disk }, result)

/-- Writes the file after a change, and answers with `a` if that succeeds. -/
def saved (r : Registry) (a : α) : Registry × Except RegistryError α :=
  match r.save with
  | (r, .ok _) => (r, .ok a)
  | (r, .error e) => (r, .error (.storage e))

/-- Takes in the entries of the file, one after the other. -/
def load (r : Registry) (now : Instant) : Registry × Except StorageError Unit :=
  match r.disk.load now with
  | .ok entries => ({ r with toCatalog := entries.foldl Catalog.restore r.toCatalog }, .ok ())
  | .error e => (r, .error e)

/-- Adds an entry, unless another one holds its unique id. -/
def add (r : Registry) (e : Entry) : Registry × Except RegistryError Entry :=
  match e.identity? with
  | none => { r with toCatalog := r.store e }.saved e
  | some i =>
    if i ∈ r.byUniqueId then (r, .error (.alreadyExists i))
    else { r with toCatalog := (r.assign (some i) e.id).store e }.saved e

/-- Updates an entry, and tells whether anything changed. The file is written only then. -/
def update (r : Registry) (id : String) (u : Entry.Update) (now : Instant) :
    Registry × Except RegistryError Bool :=
  match r.get? id with
  | none => (r, .error (.notFound id))
  | some old =>
    match old.apply u now with
    | (_, false) => (r, .ok false)
    | (e, true) =>
      let catalog := (r.revise e).reassign id old.identity? e.identity?
      { r with toCatalog := catalog }.saved true

def remove (r : Registry) (id : String) : Registry × Except RegistryError Entry :=
  match r.get? id with
  | none => (r, .error (.notFound id))
  | some e => { r with toCatalog := r.discard e }.saved e

/-- Moves an entry to a phase, if its lifecycle leads there. -/
def enter (r : Registry) (id : String) (target : Phase) (reason : Option String) :
    Except RegistryError Registry :=
  match r.get? id with
  | none => .error (.notFound id)
  | some old =>
    match old.enter target reason with
    | .ok e => .ok { r with toCatalog := r.revise e }
    | .error refusal => .error (.refused refusal)

end Registry

end Onboarding
