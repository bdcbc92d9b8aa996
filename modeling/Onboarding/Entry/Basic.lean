import Onboarding.Instant.Basic
import Onboarding.Json.Value
import Onboarding.Lifecycle

/-! An entry: one device or service that an integration has been set up for. What an update
changes is decided field by field, and the time of the last change moves only with a change. -/
namespace Onboarding

/-- How an entry, or the flow that made it, was started. -/
inductive Source where
  | user
  | reauth
  deriving DecidableEq, Repr

def Source.key : Source → String
  | user => "user"
  | reauth => "reauth"

def Source.ofKey? : String → Option Source
  | "user" => some .user
  | "reauth" => some .reauth
  | _ => none

/-- Who disabled an entry. -/
inductive Disabler where
  | user
  deriving DecidableEq, Repr

def Disabler.key : Disabler → String
  | user => "user"

def Disabler.ofKey? : String → Option Disabler
  | "user" => some .user
  | _ => none

structure Entry where
  id : String
  domain : String
  title : String
  data : Data
  options : Data
  version : UInt32
  minorVersion : UInt32
  /-- A name derived from the device, by which it is recognised. -/
  uniqueId : Option String
  source : Source
  phase : Phase
  /-- Why the entry failed. -/
  reason : Option String
  disabledBy : Option Disabler
  createdAt : Instant
  modifiedAt : Instant

namespace Entry

def new (id domain title : String) (now : Instant) : Entry where
  id := id
  domain := domain
  title := title
  data := ∅
  options := ∅
  version := 1
  minorVersion := 1
  uniqueId := none
  source := .user
  phase := .notLoaded
  reason := none
  disabledBy := none
  createdAt := now
  modifiedAt := now

def isDisabled (e : Entry) : Bool := e.disabledBy.isSome

def isLoaded (e : Entry) : Bool := e.phase == .loaded

/-- Moves to a phase if the lifecycle leads there; a refused move leaves the reason as well. -/
def enter (e : Entry) (target : Phase) (reason : Option String) : Except Phase.Refusal Entry := do
  let phase ← e.phase.move target
  return { e with phase, reason }

/-- The part of an entry that is kept over a restart. -/
def persisted (e : Entry) : Entry := { e with phase := .notLoaded, reason := none }

/-- New values for some fields. -/
structure Update where
  title : Option String := none
  data : Option Data := none
  options : Option Data := none
  /-- The inner option is the new value: an entry may lose its unique id. -/
  uniqueId : Option (Option String) := none

namespace Update

/-- Whether some field given differs from that of the entry. -/
def changes (u : Update) (e : Entry) : Bool :=
  u.title.any (· != e.title) || u.data.any (!e.data.same ·) || u.options.any (!e.options.same ·)
    || u.uniqueId.any (· != e.uniqueId)

/-- The given data, unless it is the same as before. -/
def replaced (old : Data) (new : Option Data) : Data :=
  match new with
  | none => old
  | some new => if old.same new then old else new

/-- The fields given by `second` over those given by `first`. -/
def overlay (first second : Update) : Update where
  title := second.title.or first.title
  data := second.data.or first.data
  options := second.options.or first.options
  uniqueId := second.uniqueId.or first.uniqueId

end Update

/-- The entry after an update at a given time, and whether anything changed. -/
def apply (e : Entry) (u : Update) (now : Instant) : Entry × Bool :=
  if u.changes e then
    ({ e with
        title := u.title.getD e.title
        data := Update.replaced e.data u.data
        options := Update.replaced e.options u.options
        uniqueId := u.uniqueId.getD e.uniqueId
        modifiedAt := now }, true)
  else (e, false)

end Entry

end Onboarding
