import Onboarding.Job
import Std.Data.ExtTreeMap

/-! A coordinator fetches the data of a device for all who listen. A listener stays registered as
long as the handle given for it is held. -/
namespace Onboarding

/-- How a fetch ended. -/
inductive Fetch where
  | ok
  | failed (reason : String)
  | crashed (x : Crash)
  deriving DecidableEq, Repr

structure Coordinator (L : Type) where
  name : String
  /-- The listeners by the number of their handle. -/
  listeners : Std.ExtTreeMap Nat L := ∅
  nextHandle : Nat := 1
  lastSuccess : Bool := true

/-- What a refresh asks of its surroundings. -/
inductive Refreshing (L : Type) where
  | fetch
  | notify (l : L)

@[reducible] def Refreshing.Reply {L : Type} : Refreshing L → Type
  | fetch => Fetch
  | notify _ => Unit

abbrev Signature.refreshing (L : Type) : Signature := ⟨Refreshing L, Refreshing.Reply⟩

namespace Coordinator

variable {L : Type}

def size (c : Coordinator L) : Nat := c.listeners.size

/-- Registers a listener under a new handle. -/
def listen (c : Coordinator L) (l : L) : Coordinator L × Nat :=
  ({ c with
      listeners := c.listeners.insert c.nextHandle l
      nextHandle := c.nextHandle + 1 }, c.nextHandle)

/-- Forgets the listener of a handle. -/
def release (c : Coordinator L) (handle : Nat) : Coordinator L :=
  { c with listeners := c.listeners.erase handle }

abbrev Work (L : Type) := Job (Coordinator L) (.refreshing L)

def ask (q : Refreshing L) : Work L q.Reply := Job.call (F := .refreshing L) q

/-- Calls listeners one after the other. -/
def notifyAll : List L → Work L Unit
  | [] => return
  | l :: rest => do
    ask (.notify l)
    notifyAll rest

/-- Notes the outcome of a fetch and calls everyone who listens at its end, also those who leave
meanwhile. A crash of the fetch changes nothing and calls no one. -/
def refresh : Work L Unit := do
  match ← ask .fetch with
  | .ok => modify ({ · with lastSuccess := true })
  | .failed _ => modify ({ · with lastSuccess := false })
  | .crashed x => Prog.crash x
  notifyAll ((← get).listeners.toList.map (·.2))

end Coordinator

end Onboarding
