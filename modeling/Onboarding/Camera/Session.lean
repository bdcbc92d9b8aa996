import Onboarding.Camera.Basic
import Onboarding.Device.Address
import Onboarding.Device.Info
import Onboarding.Prog

/-! A client of one device, from its creation to its logout. The device is known by its hardware
address once a handshake has gone through with an account that may change settings. -/
namespace Onboarding.Camera

/-- What a client says about its device. -/
structure Report where
  username : String
  userLevel : String
  isAdmin : Bool
  address : Option String
  port : UInt16
  useHttps : Bool
  name : String
  model : Option String
  swVersion : Option String
  deriving DecidableEq, Repr

inductive Ending where
  | succeeded
  | failed (f : Fault)
  | crashed (x : Crash)
  deriving DecidableEq, Repr

/-- How a handshake ended, and what the client says from then on. -/
structure Handshake where
  report : Report
  ending : Ending
  deriving DecidableEq, Repr

/-- A client, by its number, and what it says before any handshake. -/
structure Client where
  number : Nat
  report : Report
  deriving DecidableEq, Repr

/-- What is asked of devices. -/
inductive Exchange where
  | client (c : Connection)
  | handshake (client : Nat)
  | logout (client : Nat)
  deriving DecidableEq, Repr

@[reducible] def Exchange.Reply : Exchange → Type
  | client _ => Client
  | handshake _ => Handshake
  | logout _ => Except Fault Unit

abbrev device : Signature := ⟨Exchange, Exchange.Reply⟩

/-- A client in use. -/
structure Session where
  client : Nat
  report : Report
  uniqueId : Option String := none
  deriving DecidableEq, Repr

/-- What a successful handshake has told about a device. -/
structure Identified where
  uniqueId : String
  name : String
  port : UInt16
  useHttps : Bool
  deriving DecidableEq, Repr

namespace Session

def noAddress : Fault := .setup "Could not get mac address"

/-- Creates a client for the data and options of an entry. -/
def create (data options : Data) : Prog device Session := do
  let c ← Prog.request (S := device) (.client (.ofEntry data options))
  return { client := c.number, report := c.report }

/-- Takes note of a handshake. A missing address comes before a missing permission. -/
def afterHandshake (s : Session) (h : Handshake) : Session × Ending :=
  let heard := { s with report := h.report }
  match h.ending with
  | .succeeded =>
    match h.report.address with
    | none => (heard, .failed noAddress)
    | some address =>
      if h.report.isAdmin then
        ({ heard with uniqueId := some (Device.canonicalAddress address) }, .succeeded)
      else (heard, .failed (.userNotAdmin h.report.username h.report.userLevel))
  | ending => (heard, ending)

/-- Logs in and identifies the device. -/
def start (s : Session) : Prog device (Session × Ending) := do
  return s.afterHandshake (← Prog.request (S := device) (.handshake s.client))

/-- Logs out. The session is given up also when that fails. -/
def stop (s : Session) : Prog device Unit := do
  let _ ← Prog.request (S := device) (.logout s.client)

def deviceInfo (s : Session) : Device.Info where
  identifiers := s.uniqueId.toList.map (⟨domain, ·⟩)
  name := some s.report.name
  model := s.report.model
  manufacturer := some manufacturer
  swVersion := s.report.swVersion

def identify (s : Session) : Except Fault Identified :=
  match s.uniqueId with
  | none => .error noAddress
  | some uniqueId => .ok ⟨uniqueId, s.report.name, s.report.port, s.report.useHttps⟩

/-- What is said of a crash that carries no text. -/
def crashText (x : Crash) : String :=
  x.text.getD "unexpected panic during device handshake"

/-- What a session has learned by the end of its handshake. -/
def learned (s : Session) : Ending → Except Fault Identified
  | .succeeded => s.identify
  | .failed f => .error f
  | .crashed x => .error (.unexpected (crashText x))

/-- Logs in once to identify a device. The client is logged out however the handshake ends. -/
def probe (data : Data) : Prog device (Except Fault Identified) := do
  let s ← create data defaultOptions
  let (s, ending) ← s.start
  s.stop
  return s.learned ending

end Session

end Onboarding.Camera
