import Onboarding.Json.Value

/-! Cameras and recorders: the words of their entries, what a client needs to reach one, and how
reaching it can fail. -/
namespace Onboarding.Camera

def domain : String := "reolink"

def manufacturer : String := "Reolink"

namespace Key

def host : String := "host"
def username : String := "username"
def password : String := "password"
def port : String := "port"
def useHttps : String := "use_https"
def protocol : String := "protocol"

end Key

def defaultUsername : String := "admin"

def defaultProtocol : String := "rtsp"

/-- The streaming protocols that a device can be switched to. -/
def protocols : List String := ["rtsp", "rtmp", "flv"]

/-- Seconds to wait for a device. -/
def defaultTimeout : Nat := 60

/-- The options of a new entry. -/
def defaultOptions : Data := (∅ : Data).insert Key.protocol (.text defaultProtocol)

/-- Why a device cannot be used. -/
inductive Fault where
  /-- The account may look, but not change anything. -/
  | userNotAdmin (username userLevel : String)
  | credentialsInvalid
  | api (message : String)
  | connection (message : String)
  /-- The device answers, but not all that is needed. -/
  | setup (message : String)
  | unexpected (message : String)
  deriving DecidableEq, Repr

def Fault.message : Fault → String
  | userNotAdmin username userLevel =>
    "User '" ++ username ++ "' has authorization level '" ++ userLevel
      ++ "', only admin users can change camera settings"
  | credentialsInvalid => "Invalid credentials"
  | api message | connection message | setup message | unexpected message => message

structure Connection where
  host : String
  username : String
  password : String
  /-- Without a port the client tries the usual ones. -/
  port : Option UInt16
  /-- Without a choice the client tries a secure connection first. -/
  useHttps : Option Bool
  protocol : String
  timeout : Nat
  deriving DecidableEq, Repr

namespace Connection

/-- A number that can be a port. -/
def portOfValue? (v : Value) : Option UInt16 :=
  v.natural?.bind fun n => if n < UInt16.size then some (UInt16.ofNat n) else none

/-- The connection that the data and options of an entry describe. What is not of the right kind
counts as not given. -/
def ofEntry (data options : Data) : Connection where
  host := (data.text? Key.host).getD ""
  username := (data.text? Key.username).getD ""
  password := (data.text? Key.password).getD ""
  port := data[Key.port]?.bind portOfValue?
  useHttps := data[Key.useHttps]?.bind Value.bool?
  protocol := (options.text? Key.protocol).getD defaultProtocol
  timeout := defaultTimeout

end Connection

end Onboarding.Camera
