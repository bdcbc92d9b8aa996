import Onboarding.Entry.Codec
import Onboarding.Json.Writer

/-! The file that entries are kept in: a versioned envelope around their list. Envelope and
content are read as a whole before the version is looked at. -/
namespace Onboarding

inductive StorageError where
  | io
  | json
  | version (expected found : UInt32)
  deriving DecidableEq, Repr

/-- What a file holds: a text, or bytes that are none. -/
inductive Content where
  | text (s : String)
  | garbled
  deriving DecidableEq, Repr

/-- The place of the file. Nothing is there before the first save. -/
structure Disk where
  file : Option Content := none
  writable : Bool := true
  deriving DecidableEq, Repr

namespace Disk

def key : String := "core.config_entries"

def version : UInt32 := 1

def minorVersion : UInt32 := 1

end Disk

def StorageError.message : StorageError → String
  | io => "IO error"
  | json => "JSON serialization error"
  | version expected found =>
    "Unsupported major version for " ++ Disk.key ++ ": expected " ++ toString expected.toNat
      ++ ", found " ++ toString found.toNat

namespace Disk

/-- The fields of a document with some content. -/
def fields (content : List (String × Value)) : List (String × Value) :=
  [("version", .ofNat version.toNat),
    ("minor_version", .ofNat minorVersion.toNat),
    ("key", .text key),
    ("data", .object content)]

/-- The document that keeps a list of entries. -/
def document (entries : List Entry) : Value :=
  .object (fields [("entries", .list (entries.map Entry.toValue))])

/-- An envelope: the version found, and the entries. -/
def envelope (now : Instant) : Decoder (UInt32 × List Entry) := fun room t => do
  let (room, p) ← Decoder.parts ["version", "minor_version", "key", "data"] 4 room t
  let found ← p.field room "version" .word
  let _ ← p.field room "minor_version" .word
  let _ ← p.field room "key" .text
  let entries ← p.field room "data" fun room t => do
    let (room, p) ← Decoder.parts ["entries"] 1 room t
    p.field room "entries" (.items (Entry.decoder now))
  return (found, entries)

/-- The entries of a text. -/
def read (now : Instant) (s : String) : Except StorageError (List Entry) :=
  match Decoder.ofText? (envelope now) s with
  | none => .error .json
  | some (found, entries) =>
    if found = version then .ok entries else .error (.version version found)

/-- The entries kept, none of which is there before the first save. -/
def load (d : Disk) (now : Instant) : Except StorageError (List Entry) :=
  match d.file with
  | none => .ok []
  | some .garbled => .error .io
  | some (.text s) => read now s

/-- Replaces the file, or leaves it as it was. -/
def save (d : Disk) (entries : List Entry) : Disk × Except StorageError Unit :=
  if d.writable then ({ d with file := some (.text (document entries).pretty) }, .ok ())
  else (d, .error .io)

end Disk

end Onboarding
