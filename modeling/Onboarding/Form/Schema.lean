import Onboarding.Json.Value
import Onboarding.Text.Quoted

/-! Form schemas: the fields that a form asks for, and what input they accept. Fields are checked
in order, and the first fault is the one reported. -/
namespace Onboarding

inductive FieldKind where
  | string
  | positiveInt
  | port
  | boolean
  | select (options : List String)
  deriving DecidableEq, Repr

structure Field where
  name : String
  kind : FieldKind
  required : Bool
  default : Option Value

/-- Why an input is rejected. -/
inductive Rejection where
  | missing (field : String)
  | wrongKind (field : String) (expected : FieldKind)
  | notInOptions (field : String) (options : List String)
  deriving DecidableEq, Repr

namespace FieldKind

/-- The values of a kind, in words. -/
def description : FieldKind → String
  | string | select _ => "a string"
  | positiveInt => "a positive integer"
  | port => "a port number between 1 and 65535"
  | boolean => "a boolean"

def maxPort : Nat := 65535

/-- Whether a value has the outward shape of the kind; a choice is checked further. -/
def fits : FieldKind → Value → Bool
  | string, v | select _, v => v.text?.isSome
  | positiveInt, v => v.natural?.any (0 < ·)
  | port, v => v.natural?.any fun n => 0 < n && n ≤ maxPort
  | boolean, v => v.bool?.isSome

/-- Whether a value is one of those offered, where the kind offers some. -/
def offers : FieldKind → Value → Bool
  | select options, v => v.text?.any options.contains
  | _, _ => true

end FieldKind

namespace Rejection

def message : Rejection → String
  | missing field => "required key not provided: " ++ field
  | wrongKind field kind => "expected " ++ kind.description ++ " for '" ++ field ++ "'"
  | notInOptions field options =>
    "value must be one of " ++ Text.quotedList options ++ " for '" ++ field ++ "'"

end Rejection

namespace Field

def check (f : Field) (v : Value) : Except Rejection Unit :=
  if !f.kind.fits v then .error (.wrongKind f.name f.kind)
  else if f.kind.offers v then .ok ()
  else
    match f.kind with
    | .select options => .error (.notInOptions f.name options)
    | _ => .ok ()

/-- What a field makes of an input: a value to keep, nothing, or a rejection. A default is taken
as it is. -/
def take (f : Field) (input : Data) : Except Rejection (Option Value) :=
  match input[f.name]? with
  | some v => (f.check v).map fun _ => some v
  | none =>
    match f.default with
    | some v => .ok (some v)
    | none => if f.required then .error (.missing f.name) else .ok none

end Field

/-- Fields in order. -/
structure Schema where
  fields : List Field

namespace Schema

def empty : Schema := ⟨[]⟩

def isEmpty (s : Schema) : Bool := s.fields.isEmpty

def size (s : Schema) : Nat := s.fields.length

def push (s : Schema) (f : Field) : Schema := ⟨s.fields ++ [f]⟩

/-- Adds a field that has to be filled in, unless it has a default. -/
def required (s : Schema) (name : String) (kind : FieldKind) (default : Option Value) : Schema :=
  s.push ⟨name, kind, true, default⟩

def optional (s : Schema) (name : String) (kind : FieldKind) : Schema :=
  s.push ⟨name, kind, false, none⟩

/-- Puts a field in the place of the first one of its name, or at the end. -/
def place : List Field → Field → List Field
  | [], f => [f]
  | g :: gs, f => if g.name = f.name then f :: gs else g :: place gs f

/-- Places the fields of another schema one after the other. -/
def extend (s t : Schema) : Schema := ⟨t.fields.foldl place s.fields⟩

/-- The first field of a name. -/
def field? (s : Schema) (name : String) : Option Field := s.fields.find? (·.name == name)

/-- Adds to `taken` what each field takes from the input. -/
def takeAll (input : Data) : List Field → Data → Except Rejection Data
  | [], taken => .ok taken
  | f :: fs, taken => do
    match ← f.take input with
    | some v => takeAll input fs (taken.insert f.name v)
    | none => takeAll input fs taken

/-- The input as the schema accepts it: values of other names are dropped, defaults filled in. -/
def validate (s : Schema) (input : Data) : Except Rejection Data := takeAll input s.fields ∅

end Schema

end Onboarding
