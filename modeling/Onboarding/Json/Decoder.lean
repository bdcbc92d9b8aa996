import Onboarding.Json.Tree

/-! Reading typed data off a syntax tree. A decoder is told how many levels of nesting it may
still enter; what it does not look at may be nested to any depth. -/
namespace Onboarding

abbrev Decoder (α : Type) := Nat → Tree → Option α

/-- The number of levels that a document may be nested. -/
def Decoder.levels : Nat := 127

namespace Decoder

variable {α : Type}

/-- Enters a list or an object. -/
def enter (room : Nat) : Option Nat := if room = 0 then none else some (room - 1)

def text : Decoder String
  | _, .text s => s
  | _, _ => none

def bool : Decoder Bool
  | _, .bool b => some b
  | _, _ => none

/-- An integer of 32 bits without a sign. -/
def word : Decoder UInt32
  | _, .number (some (.integer n)) =>
    if 0 ≤ n ∧ n < UInt32.size then some (UInt32.ofNat n.toNat) else none
  | _, _ => none

/-- Null stands for nothing. -/
def optional (d : Decoder α) : Decoder (Option α)
  | _, .null => some none
  | room, t => (d room t).map some

def items (d : Decoder α) : Decoder (List α)
  | room, .list ts => do
    let room ← enter room
    ts.mapM (d room)
  | _, _ => none

/-- A named case: its name as a text, or as the only name of an object with the value null. -/
def choice (choose : String → Option α) : Decoder α
  | _, .text s => s.bind choose
  | room, .object [(name, .null)] => do
    let _ ← enter room
    choose (← name)
  | _, _ => none

/-- Fields of an object; of several with one name the last counts. -/
def lastWins (fields : List (String × α)) : Table String α :=
  fields.foldl (fun t (k, x) => t.insert k x) ∅

mutual

/-- Any value. -/
def value : Nat → Tree → Option Value
  | _, .null => some .null
  | _, .bool b => some (.bool b)
  | _, .number n => n.map .number
  | _, .text s => s.map .text
  | room, .list ts => do
    let room ← enter room
    return .list (← values room ts)
  | room, .object fs => do
    let room ← enter room
    return .object (lastWins (← fieldValues room fs)).toList

def values : Nat → List Tree → Option (List Value)
  | _, [] => some []
  | room, t :: ts => do return (← value room t) :: (← values room ts)

def fieldValues : Nat → List (Option String × Tree) → Option (List (String × Value))
  | _, [] => some []
  | room, (name, t) :: fs => do return (← name, ← value room t) :: (← fieldValues room fs)

end

/-- Free-form data. -/
def data : Decoder Data
  | room, .object fs => do
    let room ← enter room
    return lastWins (← fieldValues room fs)
  | _, _ => none

/-- The parts of a record, each under the name of its field. -/
abbrev Parts := Table String Tree

/-- Sorts the fields of an object: a known name may come once, other names are passed over. -/
def Parts.gather (names : List String) : List (Option String × Tree) → Parts → Option Parts
  | [], parts => some parts
  | (name, t) :: fs, parts => do
    let name ← name
    if name ∈ names then
      if name ∈ parts then none else gather names fs (parts.insert name t)
    else gather names fs parts

/-- A record with the given field names, written as an object, or as a list of its first fields,
`least` of them or more. -/
def parts (names : List String) (least : Nat) : Decoder (Nat × Parts)
  | room, .object fs => do
    let room ← enter room
    return (room, ← Parts.gather names fs ∅)
  | room, .list ts => do
    let room ← enter room
    guard (least ≤ ts.length ∧ ts.length ≤ names.length)
    return (room, lastWins (names.zip ts))
  | _, _ => none

/-- A field that has to be there. -/
def Parts.field (p : Parts) (room : Nat) (name : String) (d : Decoder α) : Option α :=
  p[name]?.bind (d room)

/-- A field that may be missing, with what then stands for it. -/
def Parts.fieldD (p : Parts) (room : Nat) (name : String) (d : Decoder α) (missing : α) :
    Option α :=
  match p[name]? with
  | none => some missing
  | some t => d room t

/-- Reads a whole text. -/
def ofText? (d : Decoder α) (s : String) : Option α := (Tree.ofText? s).bind (d levels)

end Decoder

end Onboarding
