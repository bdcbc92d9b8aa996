import Onboarding.Form.Schema
import Onboarding.Json.Decoder

/-! The written form of a schema: a list of fields, each with its kind among its own names. -/
namespace Onboarding

namespace FieldKind

def key : FieldKind → String
  | string => "string"
  | positiveInt => "positive_int"
  | port => "port"
  | boolean => "boolean"
  | select _ => "select"

/-- The kinds in order, each given the options that a choice would offer. -/
def all (options : List String) : List FieldKind :=
  [string, positiveInt, port, boolean, select options]

def fields : FieldKind → List (String × Value)
  | select options => [("type", .text "select"), ("options", .list (options.map .text))]
  | k => [("type", .text k.key)]

end FieldKind

namespace Field

/-- The fields that a field is written with. -/
def fields (f : Field) : List (String × Value) :=
  ("name", .text f.name) :: f.kind.fields ++ ("required", .bool f.required) ::
    (f.default.map fun v => ("default", v)).toList

def toValue (f : Field) : Value := .object f.fields

/-- The values written under a name. -/
def under (name : String) (fields : List (String × Value)) : List Value :=
  (fields.filter (·.1 == name)).map (·.2)

/-- The options of a choice, written exactly once. -/
def options? (fields : List (String × Value)) : Option (List String) :=
  match under "options" fields with
  | [.list items] => items.mapM Value.text?
  | _ => none

/-- The kind, named once by its key or its place. Only a choice looks at the options. -/
def kind? (fields : List (String × Value)) : Option FieldKind := do
  let kind ← match under "type" fields with
    | [.text s] => (FieldKind.all []).find? (·.key == s)
    | [.number (.integer n)] => if 0 ≤ n then (FieldKind.all [])[n.toNat]? else none
    | _ => none
  match kind with
  | .select _ => (options? fields).map .select
  | k => return k

def ownNames : List String := ["name", "required", "default"]

/-- The fields that describe the kind: all but the field's own. -/
def kindFields (fs : List (Option String × Tree)) : List (Option String × Tree) :=
  fs.filter fun (name, _) => !name.any ownNames.contains

def decoder : Decoder Field
  | room, .object fs => do
    let room ← Decoder.enter room
    let p ← Decoder.Parts.gather ownNames fs ∅
    let kind ← kind? (← Decoder.fieldValues room (kindFields fs))
    return {
      name := ← p.field room "name" .text
      kind
      required := ← p.field room "required" .bool
      default := ← p.fieldD room "default" (.optional .value) none }
  | _, _ => none

end Field

namespace Schema

def toValue (s : Schema) : Value := .list (s.fields.map Field.toValue)

def decoder : Decoder Schema := fun room t => (Decoder.items Field.decoder room t).map Schema.mk

def ofText? (s : String) : Option Schema := Decoder.ofText? decoder s

end Schema

end Onboarding
