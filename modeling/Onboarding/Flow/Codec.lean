import Onboarding.Flow.Basic
import Onboarding.Form.Codec

/-! The written form of flow results and of the list of flows in progress. -/
namespace Onboarding

def Notes.toValue (n : Notes) : Value := .object (n.toList.map fun (name, s) => (name, .text s))

/-- The fields of a result after its type, flow and handler. -/
def FlowResult.Body.fields : FlowResult.Body → List (String × Value)
  | form p =>
    [("step_id", .text p.step),
      ("data_schema", p.schema.toValue),
      ("errors", Notes.toValue p.errors),
      ("description_placeholders", Notes.toValue p.placeholders)]
  | created title data options version entryId =>
    [("title", .text title),
      ("data", data.toValue),
      ("options", options.toValue),
      ("version", .ofNat version.toNat)]
    ++ match entryId with
      | none => []
      | some id => [("result", .text id)]
  | aborted reason =>
    [("reason", .text reason), ("description_placeholders", Notes.toValue ∅)]

def FlowResult.Body.key : FlowResult.Body → String
  | form _ => "form"
  | created .. => "create_entry"
  | aborted _ => "abort"

def FlowResult.toValue (r : FlowResult) : Value :=
  .object <|
    [("type", .text r.body.key), ("flow_id", .text r.flowId), ("handler", .text r.handler)]
    ++ r.body.fields

def Progress.toValue (p : Progress) : Value :=
  .object [
    ("flow_id", .text p.flowId),
    ("handler", .text p.handler),
    ("source", .text p.source.key),
    ("step_id", .ofOption .text p.step),
    ("unique_id", .ofOption .text p.uniqueId)]

end Onboarding
