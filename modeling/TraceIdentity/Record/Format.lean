import TraceIdentity.Json
import TraceIdentity.Record
/-!
# The record format

Records, operations and outcomes as JSON objects, tagged by their kind. Absent
optional fields are not written; unknown fields are not read. Arrays are read as
well: they have the values of the fields in order and no names.
-/
namespace TraceIdentity
open Json

namespace Operation

def fieldNames : List String :=
  ["id", "parent_id"]

def fields (o : Operation) : List (String × Option Json) :=
  [("id", o.id.map string), ("parent_id", o.parentId.map string)]

def toJson (o : Operation) : Json :=
  object (present o.fields)

def ofJson? (j : Json) : Option Operation := do
  let fields ← j.fields? fieldNames
  let id ← optional string? fields "id"
  let parentId ← optional string? fields "parent_id"
  return { id, parentId }

end Operation

namespace Work

namespace Phase

def toJson (p : Phase) : Json :=
  string p.name

def ofJson? (j : Json) : Option Phase :=
  j.name?.bind ofName?

end Phase

namespace Outcome

def toJson : Outcome → Json
  | completed status => object [("outcome", string "completed"), ("status_code", word status)]
  | timedOut => object [("outcome", string "timed_out")]
  | errored message => object [("outcome", string "errored"), ("message", string message)]

def ofFields? (fields : List (String × Json)) : Option Outcome := do
  match ← required string? fields "outcome" with
  | "completed" => return completed (← required word? fields "status_code")
  | "timed_out" => return timedOut
  | "errored" => return errored (← required string? fields "message")
  | _ => none

/-- The values of the fields in order, the tag first. -/
def ofItems? : List Json → Option Outcome
  | [string "completed", status] => status.word?.map completed
  | [string "timed_out"] => some timedOut
  | [string "errored", message] => message.string?.map errored
  | _ => none

def ofJson? : Json → Option Outcome
  | object fields => ofFields? fields
  | array items => ofItems? items
  | _ => none

end Outcome

end Work

namespace Record

def Kind.toJson (k : Kind) : Json :=
  string k.name

def Kind.ofJson? (j : Json) : Option Kind :=
  j.name?.bind ofName?

/-- The fields of a record of this kind, less its tag, in order. -/
def Kind.fieldNames : Kind → List String
  | .request =>
    ["id", "name", "source", "response_code", "success", "operation", "properties"]
  | .dependency => ["id", "name", "target", "dependency_type", "operation", "properties"]
  | .trace => ["message", "operation", "properties"]
  | .exception => ["type_name", "message", "operation", "properties"]

/-- The fields that depend on the kind of the body. -/
def Body.fields : Body → List (String × Option Json)
  | .request b =>
    [("id", string b.id), ("name", string b.name), ("source", b.source.map string),
      ("response_code", b.responseCode.map word), ("success", b.success.map bool)]
  | .dependency b =>
    [("id", string b.id), ("name", string b.name), ("target", b.target.map string),
      ("dependency_type", b.type.map string)]
  | .trace b => [("message", string b.message)]
  | .exception b => [("type_name", string b.typeName), ("message", string b.message)]

def Body.ofFields? (kind : Kind) (fields : List (String × Json)) : Option Body :=
  match kind with
  | .request => do
    let id ← required string? fields "id"
    let name ← required string? fields "name"
    let source ← optional string? fields "source"
    let responseCode ← optional word? fields "response_code"
    let success ← optional bool? fields "success"
    return .request { id, name, source, responseCode, success }
  | .dependency => do
    let id ← required string? fields "id"
    let name ← required string? fields "name"
    let target ← optional string? fields "target"
    let type ← optional string? fields "dependency_type"
    return .dependency { id, name, target, type }
  | .trace => do
    let message ← required string? fields "message"
    return .trace { message }
  | .exception => do
    let typeName ← required string? fields "type_name"
    let message ← required string? fields "message"
    return .exception { typeName, message }

def fields (r : Record Body) : List (String × Option Json) :=
  ("type", some r.kind.toJson) :: r.body.fields ++
    [("operation", some r.operation.toJson), ("properties", some (ofTable r.properties))]

def toJson (r : Record Body) : Json :=
  object (present r.fields)

/-- The fields of an object, or of an array that has the tag first. -/
def fields? : Json → Option (List (String × Json))
  | object fields => some fields
  | array (tag :: items) => do
    let kind ← Kind.ofName? (← tag.string?)
    let fields ← (array items).fields? kind.fieldNames
    return ("type", tag) :: fields
  | _ => none

def ofJson? (j : Json) : Option (Record Body) := do
  let fields ← fields? j
  let kind ← Kind.ofName? (← required string? fields "type")
  let body ← Body.ofFields? kind fields
  let operation ← required Operation.ofJson? fields "operation"
  let properties ← withDefault table? .empty fields "properties"
  return { body, operation, properties }

end Record

end TraceIdentity
