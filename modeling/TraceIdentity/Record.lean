import TraceIdentity.Table
import TraceIdentity.Work.Phase
/-!
# Telemetry records

A record has a body that depends on what it reports, the operation it belongs
to, and properties. Requests and dependency calls also carry trace state.
-/
namespace TraceIdentity

/-- The operation a record belongs to and the record it was caused by. -/
structure Operation where
  id : Option String := none
  parentId : Option String := none
  deriving DecidableEq, Repr, Inhabited

namespace Operation

def idIsEmpty (o : Operation) : Bool :=
  o.id.all (· == "")

def parentIsEmpty (o : Operation) : Bool :=
  o.parentId.all (· == "")

end Operation

/-- A body of type `β` with what all records share. -/
structure Record (β : Type) where
  body : β
  operation : Operation := {}
  properties : Table String := .empty
  deriving DecidableEq, Repr

namespace Record

inductive Kind where
  | request
  | dependency
  | trace
  | exception
  deriving DecidableEq, Repr

namespace Kind

def carriesTraceState : Kind → Bool
  | request | dependency => true
  | trace | exception => false

def name : Kind → String
  | request => "request"
  | dependency => "dependency"
  | trace => "trace"
  | exception => "exception"

def ofName? (s : String) : Option Kind :=
  [request, dependency, trace, exception].find? (·.name == s)

@[simp] theorem ofName?_name (k : Kind) : ofName? k.name = some k := by
  cases k <;> decide

end Kind

structure Request where
  id : String := ""
  name : String := ""
  source : Option String := none
  responseCode : Option UInt16 := none
  success : Option Bool := none
  deriving DecidableEq, Repr

/-- A call this component made. -/
structure Dependency where
  id : String := ""
  name : String := ""
  target : Option String := none
  type : Option String := none
  deriving DecidableEq, Repr

/-- A line of a log. -/
structure Trace where
  message : String := ""
  deriving DecidableEq, Repr

/-- An error that was caught. -/
structure Exception where
  typeName : String := ""
  message : String := ""
  deriving DecidableEq, Repr

/-- A body of any kind. -/
inductive Body where
  | request (body : Request)
  | dependency (body : Dependency)
  | trace (body : Trace)
  | exception (body : Exception)
  deriving DecidableEq, Repr

/-- Bodies of a known kind. -/
class HasKind (β : Type) where
  kind : β → Kind

instance : HasKind Request := ⟨fun _ => .request⟩
instance : HasKind Dependency := ⟨fun _ => .dependency⟩
instance : HasKind Trace := ⟨fun _ => .trace⟩
instance : HasKind Exception := ⟨fun _ => .exception⟩

instance : HasKind Body where
  kind
    | .request _ => .request
    | .dependency _ => .dependency
    | .trace _ => .trace
    | .exception _ => .exception

def kind {β : Type} [HasKind β] (r : Record β) : Kind :=
  HasKind.kind r.body

/-- Change the body only. -/
def map {β γ : Type} (f : β → γ) (r : Record β) : Record γ :=
  { body := f r.body, operation := r.operation, properties := r.properties }

def withProperty {β : Type} (r : Record β) (key value : String) : Record β :=
  { r with properties := r.properties.insert key value }

/-- Add the properties whose keys the record does not have. -/
def merge {β : Type} (r : Record β) (entries : List (String × String)) : Record β :=
  { r with properties := r.properties.fillAll entries }

def request? (r : Record Body) : Option (Record Request) :=
  match r.body with
  | .request body => some (r.map fun _ => body)
  | _ => none

def dependency? (r : Record Body) : Option (Record Dependency) :=
  match r.body with
  | .dependency body => some (r.map fun _ => body)
  | _ => none

/-- A record about nothing but its name, and for an exception its message. -/
def named (kind : Kind) (name message : String) : Record Body :=
  match kind with
  | .request => { body := .request { name } }
  | .dependency => { body := .dependency { name } }
  | .trace => { body := .trace { message := name } }
  | .exception => { body := .exception { typeName := name, message } }

def setOutcome (r : Record Request) (o : Work.Outcome) : Record Request :=
  let done := { r with body := { r.body with success := some o.isSuccess } }
  match o with
  | .completed status => { done with body := { done.body with responseCode := some status } }
  | .timedOut => done.withProperty "timeout" "true"
  | .errored message => done.withProperty "error" message

end Record

end TraceIdentity
