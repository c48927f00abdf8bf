import TraceIdentity.Record
import TraceIdentity.SpanContext
/-!
# Stamping records

A record made while a context is current is filled in from it. Only gaps are
filled: an operation id that is there keeps its parent too, and a property that
is there keeps its value.
-/
namespace TraceIdentity

/-- Join the operation of `c`, unless there is one already. -/
def Operation.stamp (o : Operation) (c : SpanContext) : Operation :=
  if o.idIsEmpty then
    { id := some c.trace.toHex
      parentId := if o.parentIsEmpty then some c.legacyId else o.parentId }
  else o

namespace Record

variable {β : Type} [HasKind β]

/-- Fill the gaps of a record from a valid context. -/
def stampWith (r : Record β) (c : SpanContext) : Record β :=
  { r with
    operation := r.operation.stamp c
    properties :=
      if r.kind.carriesTraceState then r.properties.fillAll c.state.properties.entries
      else r.properties }

/-- Fill the gaps of a record from the current context, if it is valid. -/
def stamp (r : Record β) (current : Option SpanContext) : Record β :=
  match current.filter SpanContext.isValid with
  | some c => r.stampWith c
  | none => r

end Record

end TraceIdentity
