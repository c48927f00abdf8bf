import TraceIdentity.Component
import TraceIdentity.Record.Stamp
/-!
# Departing calls

A call to another component gets a span id of its own. Its trace, flags and
state come from the current context; without a valid one it starts a trace.
All headers written for a call share its identity.
-/
namespace TraceIdentity

structure Departure where
  id : String
  parentId : Option String
  traceparent : String
  tracestate : Option String
  context : SpanContext
  deriving DecidableEq, Repr

def Departure.assign (d : Departure) (r : Record Record.Dependency) : Record Record.Dependency :=
  { r with
    body := { r.body with id := d.id }
    operation := { id := some d.context.trace.toHex, parentId := d.parentId } }

namespace Component

variable {σ : Type} (c : Component σ)

/-- The context a call continues: the current one, if it is valid. -/
def parent (current : Option SpanContext) : Option SpanContext :=
  current.filter SpanContext.isValid

def next (current : Option SpanContext) (s : σ) : SpanContext × σ :=
  SpanContext.childOf c.ids (parent current) s

def nextTraceparent (current : Option SpanContext) (s : σ) : String × σ :=
  let drawn := c.next current s
  (drawn.1.traceparent, drawn.2)

/-- The `tracestate` value of the current context, if it has entries. -/
def currentTracestate (current : Option SpanContext) : Option String :=
  current.bind fun ctx => ctx.state.header?

/-- The `Request-Context` value of this component, empty while its id is unknown. -/
def requestContext : String :=
  AppId.write c.appId

/-- The component that sent a response, empty if it is unknown or this one. -/
def targetOf (response : String) : String :=
  AppId.target response c.appId

def send (current : Option SpanContext) (h : Headers) (s : σ) : Departure × Headers × σ :=
  let drawn := c.next current s
  let d : Departure :=
    { id := drawn.1.legacyId
      parentId := (parent current).map SpanContext.legacyId
      traceparent := drawn.1.traceparent
      tracestate := drawn.1.state.header?
      context := drawn.1 }
  let h := h.setTraceContext d.context
  let h := h.set? Headers.requestId (if c.settings.legacyCompat then some d.id else none)
  let h := h.set? Headers.requestContext
    (if c.requestContext = "" then none else some c.requestContext)
  (d, h, drawn.2)

end Component

end TraceIdentity
