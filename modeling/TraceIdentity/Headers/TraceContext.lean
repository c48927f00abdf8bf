import TraceIdentity.Headers
import TraceIdentity.SpanContext.Traceparent
/-!
# Trace context in headers

A context is carried by two headers: its ids and flags in `traceparent` and, if
there are entries, its state in `tracestate`.
-/
namespace TraceIdentity.Headers

/-- How many trace state members are kept unless told otherwise. -/
def defaultLimit : Nat := 32

/-- The trace state of a request, empty if there is no such header. -/
def traceState (h : Headers) (limit : Nat) : TraceState :=
  match h.value? tracestate with
  | some value => TraceState.parse value limit
  | none => {}

def traceContext (h : Headers) (limit : Nat) : Except Fault SpanContext :=
  match h.value? traceparent with
  | none => .error .traceparentAbsent
  | some value => (SpanContext.ofTraceparent value).map ({ · with state := h.traceState limit })

def setTraceContext (h : Headers) (c : SpanContext) : Headers :=
  (h.set traceparent c.traceparent).set? tracestate c.state.header?

end TraceIdentity.Headers
