import TraceIdentity.IdSource
import TraceIdentity.TraceState
/-!
# Span contexts

The identity of one span of a trace, with its flags and trace state. A child
keeps all but the span id of its parent; without a usable parent a new trace
starts.
-/
namespace TraceIdentity

structure SpanContext where
  trace : TraceId
  span : SpanId
  flags : TraceFlags := {}
  state : TraceState := {}
  exportable : Bool := true
  deriving DecidableEq, Repr

namespace SpanContext

/-- Only the trace id decides whether a context can be continued. -/
def isValid (c : SpanContext) : Bool :=
  !c.trace.isZero

def withSampled (c : SpanContext) (sampled : Bool) : SpanContext :=
  { c with flags := c.flags.withSampled sampled }

/-- The hierarchical id `|trace.span.` of a context. -/
def legacyId (c : SpanContext) : String :=
  "|" ++ c.trace.toHex ++ "." ++ c.span.toHex ++ "."

section Draw

variable {σ : Type} (ids : IdSource σ)

/-- Start a trace: a trace id is drawn first, then a span id. -/
def root (s : σ) : SpanContext × σ :=
  let t := ids.trace s
  let p := ids.span t.2
  ({ trace := t.1, span := p.1 }, p.2)

/-- Continue `c` under a fresh span id, or start a trace if it is not valid. -/
def child (c : SpanContext) (s : σ) : SpanContext × σ :=
  if c.isValid then
    let p := ids.span s
    ({ c with span := p.1, exportable := true }, p.2)
  else root ids s

def childOf (parent : Option SpanContext) (s : σ) : SpanContext × σ :=
  match parent with
  | some c => child ids c s
  | none => root ids s

end Draw

def dump (c : SpanContext) : String :=
  "SpanContext \x7b trace_id: " ++ c.trace.dump ++ ", span_id: " ++ c.span.dump
    ++ ", flags: " ++ c.flags.dump ++ ", trace_state: " ++ c.state.dump
    ++ ", exportable: " ++ toString c.exportable ++ " \x7d"

end SpanContext

end TraceIdentity
