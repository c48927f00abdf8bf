import TraceIdentity.Component
import TraceIdentity.Record.Stamp
/-!
# Arriving requests

The identity of a request is taken from its headers: a readable traceparent
continues the trace of the caller, else a request id continues its operation,
else a trace starts. Headers that cannot be read never fail the request, and
every request gets a span id of its own.
-/
namespace TraceIdentity

inductive Path where
  | traceparent
  | legacy
  | fresh
  deriving DecidableEq, Repr

def Path.name : Path → String
  | .traceparent => "traceparent"
  | .legacy => "legacy"
  | .fresh => "fresh"

/-- What the headers of a request say about its caller. -/
inductive Caller where
  | traceparent (parent : SpanContext)
  | legacy (id : RequestId)
  | unknown
  deriving DecidableEq, Repr

namespace Caller

/-- Ask for the traceparent first and for the request id only if it may be used. -/
def ofHeaders (s : Settings) (h : Headers) : Caller :=
  match h.traceContext s.maxMembers with
  | .ok parent => traceparent parent
  | .error _ =>
    match h.value? Headers.requestId with
    | some raw => if s.legacyCompat then legacy (RequestId.parse raw) else unknown
    | none => unknown

def path : Caller → Path
  | traceparent _ => .traceparent
  | legacy _ => .legacy
  | unknown => .fresh

def parentId : Caller → Option String
  | traceparent parent => some parent.legacyId
  | legacy id => some id.raw
  | unknown => none

/-- The property that keeps a legacy root which is not a trace id. -/
def legacyRootKey : String := "ai_legacyRootId"

def properties : Caller → Table String
  | traceparent parent => Table.empty.fillAll parent.state.properties.entries
  | legacy id =>
    match id.rootTrace with
    | .ok _ => .empty
    | .error _ => Table.empty.insert legacyRootKey id.root
  | unknown => .empty

/-- The context of the request: a child of the parent, or a new span of the legacy trace. -/
def context {σ : Type} (ids : IdSource σ) (caller : Caller) (s : σ) : SpanContext × σ :=
  match caller with
  | traceparent parent => parent.child ids s
  | legacy id =>
    match id.rootTrace with
    | .ok trace =>
      let p := ids.span s
      ({ trace, span := p.1 }, p.2)
    | .error _ => SpanContext.root ids s
  | unknown => SpanContext.root ids s

end Caller

structure Arrival where
  operationId : String
  parentId : Option String
  selfId : String
  properties : Table String
  source : Option String
  path : Path
  context : SpanContext
  deriving DecidableEq, Repr

namespace Arrival

def legacyRoot (a : Arrival) : Option String :=
  a.properties.find? Caller.legacyRootKey

/-- Give a request record its identity; properties it has are kept. -/
def assign (a : Arrival) (r : Record Record.Request) : Record Record.Request :=
  { body := { r.body with id := a.selfId, source := a.source <|> r.body.source }
    operation := { id := some a.operationId, parentId := a.parentId }
    properties := r.properties.fillAll a.properties.entries }

end Arrival

namespace Component

variable {σ : Type} (c : Component σ)

/-- The application id of the caller, if it names another component. -/
def sourceOf (h : Headers) : Option String :=
  match h.value? Headers.requestContext with
  | some value => (AppId.other value c.appId).toOption
  | none => none

def receive (h : Headers) (s : σ) : Arrival × σ :=
  let caller := Caller.ofHeaders c.settings h
  let drawn := caller.context c.ids s
  let context := { drawn.1 with exportable := false }
  ({ operationId := context.trace.toHex
     parentId := caller.parentId
     selfId := context.legacyId
     properties := caller.properties
     source := c.sourceOf h
     path := caller.path
     context }, drawn.2)

/-- Name this component in a response that names none; says whether it did. -/
def introduce (response : Headers) : Bool × Headers :=
  if response.contains Headers.requestContext then (false, response)
  else
    match c.appId with
    | some _ => (true, response.set Headers.requestContext (AppId.write c.appId))
    | none => (false, response)

end Component

end TraceIdentity
