import TraceIdentity.IdSource.Counting
import TraceIdentity.Proofs.Component.Exchange
/-!
# The headers of a call, piece by piece

A component sends a call with all its headers, and it also gives each of them on its
own. Both agree with one exception: the state of a current context without a trace
is given on its own, while no call continues that context or carries its state.
-/
namespace TraceIdentity.Component

variable {σ : Type} (c : Component σ)

/-- The current context has a state, but no trace that a call could continue. -/
def Stranded (current : Option SpanContext) : Prop :=
  ∃ ctx, current = some ctx ∧ ctx.isValid = false ∧ ctx.state.isEmpty = false

/-- A call with no other headers is sent with what is given for each header on its own, and
without a header for which nothing is given. -/
structure AgreesInPieces (current : Option SpanContext) (s : σ) : Prop where
  traceparent : (c.send current .empty s).2.1.find? Headers.traceparent =
    some (c.nextTraceparent current s).1
  tracestate : (c.send current .empty s).2.1.find? Headers.tracestate = currentTracestate current
  reported : (c.send current .empty s).1.tracestate = currentTracestate current
  requestContext : (c.send current .empty s).2.1.find? Headers.requestContext =
    if c.requestContext = "" then none else some c.requestContext

/-- The `Request-Context` value that is written for a call, if there is one. -/
def requestContext? : Option String :=
  if c.requestContext = "" then none else some c.requestContext

/-- How the headers of a call relate to the pieces, over whatever headers were there before. -/
structure SentInPieces (current : Option SpanContext) (s : σ) : Prop where
  traceparent : ∀ h, (c.send current h s).2.1.find? Headers.traceparent =
    some (c.nextTraceparent current s).1 ∧ (c.send current h s).2.2 = (c.nextTraceparent current s).2
  requestContext : ∀ h, Headers.Updated h (c.send current h s).2.1 Headers.requestContext
    c.requestContext?
  tracestate : ∀ h, Headers.Updated h (c.send current h s).2.1 Headers.tracestate
    (c.send current h s).1.tracestate
  /-- A call is sent with the state of the context that it continues. -/
  continued : ∀ h, (c.send current h s).1.tracestate = currentTracestate (parent current)
  agrees_iff : c.AgreesInPieces current s ↔ ¬ Stranded current

section Sent

variable (current : Option SpanContext) (h : Headers) (s : σ)

theorem updated_requestContext_send :
    Headers.Updated h (c.send current h s).2.1 Headers.requestContext c.requestContext? := by
  have hcontext : Headers.Updated h (h.setTraceContext (c.next current s).1)
      Headers.requestContext none :=
    Headers.updated_setTraceContext_of_other h _ (by decide) (by decide)
  exact (hcontext.set?_other (by decide) _).set?_self c.requestContext?

theorem tracestate_send :
    (c.send current h s).1.tracestate = currentTracestate (parent current) := by
  change (c.next current s).1.state.header? = _
  cases hp : parent current with
  | none =>
    rw [c.next_of_no_parent hp]
    rfl
  | some ctx =>
    rw [c.next_of_parent hp]
    rfl

end Sent

theorem parent_some (ctx : SpanContext) :
    parent (some ctx) = if ctx.isValid then some ctx else none :=
  Option.filter_some

/-- A call continues the state that is current, unless that one is stranded. -/
theorem currentTracestate_parent_iff (current : Option SpanContext) :
    currentTracestate (parent current) = currentTracestate current ↔ ¬ Stranded current := by
  cases current with
  | none => simp [Stranded, parent]
  | some ctx =>
    cases hv : ctx.isValid with
    | true => simp [Stranded, parent_some, hv]
    | false =>
      cases he : ctx.state.isEmpty <;>
        simp [Stranded, parent_some, currentTracestate, TraceState.header?, hv, he]

theorem agreesInPieces_iff (current : Option SpanContext) (s : σ) :
    c.AgreesInPieces current s ↔ ¬ Stranded current := by
  have hstate := c.tracestate_send current .empty s
  rw [← currentTracestate_parent_iff, ← hstate]
  constructor
  · exact AgreesInPieces.reported
  · intro hreported
    constructor
    · exact Headers.find?_of_get? (c.get?_traceparent_send current .empty s)
    · rw [(c.updated_tracestate_send current .empty s).find?_of_empty, hreported]
    · exact hreported
    · exact (c.updated_requestContext_send current .empty s).find?_of_empty

theorem send_in_pieces (current : Option SpanContext) (s : σ) : c.SentInPieces current s where
  traceparent h := ⟨Headers.find?_of_get? (c.get?_traceparent_send current h s), rfl⟩
  requestContext h := c.updated_requestContext_send current h s
  tracestate h := c.updated_tracestate_send current h s
  continued h := c.tracestate_send current h s
  agrees_iff := c.agreesInPieces_iff current s

/-- The state of a context without a trace is given on its own, but no call is sent with it. -/
theorem not_agreesInPieces_of_stranded :
    let c : Component IdSource.Drawn := { settings := {}, ids := .counting }
    let current : SpanContext :=
      { trace := Octets.zero 16, span := Octets.ofNat 8 1, state := ⟨[("a", "1")]⟩ }
    currentTracestate (some current) = some "a=1" ∧
      (c.send (some current) .empty {}).2.1.find? Headers.tracestate = none ∧
        ¬ c.AgreesInPieces (some current) {} := by
  intro c current
  have hgiven : currentTracestate (some current) = some "a=1" := by decide +kernel
  have hsent : (c.send (some current) .empty {}).2.1.find? Headers.tracestate = none := by
    decide +kernel
  refine ⟨hgiven, hsent, ?_⟩
  intro hagrees
  have hstate := hagrees.tracestate
  rw [hgiven, hsent] at hstate
  cases hstate

end TraceIdentity.Component
