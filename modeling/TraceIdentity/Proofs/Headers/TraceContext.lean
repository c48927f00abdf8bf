import TraceIdentity.Headers.TraceContext
import TraceIdentity.Proofs.Headers.Order
import TraceIdentity.Proofs.SpanContext.Traceparent
import TraceIdentity.Proofs.TraceState.Clean
/-!
# Reading a written trace context

A context with non-zero ids is read back from the headers it was written to. Its
state is read back too, unless it is empty and a state was there before.
-/
namespace TraceIdentity.Headers

theorem traceparent_ne_empty (c : SpanContext) : c.traceparent ≠ "" := by
  intro h
  have hl := congrArg String.toList h
  rw [SpanContext.toList_traceparent] at hl
  cases hl

theorem get?_traceparent_setTraceContext (h : Headers) (c : SpanContext) :
    (h.setTraceContext c).get? traceparent = some c.traceparent := by
  rw [setTraceContext, get?_set?_of_ne (by decide), get?_set, if_pos rfl]

theorem updated_tracestate_setTraceContext (h : Headers) (c : SpanContext) :
    Updated h (h.setTraceContext c) tracestate c.state.header? := by
  have hparent : Updated h (h.set? traceparent (some c.traceparent)) tracestate none :=
    (Updated.refl h tracestate).set?_other (by decide) _
  exact hparent.set?_self c.state.header?

theorem updated_setTraceContext_of_other (h : Headers) (c : SpanContext) {name : String}
    (hparent : sameName traceparent name = false) (hstate : sameName tracestate name = false) :
    Updated h (h.setTraceContext c) name none := by
  have hset : Updated h (h.set? traceparent (some c.traceparent)) name none :=
    (Updated.refl h name).set?_other hparent _
  exact hset.set?_other hstate c.state.header?

theorem traceState_congr {h k : Headers} (hstate : h.value? tracestate = k.value? tracestate)
    (limit : Nat) : h.traceState limit = k.traceState limit := by
  rw [traceState, traceState, hstate]

/-- A trace context is read from two headers and nothing else. -/
theorem traceContext_congr {h k : Headers} (hparent : h.value? traceparent = k.value? traceparent)
    (hstate : h.value? tracestate = k.value? tracestate) (limit : Nat) :
    h.traceContext limit = k.traceContext limit := by
  rw [traceContext, traceContext, traceState_congr hstate, hparent]

theorem traceContext_of_value? {h : Headers} {c : SpanContext} (ht : c.trace.isZero = false)
    (hs : c.span.isZero = false) (hv : h.value? traceparent = some c.traceparent) (limit : Nat) :
    h.traceContext limit =
      .ok { trace := c.trace, span := c.span, flags := c.flags, state := h.traceState limit } := by
  rw [traceContext, hv]
  simp only [SpanContext.ofTraceparent_traceparent ht hs]
  rfl

/-- A clean state is read back up to the limit if no other state was there. -/
theorem traceState_of_value? {h : Headers} {s : TraceState} (hc : s.AllClean)
    (hv : h.value? tracestate = s.header?) (limit : Nat) :
    h.traceState limit = ⟨s.entries.take limit⟩ := by
  rw [traceState, hv, TraceState.header?]
  cases he : s.isEmpty with
  | true =>
    have hnil : s.entries = [] := List.isEmpty_iff.mp he
    simp [hnil]
  | false => exact TraceState.parse_toHeader hc limit

end TraceIdentity.Headers
