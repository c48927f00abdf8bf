import TraceIdentity.Proofs.SpanContext.Traceparent
import TraceIdentity.Proofs.TraceState.Clean
/-!
# Portable contexts

A context is portable if headers can carry all of it. A source that never draws
zeros makes every root portable, and every child of a clean context.
-/
namespace TraceIdentity.SpanContext

/-- A context that survives being written to headers. -/
structure Portable (c : SpanContext) : Prop where
  trace_ne_zero : c.trace.isZero = false
  span_ne_zero : c.span.isZero = false
  clean : c.state.AllClean

theorem isValid_of_trace {c : SpanContext} (ht : c.trace.isZero = false) : c.isValid = true := by
  simp [isValid, ht]

section Draw

variable {σ : Type} {ids : IdSource σ}

theorem child_of_isValid {c : SpanContext} (hv : c.isValid = true) (s : σ) :
    c.child ids s = ({ c with span := (ids.span s).1, exportable := true }, (ids.span s).2) := by
  rw [child, if_pos hv]

theorem portable_root (hz : ids.NeverZero) (s : σ) : (root ids s).1.Portable where
  trace_ne_zero := (hz s).1
  span_ne_zero := (hz _).2
  clean := TraceState.allClean_empty

theorem portable_child (hz : ids.NeverZero) {c : SpanContext} (hc : c.state.AllClean) (s : σ) :
    (c.child ids s).1.Portable := by
  cases hv : c.isValid with
  | false =>
    rw [child, if_neg (by simp [hv])]
    exact portable_root hz s
  | true =>
    rw [child_of_isValid hv]
    exact ⟨by simpa [isValid] using hv, (hz s).2, hc⟩

end Draw

end TraceIdentity.SpanContext
