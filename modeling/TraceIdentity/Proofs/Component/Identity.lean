import TraceIdentity.Proofs.Component.Exchange
import TraceIdentity.Proofs.Component.Told
import TraceIdentity.Proofs.IdSource.NeverZero
/-!
# The identity of a request

Every request gets an identity of its own, whatever its headers are. The headers
decide which trace it belongs to and who its parent is; the source is asked for
one span id, and for a trace id only if no trace can be continued.
-/
namespace TraceIdentity

namespace SpanContext

variable {σ : Type}

/-- The span id was drawn, and nothing else. -/
def DrewSpan (ids : IdSource σ) (s : σ) (c : SpanContext) (s' : σ) : Prop :=
  (c.span, s') = ids.span s

/-- The trace id was drawn and then the span id, and nothing else. -/
def DrewBoth (ids : IdSource σ) (s : σ) (c : SpanContext) (s' : σ) : Prop :=
  c.trace = (ids.trace s).1 ∧ (c.span, s') = ids.span (ids.trace s).2

end SpanContext

/-- The identity of a request with headers `h`, for which a source in state `s` was left in `s'`. -/
structure Arrival.Identified {σ : Type} (c : Component σ) (h : Headers) (s : σ) (a : Arrival)
    (s' : σ) : Prop where
  traced : a.path = .traceparent ↔ h.Traced
  legacy : a.path = .legacy ↔ ¬ h.Traced ∧ c.settings.legacyCompat = true ∧
    ∃ raw, h.value? Headers.requestId = some raw
  fresh : a.path = .fresh ↔
    ¬ h.Traced ∧ (c.settings.legacyCompat = true → h.value? Headers.requestId = none)
  trace_ne_zero : a.context.trace.isZero = false
  span_ne_zero : a.context.span.isZero = false
  reread : SpanContext.ofTraceparent a.context.traceparent =
    .ok { trace := a.context.trace, span := a.context.span, flags := a.context.flags }
  exportable : a.context.exportable = false
  operationId : a.operationId = a.context.trace.toHex ∧ looksLikeTraceId a.operationId = true
  selfId : a.selfId = "|" ++ a.operationId ++ "." ++ a.context.span.toHex ++ "."
  of_traceparent : ∀ tp, h.value? Headers.traceparent = some tp → a.path = .traceparent →
    a.parentId = some (SpanContext.legacyIdOfTraceparent tp) ∧
      (∃ parent, SpanContext.ofTraceparent tp = .ok parent ∧
        a.context.trace = parent.trace ∧ a.context.flags = parent.flags) ∧
          a.context.DrewSpan c.ids s s'
  of_legacy : ∀ raw, h.value? Headers.requestId = some raw → a.path = .legacy →
    a.parentId = some raw ∧ a.context.flags = {} ∧ a.context.state = {} ∧
      match (RequestId.parse raw).rootTrace with
      | .ok trace => a.context.trace = trace ∧ a.context.DrewSpan c.ids s s'
      | .error _ => a.context.DrewBoth c.ids s s'
  of_fresh : a.path = .fresh → a.parentId = none ∧ a.context.flags = {} ∧ a.context.state = {} ∧
    a.context.DrewBoth c.ids s s'

@[simp] theorem RequestId.raw_parse (header : String) : (parse header).raw = header := by
  unfold parse
  split <;> rfl

namespace Caller

variable {σ : Type} {st : Settings} {h : Headers} {caller : Caller} (ids : IdSource σ) (s : σ)

theorem Told.of_traceparent (ht : Told st h caller) {tp : String}
    (hvalue : h.value? Headers.traceparent = some tp) (hpath : caller.path = .traceparent) :
    caller.parentId = some (SpanContext.legacyIdOfTraceparent tp) ∧
      (∃ parent, SpanContext.ofTraceparent tp = .ok parent ∧
        (caller.context ids s).1.trace = parent.trace ∧
          (caller.context ids s).1.flags = parent.flags) ∧
        (caller.context ids s).1.DrewSpan ids s (caller.context ids s).2 := by
  cases ht with
  | traceparent tp' parent hvalue' hread =>
    obtain rfl : tp' = tp := Option.some.inj (hvalue'.symm.trans hvalue)
    have hnonzero := (SpanContext.isZero_of_ofTraceparent hread).1
    have hvalid : SpanContext.isValid { parent with state := h.traceState st.maxMembers } = true :=
      SpanContext.isValid_of_trace hnonzero
    rw [context, SpanContext.child_of_isValid hvalid, SpanContext.legacyIdOfTraceparent_of_ok hread]
    exact ⟨rfl, ⟨parent, hread, rfl, rfl⟩, rfl⟩
  | legacy raw hnone hcompat hrest => cases hpath
  | unknown hnone hrest => cases hpath

theorem Told.of_legacy (ht : Told st h caller) {raw : String}
    (hvalue : h.value? Headers.requestId = some raw) (hpath : caller.path = .legacy) :
    caller.parentId = some raw ∧ (caller.context ids s).1.flags = {} ∧
      (caller.context ids s).1.state = {} ∧
        match (RequestId.parse raw).rootTrace with
        | .ok trace => (caller.context ids s).1.trace = trace ∧
            (caller.context ids s).1.DrewSpan ids s (caller.context ids s).2
        | .error _ => (caller.context ids s).1.DrewBoth ids s (caller.context ids s).2 := by
  cases ht with
  | traceparent tp parent hvalue' hread => cases hpath
  | legacy raw' hnone hcompat hvalue' =>
    obtain rfl : raw' = raw := Option.some.inj (hvalue'.symm.trans hvalue)
    cases hroot : (RequestId.parse raw').rootTrace with
    | ok trace =>
      simp only [parentId, RequestId.raw_parse, context, hroot, true_and]
      rfl
    | error f =>
      simp only [parentId, RequestId.raw_parse, context, hroot, true_and]
      exact ⟨rfl, rfl, rfl, rfl⟩
  | unknown hnone hrest => cases hpath

theorem Told.of_fresh (ht : Told st h caller) (hpath : caller.path = .fresh) :
    caller.parentId = none ∧ (caller.context ids s).1.flags = {} ∧
      (caller.context ids s).1.state = {} ∧
        (caller.context ids s).1.DrewBoth ids s (caller.context ids s).2 := by
  cases ht with
  | traceparent tp parent hvalue hread => cases hpath
  | legacy raw hnone hcompat hvalue => cases hpath
  | unknown hnone hrest => exact ⟨rfl, rfl, rfl, rfl, rfl⟩

end Caller

theorem looksLikeTraceId_toHex (t : TraceId) : looksLikeTraceId t.toHex = true := by
  rw [looksLikeTraceId, Octets.toList_toHex]
  exact t.isLower_digits

namespace Component

variable {σ : Type} (c : Component σ)

theorem receive_identified (hz : c.ids.NeverZero) (h : Headers) (s : σ) :
    (c.receive h s).1.Identified c h s (c.receive h s).2 := by
  have htold := Caller.told c.settings h
  have hportable := c.portable_receive hz h s
  constructor
  · exact htold.path_eq_traceparent_iff
  · exact htold.path_eq_legacy_iff
  · exact htold.path_eq_fresh_iff
  · exact hportable.trace_ne_zero
  · exact hportable.span_ne_zero
  · exact SpanContext.ofTraceparent_traceparent hportable.trace_ne_zero hportable.span_ne_zero
  · rfl
  · exact ⟨rfl, looksLikeTraceId_toHex _⟩
  · rfl
  · intro tp hvalue hpath
    exact htold.of_traceparent c.ids s hvalue hpath
  · intro raw hvalue hpath
    exact htold.of_legacy c.ids s hvalue hpath
  · intro hpath
    exact htold.of_fresh c.ids s hpath

/-- A request whose traceparent cannot be read goes on with its request id. -/
theorem receive_identified_of_legacy :
    let c : Component UInt64 := { settings := {}, ids := .scrambled }
    let h := Headers.ofList
      [(Headers.traceparent, "00-0123"), (Headers.requestId, "|rootId.1.2.3.")]
    c.ids.NeverZero ∧ (c.receive h 1).1.path = .legacy ∧
      (c.receive h 1).1.parentId = some "|rootId.1.2.3." ∧
        (c.receive h 1).1.Identified c h 1 (c.receive h 1).2 := by
  intro c h
  have hpath : (c.receive h 1).1.path = .legacy := by decide +kernel
  have hparent : (c.receive h 1).1.parentId = some "|rootId.1.2.3." := by decide +kernel
  exact ⟨IdSource.neverZero_scrambled, hpath, hparent,
    c.receive_identified IdSource.neverZero_scrambled h 1⟩

end Component

end TraceIdentity
