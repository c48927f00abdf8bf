import TraceIdentity.Component.Arrival
import TraceIdentity.Component.Departure
import TraceIdentity.Proofs.Headers.TraceContext
import TraceIdentity.Proofs.SpanContext.Portable
/-!
# One exchange between components

Whatever the headers of a request are, the context it gets is portable. A call
made under a portable context is received as its child: same trace, same flags,
the state as far as the receiver keeps it, and the call itself as parent.
-/
namespace TraceIdentity

theorem Headers.allClean_traceState (h : Headers) (limit : Nat) :
    (h.traceState limit).AllClean := by
  unfold traceState
  cases h.value? tracestate with
  | none => exact TraceState.allClean_empty
  | some value => exact TraceState.allClean_parse value limit

theorem Headers.allClean_traceContext {h : Headers} {limit : Nat} {c : SpanContext}
    (hc : h.traceContext limit = .ok c) : c.state.AllClean := by
  unfold traceContext at hc
  split at hc
  · cases hc
  · next value _ =>
    cases hp : SpanContext.ofTraceparent value with
    | error f =>
      rw [hp] at hc
      cases hc
    | ok parent =>
      rw [hp] at hc
      obtain rfl := Except.ok.inj hc
      exact h.allClean_traceState limit

theorem RequestId.isZero_of_rootTrace {id : RequestId} {t : TraceId}
    (h : id.rootTrace = .ok t) : t.isZero = false :=
  TraceId.isZero_of_ofDigits h

namespace Caller

theorem allClean_of_ofHeaders {st : Settings} {h : Headers} {parent : SpanContext}
    (hc : ofHeaders st h = .traceparent parent) : parent.state.AllClean := by
  unfold ofHeaders at hc
  split at hc
  · next c hx =>
    obtain rfl := Caller.traceparent.inj hc
    exact Headers.allClean_traceContext hx
  · split at hc
    · split at hc <;> cases hc
    · cases hc

theorem ofHeaders_of_traceContext {st : Settings} {h : Headers} {parent : SpanContext}
    (hx : h.traceContext st.maxMembers = .ok parent) :
    ofHeaders st h = .traceparent parent := by
  rw [ofHeaders, hx]

theorem portable_context {σ : Type} {ids : IdSource σ} (hz : ids.NeverZero) (st : Settings)
    (h : Headers) (s : σ) : ((ofHeaders st h).context ids s).1.Portable := by
  cases hc : ofHeaders st h with
  | traceparent parent => exact SpanContext.portable_child hz (allClean_of_ofHeaders hc) s
  | legacy id =>
    simp only [context]
    split
    · next trace ht =>
      exact ⟨RequestId.isZero_of_rootTrace ht, (hz s).2, TraceState.allClean_empty⟩
    · exact SpanContext.portable_root hz s
  | unknown => exact SpanContext.portable_root hz s

end Caller

namespace Component

variable {σ : Type} (c : Component σ)

theorem portable_receive (hz : c.ids.NeverZero) (h : Headers) (s : σ) :
    (c.receive h s).1.context.Portable :=
  let hp := Caller.portable_context hz c.settings h s
  ⟨hp.trace_ne_zero, hp.span_ne_zero, hp.clean⟩

theorem next_of_isValid {current : SpanContext} (hv : current.isValid = true) (s : σ) :
    c.next (some current) s =
      ({ current with span := (c.ids.span s).1, exportable := true }, (c.ids.span s).2) := by
  have hp : parent (some current) = some current := by
    rw [parent, Option.filter_some, if_pos hv]
  rw [next, hp]
  exact SpanContext.child_of_isValid hv s

theorem isValid_of_parent {current : Option SpanContext} {ctx : SpanContext}
    (hp : parent current = some ctx) : ctx.isValid = true :=
  (Option.filter_eq_some_iff.mp hp).2

theorem next_of_parent {current : Option SpanContext} {ctx : SpanContext}
    (hp : parent current = some ctx) (s : σ) :
    c.next current s =
      ({ ctx with span := (c.ids.span s).1, exportable := true }, (c.ids.span s).2) := by
  rw [next, hp]
  exact SpanContext.child_of_isValid (isValid_of_parent hp) s

theorem next_of_no_parent {current : Option SpanContext} (hp : parent current = none) (s : σ) :
    c.next current s = SpanContext.root c.ids s := by
  rw [next, hp]
  rfl

theorem portable_next (hz : c.ids.NeverZero) {current : Option SpanContext}
    (hc : ∀ ctx ∈ current, ctx.state.AllClean) (s : σ) : (c.next current s).1.Portable := by
  cases hp : parent current with
  | none =>
    rw [next, hp]
    exact SpanContext.portable_root hz s
  | some ctx =>
    rw [next, hp]
    exact SpanContext.portable_child hz (hc ctx (Option.eq_some_of_filter_eq_some hp)) s

@[simp] theorem context_send (current : Option SpanContext) (h : Headers) (s : σ) :
    (c.send current h s).1.context = (c.next current s).1 := rfl

theorem parentId_send {current : SpanContext} (hv : current.isValid = true) (h : Headers) (s : σ) :
    (c.send (some current) h s).1.parentId = some current.legacyId := by
  change (parent (some current)).map SpanContext.legacyId = _
  rw [parent, Option.filter_some, if_pos hv]
  rfl

section Sent

variable (current : Option SpanContext) (h : Headers) (s : σ)

theorem get?_traceparent_send :
    (c.send current h s).2.1.get? Headers.traceparent =
      some (c.next current s).1.traceparent := by
  simp only [send]
  rw [Headers.get?_set?_of_ne (by decide), Headers.get?_set?_of_ne (by decide),
    Headers.get?_traceparent_setTraceContext]

theorem get?_requestId_send :
    (c.send current h s).2.1.get? Headers.requestId =
      if c.settings.legacyCompat then some (c.send current h s).1.id
      else h.get? Headers.requestId := by
  simp only [send, Headers.setTraceContext]
  rw [Headers.get?_set?_of_ne (by decide), Headers.get?_set?_self,
    Headers.get?_set?_of_ne (by decide), Headers.get?_set_of_ne (by decide)]
  split <;> rfl

theorem updated_tracestate_send :
    Headers.Updated h (c.send current h s).2.1 Headers.tracestate
      (c.send current h s).1.tracestate := by
  have hstate := Headers.updated_tracestate_setTraceContext h (c.next current s).1
  exact (hstate.set?_other (by decide) _).set?_other (by decide) _

theorem value?_traceparent_send :
    (c.send current h s).2.1.value? Headers.traceparent =
      some (c.next current s).1.traceparent :=
  Headers.value?_of_get? (c.get?_traceparent_send current h s) (Headers.traceparent_ne_empty _)

theorem value?_tracestate_send :
    (c.send current .empty s).2.1.value? Headers.tracestate =
      (c.next current s).1.state.header? := by
  rw [Headers.value?, (c.updated_tracestate_send current .empty s).find?_of_empty]
  exact TraceState.filter_header? _

end Sent

/-- A component reads the context of a call from its headers, up to its own limit. -/
theorem traceContext_send {current : Option SpanContext} {s : σ}
    (hp : (c.next current s).1.Portable) (limit : Nat) :
    (c.send current .empty s).2.1.traceContext limit =
      .ok { trace := (c.next current s).1.trace, span := (c.next current s).1.span,
            flags := (c.next current s).1.flags,
            state := ⟨(c.next current s).1.state.entries.take limit⟩ } := by
  rw [Headers.traceContext_of_value? hp.trace_ne_zero hp.span_ne_zero
      (c.value?_traceparent_send current .empty s),
    Headers.traceState_of_value? hp.clean (c.value?_tracestate_send current s)]

/-- A request whose caller is known by its context gets a child of that context. -/
theorem receive_of_traceContext {h : Headers} {parent : SpanContext}
    (hx : h.traceContext c.settings.maxMembers = .ok parent) (hv : parent.isValid = true) (s : σ) :
    let a := (c.receive h s).1
    a.path = .traceparent ∧ a.parentId = some parent.legacyId ∧
      a.context = { parent with span := (c.ids.span s).1, exportable := false } := by
  simp only [receive, Caller.ofHeaders_of_traceContext hx, Caller.path, Caller.parentId,
    Caller.context, SpanContext.child_of_isValid hv, and_self]

/-- What the receiver of a call knows about the caller and about the call. -/
theorem receive_send {τ : Type} (callee : Component τ) (hz : c.ids.NeverZero)
    {current : SpanContext} (hp : current.Portable) (s : σ) (s' : τ) :
    let sent := c.send (some current) .empty s
    let a := (callee.receive sent.2.1 s').1
    a.path = .traceparent ∧ a.parentId = some sent.1.id ∧
      sent.1.parentId = some current.legacyId ∧ a.context.trace = current.trace ∧
      a.context.flags = current.flags ∧
      a.context.state.entries = current.state.entries.take callee.settings.maxMembers := by
  intro sent a
  have hv := SpanContext.isValid_of_trace hp.trace_ne_zero
  have hnext := c.next_of_isValid hv s
  have hsent : (c.next (some current) s).1.Portable := by
    apply c.portable_next hz
    intro ctx hctx
    obtain rfl := Option.some.inj hctx
    exact hp.clean
  have hread := c.traceContext_send hsent callee.settings.maxMembers
  obtain ⟨hpath, hparent, hcontext⟩ := callee.receive_of_traceContext hread
    (SpanContext.isValid_of_trace hsent.trace_ne_zero) s'
  refine ⟨hpath, hparent, c.parentId_send hv .empty s, ?_, ?_, ?_⟩
  · rw [hcontext, hnext]
  · rw [hcontext, hnext]
  · rw [hcontext, hnext]

end Component

end TraceIdentity
