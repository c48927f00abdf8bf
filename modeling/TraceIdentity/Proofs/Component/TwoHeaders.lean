import TraceIdentity.Proofs.Component.Identity
import TraceIdentity.Proofs.Headers.Erase
import TraceIdentity.Proofs.SpanContext.LegacyId
/-!
# One call in two headers

A call names itself in its traceparent and in its request id. A receiver that loses
the traceparent goes on with the request id and comes to the same operation with the
same parent, whatever the call was made under.
-/
namespace TraceIdentity

namespace Headers

/-- The headers `k` are `h` without a traceparent that can be read. -/
inductive LosesTraceparent (h : Headers) : Headers → Prop where
  | removed : LosesTraceparent h (h.erase traceparent)
  | replaced (value : String) (f : Fault) : SpanContext.ofTraceparent value = .error f →
    LosesTraceparent h (h.set traceparent value)

namespace LosesTraceparent

variable {h k : Headers}

theorem not_traced (hlost : LosesTraceparent h k) : ¬ k.Traced := by
  intro htraced
  obtain ⟨tp, parent, hvalue, hread⟩ := traced_iff.mp htraced
  cases hlost with
  | removed =>
    rw [Headers.value?, find?_erase_self] at hvalue
    cases hvalue
  | replaced value f hfault =>
    rw [Headers.value?, find?_set_self] at hvalue
    obtain rfl : value = tp := Option.some.inj (Option.eq_some_of_filter_eq_some hvalue)
    cases hfault.symm.trans hread

theorem value? (hlost : LosesTraceparent h k) {name : String}
    (hn : sameName traceparent name = false) : k.value? name = h.value? name := by
  cases hlost with
  | removed => rw [Headers.value?, Headers.value?, find?_erase_of_sameName hn]
  | replaced value f hfault => exact value?_set_of_sameName hn

end LosesTraceparent

end Headers

/-- The request is the other end of the call: in its trace, with the call as parent. -/
structure Arrival.Continues (a : Arrival) (d : Departure) : Prop where
  operationId : a.operationId = d.context.trace.toHex
  parentId : a.parentId = some d.id

namespace Component

variable {σ τ : Type} (c : Component σ) (callee : Component τ)

/-- Every call gets non-zero ids, also one made under a context that cannot be continued. -/
theorem next_ne_zero (hz : c.ids.NeverZero) (current : Option SpanContext) (s : σ) :
    (c.next current s).1.trace.isZero = false ∧ (c.next current s).1.span.isZero = false := by
  cases hp : parent current with
  | none =>
    rw [c.next_of_no_parent hp]
    exact ⟨(hz _).1, (hz _).2⟩
  | some ctx =>
    rw [c.next_of_parent hp]
    exact ⟨by simpa [SpanContext.isValid] using isValid_of_parent hp, (hz s).2⟩

theorem value?_requestId_send (hcompat : c.settings.legacyCompat = true)
    (current : Option SpanContext) (h : Headers) (s : σ) :
    (c.send current h s).2.1.value? Headers.requestId = some (c.send current h s).1.id := by
  have hget := c.get?_requestId_send current h s
  rw [if_pos hcompat] at hget
  exact Headers.value?_of_get? hget (SpanContext.legacyId_ne_empty _)

theorem receive_send_of_traceparent (hz : c.ids.NeverZero) (current : Option SpanContext)
    (s : σ) (s' : τ) :
    let sent := c.send current .empty s
    let a := (callee.receive sent.2.1 s').1
    a.path = .traceparent ∧ a.Continues sent.1 := by
  intro sent a
  obtain ⟨htrace, hspan⟩ := c.next_ne_zero hz current s
  have hread := Headers.traceContext_of_value? htrace hspan
    (c.value?_traceparent_send current .empty s) callee.settings.maxMembers
  obtain ⟨hpath, hparent, hcontext⟩ := callee.receive_of_traceContext hread
    (SpanContext.isValid_of_trace htrace) s'
  have hoperation : a.operationId = sent.1.context.trace.toHex := by
    change a.context.trace.toHex = (c.next current s).1.trace.toHex
    rw [hcontext]
  exact ⟨hpath, hoperation, hparent⟩

/-- A request id with a trace id for its root continues that trace, and keeps no property. -/
theorem receive_of_requestId {h : Headers} {raw : String} {trace : TraceId} (hnone : ¬ h.Traced)
    (hcompat : callee.settings.legacyCompat = true)
    (hvalue : h.value? Headers.requestId = some raw)
    (hroot : (RequestId.parse raw).rootTrace = .ok trace) (s : τ) :
    let got := callee.receive h s
    got.1.path = .legacy ∧ got.1.operationId = trace.toHex ∧ got.1.parentId = some raw ∧
      got.1.properties = .empty ∧ got.1.context.DrewSpan callee.ids s got.2 := by
  have hcaller : Caller.ofHeaders callee.settings h = .legacy (RequestId.parse raw) := by
    rw [Caller.ofHeaders_of_not_traced hnone, hvalue, hcompat]
    rfl
  simp only [receive, hcaller, Caller.path, Caller.parentId, Caller.properties, Caller.context,
    hroot, RequestId.raw_parse, SpanContext.DrewSpan, and_self]

theorem receive_send_of_losesTraceparent (hz : c.ids.NeverZero)
    (hsends : c.settings.legacyCompat = true) (htakes : callee.settings.legacyCompat = true)
    (current : Option SpanContext) (s : σ) (s' : τ) {k : Headers}
    (hlost : (c.send current .empty s).2.1.LosesTraceparent k) :
    let d := (c.send current .empty s).1
    let got := callee.receive k s'
    got.1.path = .legacy ∧ got.1.Continues d ∧ got.1.properties = .empty ∧
      got.1.context.DrewSpan callee.ids s' got.2 := by
  intro d got
  have hvalue : k.value? Headers.requestId = some d.id :=
    (hlost.value? (by decide)).trans (c.value?_requestId_send hsends current .empty s)
  have hroot : (RequestId.parse d.id).rootTrace = .ok d.context.trace :=
    RequestId.rootTrace_parse_legacyId (c.next_ne_zero hz current s).1
  obtain ⟨hpath, hoperation, hparent, hproperties, hdrawn⟩ :=
    callee.receive_of_requestId hlost.not_traced htakes hvalue hroot s'
  exact ⟨hpath, ⟨hoperation, hparent⟩, hproperties, hdrawn⟩

/-- A call is received in the same operation with the same parent by either of its headers. -/
theorem receive_send_by_either (hz : c.ids.NeverZero) (hsends : c.settings.legacyCompat = true)
    (htakes : callee.settings.legacyCompat = true) (current : Option SpanContext) (s : σ) (s' : τ) :
    let sent := c.send current .empty s
    let traced := callee.receive sent.2.1 s'
    (traced.1.path = .traceparent ∧ traced.1.Continues sent.1) ∧
      ∀ k, sent.2.1.LosesTraceparent k →
        let legacy := callee.receive k s'
        legacy.1.path = .legacy ∧ legacy.1.Continues sent.1 ∧ legacy.1.properties = .empty ∧
          legacy.1.context.DrewSpan callee.ids s' legacy.2 := by
  intro sent traced
  constructor
  · exact c.receive_send_of_traceparent callee hz current s s'
  · intro k hlost
    exact c.receive_send_of_losesTraceparent callee hz hsends htakes current s s' hlost

/-- A call under a context with a state that cannot be read back, and a traceparent cut short. -/
theorem receive_send_by_either_of_garbled :
    let c : Component UInt64 := { settings := {}, ids := .scrambled }
    let current : SpanContext :=
      { trace := Octets.ofNat 16 1, span := Octets.zero 8, state := ⟨[("a,b", " = ")]⟩ }
    let sent := c.send (some current) .empty 1
    let garbled := sent.2.1.set Headers.traceparent "00-0123"
    let traced := c.receive sent.2.1 2
    let legacy := c.receive garbled 2
    c.ids.NeverZero ∧ c.settings.legacyCompat = true ∧ sent.2.1.LosesTraceparent garbled ∧
      traced.1.path = .traceparent ∧ traced.1.Continues sent.1 ∧
        legacy.1.path = .legacy ∧ legacy.1.Continues sent.1 := by
  intro c current sent garbled traced legacy
  have hlost : sent.2.1.LosesTraceparent garbled := .replaced "00-0123" (.fieldCount 2) (by rfl)
  obtain ⟨⟨htraced, hby⟩, hlegacy⟩ := c.receive_send_by_either c IdSource.neverZero_scrambled
    rfl rfl (some current) 1 2
  obtain ⟨hpath, hcontinues, -, -⟩ := hlegacy garbled hlost
  exact ⟨IdSource.neverZero_scrambled, rfl, hlost, htraced, hby, hpath, hcontinues⟩

end Component

end TraceIdentity
