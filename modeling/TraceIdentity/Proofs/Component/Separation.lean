import TraceIdentity.IdSource.Counting
import TraceIdentity.Proofs.Component.Exchange
import TraceIdentity.Proofs.Component.Told
/-!
# What a request does not depend on

Each way to tell a caller has its own headers, and the others do not leak into it.
Beside a traceparent that can be read the request id has no effect; without one
the trace state has none; and a component that takes no request ids ignores both.
-/
namespace TraceIdentity

namespace Headers

/-- Two header maps from which a component with these settings takes the same caller. -/
inductive SameCaller (st : Settings) (h k : Headers) : Prop where
  /-- The same readable traceparent with the same trace state, beside any other headers. -/
  | traceparent : h.Traced → h.value? traceparent = k.value? traceparent →
    h.value? tracestate = k.value? tracestate → SameCaller st h k
  /-- No readable traceparent, for whatever reason, and the same request id. -/
  | requestId : ¬ h.Traced → ¬ k.Traced → h.value? requestId = k.value? requestId →
    SameCaller st h k
  /-- No readable traceparent, and request ids are not taken. -/
  | unknown : st.legacyCompat = false → ¬ h.Traced → ¬ k.Traced → SameCaller st h k

end Headers

namespace Caller

variable {st : Settings} {h k : Headers}

theorem ofHeaders_of_traced (htraced : h.Traced)
    (hparent : h.value? Headers.traceparent = k.value? Headers.traceparent)
    (hstate : h.value? Headers.tracestate = k.value? Headers.tracestate) :
    ofHeaders st h = ofHeaders st k := by
  obtain ⟨tp, parent, hvalue, hread⟩ := Headers.traced_iff.mp htraced
  have hh : h.traceContext st.maxMembers =
      .ok { parent with state := h.traceState st.maxMembers } :=
    Headers.traceContext_of_ok hvalue hread
  have hk := (Headers.traceContext_congr hparent hstate st.maxMembers).symm.trans hh
  rw [ofHeaders_of_traceContext hh, ofHeaders_of_traceContext hk]

theorem ofHeaders_of_not_traced_of_not_compat (hoff : st.legacyCompat = false)
    (hnone : ¬ h.Traced) : ofHeaders st h = unknown := by
  rw [ofHeaders_of_not_traced hnone, hoff]
  cases h.value? Headers.requestId <;> rfl

theorem ofHeaders_eq_of_sameCaller (hsame : h.SameCaller st k) :
    ofHeaders st h = ofHeaders st k := by
  cases hsame with
  | traceparent htraced hparent hstate => exact ofHeaders_of_traced htraced hparent hstate
  | requestId hh hk hid =>
    rw [ofHeaders_of_not_traced hh, ofHeaders_of_not_traced hk, hid]
  | unknown hoff hh hk =>
    rw [ofHeaders_of_not_traced_of_not_compat hoff hh,
      ofHeaders_of_not_traced_of_not_compat hoff hk]

end Caller

namespace Component

variable {σ : Type} (c : Component σ) {h k : Headers}

theorem sourceOf_congr
    (hcontext : h.value? Headers.requestContext = k.value? Headers.requestContext) :
    c.sourceOf h = c.sourceOf k := by
  rw [sourceOf, sourceOf, hcontext]

/-- Headers that tell the same about the caller give the same request and the same draws. -/
theorem receive_eq_of_sameCaller (hsame : h.SameCaller c.settings k)
    (hcontext : h.value? Headers.requestContext = k.value? Headers.requestContext) (s : σ) :
    c.receive h s = c.receive k s := by
  simp only [receive, Caller.ofHeaders_eq_of_sameCaller hsame, c.sourceOf_congr hcontext]

/-- A request id beside a traceparent, a trace state without one and the way in which a traceparent
is broken make no difference. -/
theorem receive_eq_of_sameCaller_of_discarded :
    let c : Component IdSource.Drawn := { settings := {}, ids := .counting }
    let w : Component IdSource.Drawn := { settings := .traceContextOnly, ids := .counting }
    let tp := "00-0123456789abcdef0123456789abcdef-0123456789abcdef-01"
    let traced := Headers.ofList [(Headers.traceparent, tp), (Headers.tracestate, "a=1,a=2")]
    let both := Headers.ofList
      [("Request-ID", "|rootId.1."), ("TraceParent", tp), ("TraceState", "a=1,a=2")]
    let garbled := Headers.ofList [(Headers.traceparent, "00-0123"), (Headers.requestId, "|r.1."),
      (Headers.tracestate, "ai_legacyRootId=spoofed")]
    let emptied := Headers.ofList [(Headers.traceparent, ""), (Headers.requestId, "|r.1.")]
    traced.SameCaller {} both ∧ c.receive traced {} = c.receive both {} ∧
      garbled.SameCaller {} emptied ∧ c.receive garbled {} = c.receive emptied {} ∧
        garbled.SameCaller .traceContextOnly .empty ∧ w.receive garbled {} = w.receive .empty {} := by
  intro c w tp traced both garbled emptied
  have hgarbled : ¬ garbled.Traced := by decide +kernel
  have hboth : traced.SameCaller {} both :=
    .traceparent (by decide +kernel) (by decide +kernel) (by decide +kernel)
  have hlegacy : garbled.SameCaller {} emptied :=
    .requestId hgarbled (by decide +kernel) (by decide +kernel)
  have hnone : garbled.SameCaller .traceContextOnly .empty :=
    .unknown rfl hgarbled (by decide +kernel)
  refine ⟨hboth, ?_, hlegacy, ?_, hnone, ?_⟩
  · exact c.receive_eq_of_sameCaller hboth (by decide +kernel) {}
  · exact c.receive_eq_of_sameCaller hlegacy (by decide +kernel) {}
  · exact w.receive_eq_of_sameCaller hnone (by decide +kernel) {}

end Component

end TraceIdentity
