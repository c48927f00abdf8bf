import TraceIdentity.IdSource.Counting
import TraceIdentity.Component.Departure
import TraceIdentity.Proofs.Headers.Overlay
/-!
# Calls over headers in another spelling

The headers of a call are set over whatever the outgoing headers were, each in the one
spelling in which it is always written. An old header in another spelling is not
replaced: it stays beside the new one, and who looks for it finds the old value.
-/
namespace TraceIdentity

namespace Headers

/-- The headers `k`, which were `h` before the headers `w` of a context or a call were written. -/
structure WrittenFor (h w k : Headers) : Prop extends Overlay h w k where
  traced : traceparent ∈ w.names
  among : ∀ name ∈ w.names, name ∈ written

variable {h w : Headers} {name : String}

theorem among_set? {value : Option String} (hsub : ∀ a ∈ h.names, a ∈ written)
    (hname : name ∈ written) : ∀ a ∈ (h.set? name value).names, a ∈ written := by
  intro a ha
  obtain hold | rfl := mem_names_of_set? ha
  · exact hsub a hold
  · exact hname

theorem oneSpelling_of_written (hsub : ∀ a ∈ w.names, a ∈ written) : w.OneSpelling := by
  apply oneSpelling_iff.mpr
  intro a ha b hb hsame
  by_contra hne
  have hother := sameName_written a (hsub a ha) b (hsub b hb) hne
  rw [hother] at hsame
  cases hsame

/-- Set the four headers of a call, of which all but the first may be missing. -/
def setFour (h : Headers) (tp : String) (state id context : Option String) : Headers :=
  (((h.set traceparent tp).set? tracestate state).set? requestId id).set? requestContext context

section Four

variable (h : Headers) (tp : String) (state id context : Option String)

theorem setFour_eq_setAll :
    h.setFour tp state id context = h.setAll (empty.setFour tp state id context).entries := by
  have hfirst : ∀ a, a ≠ traceparent → a ∉ (empty.set traceparent tp).names :=
    fun a hne => not_mem_names_set hne List.not_mem_nil
  have hstate := hfirst tracestate (by decide)
  have hid : requestId ∉ ((empty.set traceparent tp).set? tracestate state).names :=
    not_mem_names_set? (by decide) (hfirst requestId (by decide))
  have hcontext : requestContext ∉
      (((empty.set traceparent tp).set? tracestate state).set? requestId id).names :=
    not_mem_names_set? (by decide) (not_mem_names_set? (by decide) (hfirst _ (by decide)))
  unfold setFour
  rw [setAll_set? hcontext, setAll_set? hid, setAll_set? hstate, setAll_set List.not_mem_nil]
  rfl

theorem among_setFour : ∀ a ∈ (empty.setFour tp state id context).names, a ∈ written := by
  have hparent : ∀ a ∈ (empty.set? traceparent (some tp)).names, a ∈ written :=
    among_set? (fun a ha => absurd ha List.not_mem_nil) (by decide)
  exact among_set? (among_set? (among_set? hparent (by decide)) (by decide)) (by decide)

theorem writtenFor_setFour :
    WrittenFor h (empty.setFour tp state id context) (h.setFour tp state id context) where
  toOverlay := by
    rw [setFour_eq_setAll h]
    apply overlay_setAll
    exact oneSpelling_of_written (among_setFour tp state id context)
  traced := mem_names_set? (mem_names_set? (mem_names_set? (mem_names_set.mpr (.inr rfl))))
  among := among_setFour tp state id context

end Four

end Headers

namespace Component

variable {σ : Type} (c : Component σ)

/-- A header that is set is found under its exact name. The case of names does not matter exactly if
no name that was there or is set differs from another one in case alone. So it is with all headers
that are set, and with those of a context and of a call. -/
theorem set_by_spelling (h : Headers) :
    (∀ es, h.SetBySpelling es) ∧
      (∀ ctx : SpanContext,
        Headers.WrittenFor h (Headers.empty.setTraceContext ctx) (h.setTraceContext ctx)) ∧
        ∀ (current : Option SpanContext) (s : σ),
          Headers.WrittenFor h (c.send current .empty s).2.1 (c.send current h s).2.1 := by
  refine ⟨Headers.setBySpelling h, ?_, ?_⟩
  · intro ctx
    exact Headers.writtenFor_setFour h ctx.traceparent ctx.state.header? none none
  · intro current s
    exact Headers.writtenFor_setFour h _ _ _ _

/-- A header is set beside an old one that differs in case, and the old value is found under the
old spelling; so it is with the headers of a call. -/
theorem not_ignoresCase_of_respelled :
    let c : Component IdSource.Drawn :=
      { settings := { instrumentationKey := some "key" }
        ids := .counting
        resolver := AppId.Resolver.fixed (some "new") }
    let h := Headers.ofList [("request-context", "appId=old")]
    let es := [(Headers.requestContext, "appId=new")]
    let sent := (c.send none h {}).2.1
    h.OneSpelling ∧ (h.setAll es).find? "request-context" = some "appId=old" ∧
      ¬ (h.setAll es).OneSpelling ∧ ¬ h.IgnoresCase es ∧
        sent.find? Headers.requestContext = some "appId=new" ∧
          sent.find? "request-context" = some "appId=old" ∧
            (sent.spellings Headers.requestContext).Perm
              ["Request-Context", "request-context"] := by
  intro c h es sent
  have hold : (h.setAll es).find? "request-context" = some "appId=old" := by decide +kernel
  have htwo : ¬ (h.setAll es).OneSpelling := by decide +kernel
  refine ⟨by decide +kernel, hold, htwo, ?_, by decide +kernel, by decide +kernel,
    by decide +kernel⟩
  intro hcase
  exact htwo hcase.oneSpelling

end Component

end TraceIdentity
