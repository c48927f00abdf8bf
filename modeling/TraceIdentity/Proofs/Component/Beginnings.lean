import TraceIdentity.Component.Hosting
import TraceIdentity.Proofs.Component.Identity
/-!
# How units of work begin

Units of work begin in seven ways, and each of them draws one span id. A trace id is
drawn too exactly if there is no trace to continue: neither arriving headers nor the
context at hand leave one.
-/
namespace TraceIdentity

/-- The trace that arriving headers leave to be continued: that of a readable traceparent, else the
root of a request id, if request ids may be used and the root is a trace id. -/
def Headers.continued (h : Headers) (st : Settings) : Option TraceId :=
  match (h.value? traceparent).bind fun tp => (SpanContext.ofTraceparent tp).toOption with
  | some parent => some parent.trace
  | none =>
    if st.legacyCompat then
      (h.value? requestId).bind fun raw => (RequestId.parse raw).rootTrace.toOption
    else none

/-- How a unit of work begins, with all that it begins from. -/
inductive Beginning where
  | receive (h : Headers)
  | openRequest (h : Headers) (store : Store) (site : Site) (host : Host)
  | startWork (h : Headers) (store : Store) (site : Site) (host : Host)
  | next (current : Option SpanContext)
  | nextTraceparent (current : Option SpanContext)
  | send (current : Option SpanContext) (h : Headers)
  | child (parent : SpanContext)

/-- Where the trace may come from: headers that arrived, or the context at hand. -/
def Beginning.origin : Beginning → Headers ⊕ Option SpanContext
  | receive h | openRequest h _ _ _ | startWork h _ _ _ => .inl h
  | next current | nextTraceparent current | send current _ => .inr current
  | child parent => .inr (some parent)

/-- A beginning in a component of its own settings and resolver. -/
structure Occasion where
  settings : Settings
  resolver : AppId.Resolver
  beginning : Beginning

namespace Occasion

variable {σ : Type} (ids : IdSource σ) (o : Occasion)

def component : Component σ :=
  { settings := o.settings, ids, resolver := o.resolver }

/-- The trace that is there to be continued. -/
def continued : Option TraceId :=
  match o.beginning.origin with
  | .inl h => h.continued o.settings
  | .inr current => (Component.parent current).map SpanContext.trace

/-- The context of the unit of work that begins, and what is left of the source. -/
def run (s : σ) : SpanContext × σ :=
  let c := o.component ids
  match o.beginning with
  | .receive h =>
    let r := c.receive h s
    (r.1.context, r.2)
  | .openRequest h store site host =>
    let r := c.openRequest h store site s host
    (r.1.context, r.2.2.1)
  | .startWork h store site host =>
    let r := c.startWork h store site s host
    (r.1.context, r.2.2.2.1)
  | .next current => c.next current s
  | .nextTraceparent current => ((c.next current s).1, (c.nextTraceparent current s).2)
  | .send current h =>
    let r := c.send current h s
    (r.1.context, r.2.2)
  | .child parent => parent.child ids s

end Occasion

namespace SpanContext

variable {σ : Type}

theorem child_eq_next (c : Component σ) (parent : SpanContext) (s : σ) :
    parent.child c.ids s = c.next (some parent) s := by
  cases hv : parent.isValid with
  | true => rw [child_of_isValid hv, c.next_of_isValid hv]
  | false =>
    have hnone : Component.parent (some parent) = none := by
      simp [Component.parent, hv]
    rw [c.next_of_no_parent hnone, child, if_neg (by simp [hv])]

end SpanContext

theorem Headers.continued_of_not_traced {h : Headers} (hnone : ¬ h.Traced) (st : Settings) :
    h.continued st =
      if st.legacyCompat then
        (h.value? requestId).bind fun raw => (RequestId.parse raw).rootTrace.toOption
      else none := by
  have hread : ((h.value? traceparent).bind fun tp =>
      (SpanContext.ofTraceparent tp).toOption) = none := by
    rw [Option.bind_eq_none_iff]
    intro tp hvalue
    cases hread : SpanContext.ofTraceparent tp with
    | ok parent => exact absurd (traced_of_ok hvalue hread) hnone
    | error f => rfl
  rw [continued, hread]

namespace Caller

variable {σ : Type} {st : Settings} {h : Headers} {caller : Caller} {t : TraceId}

/-- The trace of a caller, if it has one. -/
def trace? : Caller → Option TraceId
  | traceparent parent => some parent.trace
  | legacy id => id.rootTrace.toOption
  | unknown => none

theorem trace?_legacy_iff {id : RequestId} : (legacy id).trace? = some t ↔ id.rootTrace = .ok t := by
  cases hroot : id.rootTrace <;> simp [trace?, hroot, Except.toOption]

theorem Told.continued (ht : Told st h caller) : h.continued st = caller.trace? := by
  cases ht with
  | traceparent tp parent hvalue hread =>
    rw [Headers.continued, hvalue, Option.bind_some, hread]
    rfl
  | legacy raw hnone hcompat hvalue =>
    rw [Headers.continued_of_not_traced hnone, if_pos hcompat, hvalue]
    rfl
  | unknown hnone hrest =>
    rw [Headers.continued_of_not_traced hnone]
    split
    · next hcompat =>
      rw [hrest hcompat]
      rfl
    · rfl

theorem Told.isZero_of_trace? (ht : Told st h caller) (hc : caller.trace? = some t) :
    t.isZero = false := by
  cases ht with
  | traceparent tp parent hvalue hread =>
    obtain rfl := Option.some.inj hc
    exact (SpanContext.isZero_of_ofTraceparent hread).1
  | legacy raw hnone hcompat hvalue => exact RequestId.isZero_of_rootTrace (trace?_legacy_iff.mp hc)
  | unknown hnone hrest => cases hc

theorem Told.context_of_trace? (ht : Told st h caller) (hc : caller.trace? = some t)
    (ids : IdSource σ) (s : σ) :
    (caller.context ids s).1.trace = t ∧
      (caller.context ids s).1.DrewSpan ids s (caller.context ids s).2 := by
  have hzero := ht.isZero_of_trace? hc
  cases caller with
  | traceparent parent =>
    obtain rfl := Option.some.inj hc
    rw [context, SpanContext.child_of_isValid (SpanContext.isValid_of_trace hzero)]
    exact ⟨rfl, rfl⟩
  | legacy id =>
    have hroot := trace?_legacy_iff.mp hc
    simp only [context, hroot, true_and]
    rfl
  | unknown => cases hc

theorem context_of_no_trace (hc : caller.trace? = none) (ids : IdSource σ) (s : σ) :
    (caller.context ids s).1.DrewBoth ids s (caller.context ids s).2 := by
  cases caller with
  | traceparent parent => cases hc
  | legacy id =>
    cases hroot : id.rootTrace with
    | ok trace =>
      rw [trace?_legacy_iff.mpr hroot] at hc
      cases hc
    | error f =>
      simp only [context, hroot]
      exact ⟨rfl, rfl⟩
  | unknown => exact ⟨rfl, rfl⟩

end Caller

namespace Occasion

variable {σ : Type} (ids : IdSource σ) {o : Occasion}

theorem run_of_headers {h : Headers} (ho : o.beginning.origin = .inl h) (s : σ) :
    o.run ids s =
      (((o.component ids).receive h s).1.context, ((o.component ids).receive h s).2) := by
  obtain ⟨settings, resolver, beginning⟩ := o
  cases beginning with
  | receive | openRequest | startWork =>
    cases ho
    rfl
  | next | nextTraceparent | send | child => cases ho

theorem run_of_current {current : Option SpanContext} (ho : o.beginning.origin = .inr current)
    (s : σ) : o.run ids s = (o.component ids).next current s := by
  obtain ⟨settings, resolver, beginning⟩ := o
  cases beginning with
  | receive | openRequest | startWork => cases ho
  | next | nextTraceparent | send =>
    cases ho
    rfl
  | child parent =>
    cases ho
    exact SpanContext.child_eq_next (component ids ⟨settings, resolver, _⟩) parent s

theorem isZero_of_continued {t : TraceId} (hc : o.continued = some t) : t.isZero = false := by
  unfold continued at hc
  split at hc
  · next h _ =>
    have htold := Caller.told o.settings h
    exact htold.isZero_of_trace? (htold.continued ▸ hc)
  · next current _ =>
    obtain ⟨parent, hparent, rfl⟩ := Option.map_eq_some_iff.mp hc
    simpa [SpanContext.isValid] using Component.isValid_of_parent hparent

theorem run_of_continued {t : TraceId} (hc : o.continued = some t) (s : σ) :
    (o.run ids s).1.trace = t ∧ (o.run ids s).1.DrewSpan ids s (o.run ids s).2 := by
  unfold continued at hc
  split at hc
  · next h horigin =>
    have htold := Caller.told o.settings h
    rw [run_of_headers ids horigin]
    exact htold.context_of_trace? (htold.continued ▸ hc) ids s
  · next current horigin =>
    obtain ⟨parent, hparent, rfl⟩ := Option.map_eq_some_iff.mp hc
    rw [run_of_current ids horigin, Component.next_of_parent _ hparent]
    exact ⟨rfl, rfl⟩

/-- Only a unit of work that has no trace to continue draws a trace id. -/
theorem run_of_orphan (hc : o.continued = none) (s : σ) :
    (o.run ids s).1.DrewBoth ids s (o.run ids s).2 := by
  unfold continued at hc
  split at hc
  · next h horigin =>
    have htold := Caller.told o.settings h
    rw [run_of_headers ids horigin]
    exact Caller.context_of_no_trace (htold.continued ▸ hc) ids s
  · next current horigin =>
    rw [run_of_current ids horigin,
      Component.next_of_no_parent _ (Option.map_eq_none_iff.mp hc)]
    exact ⟨rfl, rfl⟩

end Occasion

end TraceIdentity
