import TraceIdentity.IdSource.Counting
import TraceIdentity.Proofs.Component.Told
/-!
# Where a legacy root comes from

The root of a request id that is not a trace id is kept as a property. Without a
readable traceparent nothing else becomes that property. With one, the entries of
the trace state become properties too, and the last one under its key passes for
a legacy root.
-/
namespace TraceIdentity

/-- A legacy root is the root of the request id that named the caller, and no trace id. -/
def Arrival.RootIsLegacy (h : Headers) (a : Arrival) : Prop :=
  ∀ root, a.legacyRoot = some root ↔ a.path = .legacy ∧
    ∃ raw, h.value? Headers.requestId = some raw ∧ (RequestId.parse raw).root = root ∧
      ∀ trace, (RequestId.parse raw).rootTrace ≠ .ok trace

/-- What the legacy root of a request is on every path. -/
structure Arrival.RootTold (limit : Nat) (h : Headers) (a : Arrival) : Prop where
  legacy : a.path ≠ .traceparent → a.RootIsLegacy h
  traceparent : a.path = .traceparent →
    a.legacyRoot = (h.traceState limit).find? Caller.legacyRootKey
  /-- The trace state of a request with a traceparent is the only thing that can forge it. -/
  forged : a.RootIsLegacy h ↔
    ¬ (a.path = .traceparent ∧ ∃ root, (h.traceState limit).find? Caller.legacyRootKey = some root)

/-- A request with a traceparent must not have a legacy root at all. -/
theorem Arrival.rootIsLegacy_iff_of_traceparent {h : Headers} {a : Arrival}
    (hpath : a.path = .traceparent) : a.RootIsLegacy h ↔ a.legacyRoot = none := by
  have hother : a.path ≠ .legacy := by
    rw [hpath]
    decide
  constructor
  · intro hlegacy
    apply Option.eq_none_iff_forall_ne_some.mpr
    intro root hroot
    exact hother ((hlegacy root).mp hroot).1
  · intro hnone root
    constructor
    · intro hroot
      rw [hnone] at hroot
      cases hroot
    · intro hclaimed
      exact absurd hclaimed.1 hother

namespace Caller

/-- The root of a request id is kept only if it is not a trace id. -/
theorem find?_properties_legacy (id : RequestId) (root : String) :
    (legacy id).properties.find? legacyRootKey = some root ↔
      id.root = root ∧ ∀ trace, id.rootTrace ≠ .ok trace := by
  cases htrace : id.rootTrace with
  | ok trace => simp [properties, htrace]
  | error f => simp [properties, htrace]

theorem find?_properties_traceparent (parent : SpanContext) (key : String) :
    (traceparent parent).properties.find? key = parent.state.find? key := by
  rw [properties, Table.find?_fillAll_entries, Table.find?_empty, Option.none_or,
    TraceState.find?_properties]

end Caller

namespace Component

variable {σ : Type} (c : Component σ) (h : Headers) (s : σ)

theorem legacyRoot_receive_of_traced (htraced : h.Traced) :
    (c.receive h s).1.legacyRoot =
      (h.traceState c.settings.maxMembers).find? Caller.legacyRootKey := by
  show (Caller.ofHeaders c.settings h).properties.find? Caller.legacyRootKey = _
  have htold := Caller.told c.settings h
  generalize Caller.ofHeaders c.settings h = caller at htold
  cases htold with
  | traceparent tp parent hvalue hread => exact Caller.find?_properties_traceparent _ _
  | legacy raw hnone hcompat hvalue => exact absurd htraced hnone
  | unknown hnone hrest => exact absurd htraced hnone

theorem rootIsLegacy_receive_of_not_traced (hnone : ¬ h.Traced) :
    (c.receive h s).1.RootIsLegacy h := by
  intro root
  show (Caller.ofHeaders c.settings h).properties.find? Caller.legacyRootKey = some root ↔
    (Caller.ofHeaders c.settings h).path = .legacy ∧ _
  have htold := Caller.told c.settings h
  generalize Caller.ofHeaders c.settings h = caller at htold
  cases htold with
  | traceparent tp parent hvalue hread => exact absurd (Headers.traced_of_ok hvalue hread) hnone
  | legacy raw hnone hcompat hvalue =>
    rw [Caller.find?_properties_legacy, hvalue]
    simp [Caller.path]
  | unknown hnone hrest => simp [Caller.properties, Caller.path]

theorem path_receive_eq_traceparent_iff :
    (c.receive h s).1.path = .traceparent ↔ h.Traced :=
  (Caller.told c.settings h).path_eq_traceparent_iff

theorem legacyRoot_told : (c.receive h s).1.RootTold c.settings.maxMembers h := by
  have hpath := c.path_receive_eq_traceparent_iff h s
  constructor
  · intro hother
    exact c.rootIsLegacy_receive_of_not_traced h s (mt hpath.mpr hother)
  · intro htraceparent
    exact c.legacyRoot_receive_of_traced h s (hpath.mp htraceparent)
  · by_cases htraced : h.Traced
    · have htraceparent := hpath.mpr htraced
      rw [Arrival.rootIsLegacy_iff_of_traceparent htraceparent,
        c.legacyRoot_receive_of_traced h s htraced, Option.eq_none_iff_forall_ne_some]
      simp [htraceparent]
    · have hother := mt hpath.mp htraced
      have hlegacy := c.rootIsLegacy_receive_of_not_traced h s htraced
      simp [hother, hlegacy]

/-- A request with both a traceparent and a request id takes its legacy root from the trace state. -/
theorem legacyRoot_of_forged :
    let c : Component IdSource.Drawn := { settings := {}, ids := IdSource.counting }
    let h := Headers.ofList [
      (Headers.traceparent, "00-0123456789abcdef0123456789abcdef-0123456789abcdef-00"),
      (Headers.tracestate, "ai_legacyRootId=spoofed"),
      (Headers.requestId, "|rootId.1.2.3.")]
    let a := (c.receive h {}).1
    a.path = .traceparent ∧ a.legacyRoot = some "spoofed" ∧ ¬ a.RootIsLegacy h := by
  intro c h a
  have hpath : a.path = .traceparent := by decide +kernel
  have hroot : a.legacyRoot = some "spoofed" := by decide +kernel
  refine ⟨hpath, hroot, ?_⟩
  rw [Arrival.rootIsLegacy_iff_of_traceparent hpath, hroot]
  simp

end Component

end TraceIdentity
