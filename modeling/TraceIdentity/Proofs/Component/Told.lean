import TraceIdentity.Component.Arrival
import TraceIdentity.Proofs.SpanContext.Traceparent
/-!
# What headers tell about the caller

A caller is known by a traceparent that can be read, else by a request id if it
may be used, else not at all. Every other theorem about arriving requests splits
into these three cases.
-/
namespace TraceIdentity

namespace SpanContext

theorem legacyId_ne_empty (c : SpanContext) : c.legacyId ≠ "" := by
  intro h
  have hlist := congrArg String.toList h
  simp [legacyId] at hlist

theorem legacyIdOfTraceparent_ne_empty_iff {header : String} :
    legacyIdOfTraceparent header ≠ "" ↔ ∃ c, ofTraceparent header = .ok c := by
  unfold legacyIdOfTraceparent
  cases hread : ofTraceparent header with
  | ok c =>
    constructor
    · intro _
      exact ⟨c, rfl⟩
    · intro _
      exact c.legacyId_ne_empty
  | error f => simp

theorem legacyIdOfTraceparent_of_ok {header : String} {c : SpanContext}
    (h : ofTraceparent header = .ok c) : legacyIdOfTraceparent header = c.legacyId := by
  rw [legacyIdOfTraceparent, h]

end SpanContext

namespace Headers

/-- The traceparent of a request is there and can be read. -/
def Traced (h : Headers) : Prop :=
  ∃ tp, h.value? traceparent = some tp ∧ SpanContext.legacyIdOfTraceparent tp ≠ ""

instance (h : Headers) : Decidable h.Traced :=
  decidable_of_iff
    ((h.value? traceparent).any fun tp => SpanContext.legacyIdOfTraceparent tp ≠ "")
    (by simp [Traced, Option.any_eq_true])

variable {h : Headers} {limit : Nat}

theorem traceContext_of_ok {tp : String} {parent : SpanContext}
    (hvalue : h.value? traceparent = some tp) (hread : SpanContext.ofTraceparent tp = .ok parent) :
    h.traceContext limit = .ok { parent with state := h.traceState limit } := by
  rw [traceContext, hvalue]
  show (SpanContext.ofTraceparent tp).map _ = _
  rw [hread]
  rfl

theorem traced_of_ok {tp : String} {parent : SpanContext}
    (hvalue : h.value? traceparent = some tp) (hread : SpanContext.ofTraceparent tp = .ok parent) :
    h.Traced :=
  ⟨tp, hvalue, SpanContext.legacyIdOfTraceparent_ne_empty_iff.mpr ⟨parent, hread⟩⟩

theorem traced_iff : h.Traced ↔
    ∃ tp parent, h.value? traceparent = some tp ∧ SpanContext.ofTraceparent tp = .ok parent := by
  constructor
  · rintro ⟨tp, hvalue, hne⟩
    obtain ⟨parent, hread⟩ := SpanContext.legacyIdOfTraceparent_ne_empty_iff.mp hne
    exact ⟨tp, parent, hvalue, hread⟩
  · rintro ⟨tp, parent, hvalue, hread⟩
    exact traced_of_ok hvalue hread

theorem traceContext_of_not_traced (hnone : ¬ h.Traced) (limit : Nat) :
    ∃ f, h.traceContext limit = .error f := by
  unfold traceContext
  cases hvalue : h.value? traceparent with
  | none => exact ⟨_, rfl⟩
  | some tp =>
    cases hread : SpanContext.ofTraceparent tp with
    | ok parent => exact absurd (traced_of_ok hvalue hread) hnone
    | error f => exact ⟨f, by simp [hread, Except.map]⟩

end Headers

namespace Caller

variable {st : Settings} {h : Headers}

/-- How headers tell who the caller is. -/
inductive Told (st : Settings) (h : Headers) : Caller → Prop where
  | traceparent (tp : String) (parent : SpanContext) :
    h.value? Headers.traceparent = some tp → SpanContext.ofTraceparent tp = .ok parent →
      Told st h (.traceparent { parent with state := h.traceState st.maxMembers })
  | legacy (raw : String) : ¬ h.Traced → st.legacyCompat = true →
    h.value? Headers.requestId = some raw → Told st h (.legacy (RequestId.parse raw))
  | unknown : ¬ h.Traced → (st.legacyCompat = true → h.value? Headers.requestId = none) →
    Told st h .unknown

theorem told (st : Settings) (h : Headers) : Told st h (ofHeaders st h) := by
  by_cases htraced : h.Traced
  · obtain ⟨tp, hvalue, hne⟩ := htraced
    obtain ⟨parent, hread⟩ := SpanContext.legacyIdOfTraceparent_ne_empty_iff.mp hne
    rw [ofHeaders, Headers.traceContext_of_ok hvalue hread]
    exact .traceparent tp parent hvalue hread
  · obtain ⟨f, hcontext⟩ := Headers.traceContext_of_not_traced htraced st.maxMembers
    rw [ofHeaders, hcontext]
    cases hvalue : h.value? Headers.requestId with
    | none => exact .unknown htraced fun _ => hvalue
    | some raw =>
      cases hcompat : st.legacyCompat with
      | true => exact .legacy raw htraced hcompat hvalue
      | false => exact .unknown htraced fun h => by cases hcompat.symm.trans h

/-- Without a readable traceparent only the request id counts, and only if it may be used. -/
theorem ofHeaders_of_not_traced (hnone : ¬ h.Traced) :
    ofHeaders st h =
      match h.value? Headers.requestId with
      | some raw => if st.legacyCompat then legacy (RequestId.parse raw) else unknown
      | none => unknown := by
  obtain ⟨f, hcontext⟩ := Headers.traceContext_of_not_traced hnone st.maxMembers
  cases hvalue : h.value? Headers.requestId <;> simp only [ofHeaders, hcontext, hvalue]

section Path

variable {caller : Caller}

theorem Told.path_eq_traceparent_iff (ht : Told st h caller) :
    caller.path = .traceparent ↔ h.Traced := by
  cases ht with
  | traceparent tp parent hvalue hread =>
    have htraced := Headers.traced_of_ok hvalue hread
    simp [path, htraced]
  | legacy raw hnone hcompat hvalue => simp [path, hnone]
  | unknown hnone hrest => simp [path, hnone]

theorem Told.path_eq_legacy_iff (ht : Told st h caller) :
    caller.path = .legacy ↔
      ¬ h.Traced ∧ st.legacyCompat = true ∧ ∃ raw, h.value? Headers.requestId = some raw := by
  cases ht with
  | traceparent tp parent hvalue hread =>
    have htraced := Headers.traced_of_ok hvalue hread
    simp [path, htraced]
  | legacy raw hnone hcompat hvalue => simp [path, hnone, hcompat, hvalue]
  | unknown hnone hrest =>
    simp only [path, hnone, not_false_eq_true, true_and, reduceCtorEq, false_iff]
    rintro ⟨hcompat, raw, hvalue⟩
    rw [hrest hcompat] at hvalue
    cases hvalue

theorem Told.path_eq_fresh_iff (ht : Told st h caller) :
    caller.path = .fresh ↔
      ¬ h.Traced ∧ (st.legacyCompat = true → h.value? Headers.requestId = none) := by
  cases ht with
  | traceparent tp parent hvalue hread =>
    have htraced := Headers.traced_of_ok hvalue hread
    simp [path, htraced]
  | legacy raw hnone hcompat hvalue => simp [path, hcompat, hvalue]
  | unknown hnone hrest =>
    simp only [path, true_iff]
    exact ⟨hnone, hrest⟩

end Path

end Caller

end TraceIdentity
