import TraceIdentity.Proofs.RequestId
import TraceIdentity.SpanContext
/-!
# Reading a written hierarchical id

The root of a hierarchical id is the trace id it was written from, whatever was added to it,
so a request id names its trace whenever that is not all zeros.
-/
namespace TraceIdentity
open Text

theorem SpanContext.toList_legacyId (c : SpanContext) :
    c.legacyId.toList = '|' :: (c.trace.digits ++ '.' :: (c.span.digits ++ ['.'])) := by
  simp [legacyId]

namespace RequestId

theorem frames_legacyId (c : SpanContext) (more : String) :
    Frames (c.legacyId ++ more).toList c.trace.digits := by
  refine ⟨['|'], '.' :: (c.span.digits ++ '.' :: more.toList), ?_, .inr rfl, .inr ⟨_, rfl⟩⟩
  rw [String.toList_append, SpanContext.toList_legacyId]
  simp

theorem rootTrace_parse_legacyId {c : SpanContext} (ht : c.trace.isZero = false) :
    (parse c.legacyId).rootTrace = .ok c.trace := by
  have hframes := frames_legacyId c ""
  rw [String.append_empty] at hframes
  exact rootTrace_parse_iff.mpr ⟨ht, hframes⟩

/-- What is read from any header, and from a hierarchical id with something added to it. -/
theorem parse_exact :
    (∀ header, (parse header).ReadFrom header ∧ ∀ t, (parse header).rootTrace = .ok t ↔
      Hex.NonZero 32 t.digits ∧ Frames header.toList t.digits) ∧
      ∀ (c : SpanContext) (more : String),
        (c.trace.isZero = false → (parse (c.legacyId ++ more)).rootTrace = .ok c.trace) ∧
          (c.trace.isZero = true →
            (parse (c.legacyId ++ more)).rootTrace.mapError Fault.kind = .error .traceId) := by
  constructor
  · intro header
    refine ⟨readFrom_parse header, ?_⟩
    intro t
    rw [rootTrace_parse_iff]
    exact and_congr_left' t.nonZero_digits_iff.symm
  · intro c more
    have hread := rootTrace_parse_of_frames (frames_legacyId c more)
    constructor
    · intro hzero
      rw [hread, hzero, if_neg Bool.false_ne_true]
    · intro hzero
      rw [hread, if_pos hzero]
      rfl

end RequestId

end TraceIdentity
