import TraceIdentity.Proofs.Ids
import TraceIdentity.SpanContext.Traceparent
/-!
# Reading a written traceparent

A written traceparent has exactly its four fields, so it is read back with the
same ids and flags whenever neither id is all zeros.
-/
namespace TraceIdentity.SpanContext
open Text

theorem toList_traceparent (c : SpanContext) :
    c.traceparent.toList =
      ['0', '0'] ++ '-' :: (c.trace.digits ++ '-' :: (c.span.digits ++ '-' :: c.flags.digits)) := by
  simp [traceparent, TraceFlags.toHex]

theorem splitOn_traceparent (c : SpanContext) :
    splitOn '-' c.traceparent.toList =
      [['0', '0'], c.trace.digits, c.span.digits, c.flags.digits] := by
  have hdash : Hex.isLowerDigit '-' = false := by decide
  rw [toList_traceparent, splitOn_append_cons _ _ _ (by decide),
    splitOn_append_cons _ _ _ (c.trace.not_mem_digits hdash),
    splitOn_append_cons _ _ _ (c.span.not_mem_digits hdash),
    splitOn_of_not_mem _ _ (c.flags.not_mem_digits hdash)]

theorem ofTraceparent_traceparent {c : SpanContext} (ht : c.trace.isZero = false)
    (hs : c.span.isZero = false) :
    ofTraceparent c.traceparent = .ok { trace := c.trace, span := c.span, flags := c.flags } := by
  have hv : isVersion ['0', '0'] = true := by decide
  simp only [ofTraceparent, splitOn_traceparent, ofFields, if_pos hv,
    TraceId.ofDigits_digits_of_ne_zero ht, SpanId.ofDigits_digits_of_ne_zero hs,
    TraceFlags.ofDigits_digits]
  rfl

private theorem ofFields_eq_ok {version trace span flags : List Char} {c : SpanContext}
    (h : ofFields version trace span flags = .ok c) :
    c.trace.isZero = false ∧ c.span.isZero = false ∧ c.state = {} := by
  unfold ofFields at h
  split at h
  · cases ht : TraceId.ofDigits trace with
    | error e => simp [ht, bind, Except.bind] at h
    | ok t =>
      cases hs : SpanId.ofDigits span with
      | error e => simp [ht, hs, bind, Except.bind] at h
      | ok s =>
        cases hf : TraceFlags.ofDigits flags with
        | error e => simp [ht, hs, hf, bind, Except.bind] at h
        | ok f =>
          simp only [ht, hs, hf, bind, Except.bind, pure, Except.pure, Except.ok.injEq] at h
          subst h
          exact ⟨TraceId.isZero_of_ofDigits ht, SpanId.isZero_of_ofDigits hs, rfl⟩
  · cases h

/-- A context that was read has non-zero ids, and nothing but ids and flags. -/
theorem isZero_of_ofTraceparent {header : String} {c : SpanContext}
    (h : ofTraceparent header = .ok c) :
    c.trace.isZero = false ∧ c.span.isZero = false ∧ c.state = {} := by
  unfold ofTraceparent at h
  split at h
  · exact ofFields_eq_ok h
  · cases h

end TraceIdentity.SpanContext
