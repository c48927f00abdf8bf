import TraceIdentity.IdSource.Counting
import TraceIdentity.Proofs.Component.Pieces
import TraceIdentity.Proofs.IdSource.NeverZero
/-!
# Writing over other headers

Headers may be used again, so a context is written over whatever they held before.
Its ids and flags are read back all the same, and so is its state if it has one.
A context without a state leaves a state that was there in place, and that one is
read with it. In which order a map keeps its entries decides only which of several
states that is.
-/
namespace TraceIdentity

namespace Headers

/-- The ids, flags and state of `c` are read from these headers. -/
def ReadsBack (k : Headers) (limit : Nat) (c : SpanContext) : Prop :=
  ∃ got, k.traceContext limit = .ok got ∧ got.trace = c.trace ∧ got.span = c.span ∧
    got.flags = c.flags ∧ got.state = c.state

/-- In some order of the entries this state is read. -/
def MayHold (h : Headers) (limit : Nat) (state : TraceState) : Prop :=
  ∃ k : Headers, k.entries.Perm h.entries ∧ k.traceState limit = state

/-- How the headers `w` are read, in whatever order of their entries, which were `h` before `c` was
written. -/
structure WrittenOver (h w : Headers) (limit : Nat) (c : SpanContext) : Prop where
  read : ∀ k : Headers, k.entries.Perm w.entries → ∃ state,
    k.traceContext limit = .ok { trace := c.trace, span := c.span, flags := c.flags, state } ∧
      if c.state.isEmpty then h.MayHold limit state else state = c.state
  settled : h.Settled tracestate → ∀ k : Headers, k.entries.Perm w.entries →
    k.traceContext limit =
      .ok { trace := c.trace, span := c.span, flags := c.flags,
            state := if c.state.isEmpty then h.traceState limit else c.state }
  readsBack_iff : (∀ k : Headers, k.entries.Perm w.entries → k.ReadsBack limit c) ↔
    c.state.isEmpty = false ∨ ∀ state, h.MayHold limit state → state = {}

section State

variable {h k w : Headers} {limit : Nat} {state : TraceState}

theorem traceState_eq (h : Headers) (limit : Nat) :
    h.traceState limit = (h.find? tracestate).elim {} (TraceState.parse · limit) := by
  unfold traceState value?
  cases h.find? tracestate with
  | none => rfl
  | some value =>
    by_cases hempty : value = ""
    · subst hempty
      rfl
    · rw [Option.filter_some, if_pos (by simpa using hempty)]
      rfl

theorem mayHold_iff : h.MayHold limit state ↔
    ∃ found, h.MayFind tracestate found ∧ found.elim {} (TraceState.parse · limit) = state := by
  constructor
  · rintro ⟨k, hperm, rfl⟩
    exact ⟨k.find? tracestate, ⟨k, hperm, rfl⟩, (k.traceState_eq limit).symm⟩
  · rintro ⟨found, ⟨k, hperm, rfl⟩, rfl⟩
    exact ⟨k, hperm, k.traceState_eq limit⟩

theorem Settled.mayHold_iff (hs : h.Settled tracestate) :
    h.MayHold limit state ↔ state = h.traceState limit := by
  simp only [Headers.mayHold_iff, hs.mayFind_iff, exists_eq_left, ← traceState_eq]
  exact eq_comm

theorem Updated.mayHold_iff (hu : Updated h w tracestate none) :
    w.MayHold limit state ↔ h.MayHold limit state := by
  simp only [Headers.mayHold_iff, hu.mayFind_iff, if_true]

theorem readsBack_iff_of_read {c : SpanContext}
    (hread : k.traceContext limit =
      .ok { trace := c.trace, span := c.span, flags := c.flags, state }) :
    k.ReadsBack limit c ↔ state = c.state := by
  constructor
  · rintro ⟨got, hgot, -, -, -, hstate⟩
    obtain rfl := Except.ok.inj (hread.symm.trans hgot)
    exact hstate
  · intro hstate
    exact ⟨_, hread, rfl, rfl, rfl, hstate⟩

end State

/-- The headers `w` are `h` with both headers of `c` set, as far as they are looked up. -/
structure Writes (h w : Headers) (c : SpanContext) : Prop where
  parent : w.get? traceparent = some c.traceparent
  state : Updated h w tracestate c.state.header?

section Written

variable {h k w : Headers} {limit : Nat} {c : SpanContext}

theorem writes_setTraceContext (h : Headers) (c : SpanContext) :
    Writes h (h.setTraceContext c) c where
  parent := h.get?_traceparent_setTraceContext c
  state := h.updated_tracestate_setTraceContext c

theorem Writes.traceContext_eq (hw : Writes h w c) (hp : c.Portable)
    (hperm : k.entries.Perm w.entries) (limit : Nat) :
    k.traceContext limit =
      .ok { trace := c.trace, span := c.span, flags := c.flags, state := k.traceState limit } := by
  apply traceContext_of_value? hp.trace_ne_zero hp.span_ne_zero
  exact value?_of_get? ((get?_of_perm hperm traceparent).trans hw.parent) (traceparent_ne_empty c)

theorem Writes.mayHold_iff (hw : Writes h w c) (he : c.state.isEmpty = true) {state : TraceState} :
    w.MayHold limit state ↔ h.MayHold limit state := by
  have hstate := hw.state
  rw [TraceState.header?, he, if_pos rfl] at hstate
  exact hstate.mayHold_iff

theorem Writes.traceState_eq (hw : Writes h w c) (hp : c.Portable) (hsize : c.state.size ≤ limit)
    (he : c.state.isEmpty = false) (hperm : k.entries.Perm w.entries) :
    k.traceState limit = c.state := by
  have hheader : c.state.header? = some c.state.toHeader := by
    rw [TraceState.header?, he, if_neg Bool.false_ne_true]
  have hget : w.get? tracestate = some c.state.toHeader := by
    rw [hw.state.exact, hheader]
    rfl
  have hvalue := value?_of_get? ((get?_of_perm hperm tracestate).trans hget)
    (TraceState.toHeader_ne_empty he)
  rw [traceState_of_value? hp.clean (hvalue.trans hheader.symm), List.take_of_length_le hsize]

theorem Writes.kept (hw : Writes h w c) (hp : c.Portable) (hsize : c.state.size ≤ limit)
    (hperm : k.entries.Perm w.entries) :
    if c.state.isEmpty then h.MayHold limit (k.traceState limit)
    else k.traceState limit = c.state := by
  cases he : c.state.isEmpty with
  | true => exact (hw.mayHold_iff he).mp ⟨k, hperm, rfl⟩
  | false => exact hw.traceState_eq hp hsize he hperm

theorem Writes.readsBack_iff (hw : Writes h w c) (hp : c.Portable)
    (hsize : c.state.size ≤ limit) :
    (∀ k : Headers, k.entries.Perm w.entries → k.ReadsBack limit c) ↔
      c.state.isEmpty = false ∨ ∀ state, h.MayHold limit state → state = {} := by
  have hback : (∀ k : Headers, k.entries.Perm w.entries → k.ReadsBack limit c) ↔
      ∀ k : Headers, k.entries.Perm w.entries → k.traceState limit = c.state :=
    forall₂_congr fun k hperm => readsBack_iff_of_read (hw.traceContext_eq hp hperm limit)
  rw [hback]
  cases he : c.state.isEmpty with
  | false =>
    constructor
    · intro _
      exact .inl rfl
    · intro _ k hperm
      exact hw.traceState_eq hp hsize he hperm
  | true =>
    have hnone : c.state = {} := congrArg TraceState.mk (List.isEmpty_iff.mp he)
    rw [hnone]
    constructor
    · intro hall
      refine .inr fun state hmay => ?_
      obtain ⟨k, hperm, rfl⟩ := (hw.mayHold_iff he).mpr hmay
      exact hall k hperm
    · intro hcase k hperm
      obtain hfull | hall := hcase
      · cases hfull
      · exact hall _ ((hw.mayHold_iff he).mp ⟨k, hperm, rfl⟩)

theorem Writes.writtenOver (hw : Writes h w c) (hp : c.Portable) (hsize : c.state.size ≤ limit) :
    WrittenOver h w limit c := by
  constructor
  case read =>
    intro k hperm
    exact ⟨_, hw.traceContext_eq hp hperm limit, hw.kept hp hsize hperm⟩
  case settled =>
    intro hs k hperm
    have hkept := hw.kept hp hsize hperm
    rw [hs.mayHold_iff] at hkept
    rw [hw.traceContext_eq hp hperm limit]
    cases he : c.state.isEmpty with
    | true =>
      rw [he, if_pos rfl] at hkept
      rw [hkept, if_pos rfl]
    | false =>
      rw [he, if_neg Bool.false_ne_true] at hkept
      rw [hkept, if_neg Bool.false_ne_true]
  case readsBack_iff => exact hw.readsBack_iff hp hsize

end Written

end Headers

/-- The record of a call and the headers `w`, which were `h` before the call was written. -/
structure Departure.RecordedIn (d : Departure) (h w : Headers) (limit : Nat) : Prop where
  context : Headers.WrittenOver h w limit d.context
  traceparent : w.get? Headers.traceparent = some d.traceparent
  tracestate : Headers.Updated h w Headers.tracestate d.tracestate

namespace Component

variable {σ : Type} (c : Component σ) (current : Option SpanContext) (h : Headers) (s : σ)

theorem writes_send : Headers.Writes h (c.send current h s).2.1 (c.send current h s).1.context where
  parent := c.get?_traceparent_send current h s
  state := c.updated_tracestate_send current h s

theorem recordedIn_send {limit : Nat} (hp : (c.send current h s).1.context.Portable)
    (hsize : (c.send current h s).1.context.state.size ≤ limit) :
    (c.send current h s).1.RecordedIn h (c.send current h s).2.1 limit where
  context := (c.writes_send current h s).writtenOver hp hsize
  traceparent := c.get?_traceparent_send current h s
  tracestate := c.updated_tracestate_send current h s

/-- A context written over other headers is read back with its ids and flags, and with its state
or, if it has none, with a state from before; so is the context of a call. -/
theorem read_over_other_headers (h : Headers) (limit : Nat) :
    (∀ ctx : SpanContext, ctx.Portable → ctx.state.size ≤ limit →
      Headers.WrittenOver h (h.setTraceContext ctx) limit ctx) ∧
      ∀ (current : Option SpanContext) (s : σ), (c.send current h s).1.context.Portable →
        (c.send current h s).1.context.state.size ≤ limit →
          (c.send current h s).1.RecordedIn h (c.send current h s).2.1 limit := by
  constructor
  · intro ctx hp hsize
    exact (Headers.writes_setTraceContext h ctx).writtenOver hp hsize
  · intro current s hp hsize
    exact c.recordedIn_send current h s hp hsize

/-- A context with a state is read back over a traceparent and two states from before. -/
theorem read_over_other_headers_of_state :
    let c : Component UInt64 := { settings := {}, ids := .scrambled }
    let h := Headers.ofList [("TraceParent", "00-0123"), ("Tracestate", "stale=1"),
      ("TRACESTATE", "stale=2")]
    let ctx : SpanContext :=
      { trace := Octets.ofNat 16 1, span := Octets.ofNat 8 1, state := .parse "k=1, k=" 2 }
    let sent := c.send (some ctx) h 1
    ctx.Portable ∧ ctx.state.size ≤ 2 ∧ ¬ h.Settled Headers.tracestate ∧
      (∀ k : Headers, k.entries.Perm (h.setTraceContext ctx).entries → k.ReadsBack 2 ctx) ∧
        sent.1.context.Portable ∧ sent.1.context.state.size ≤ 2 ∧
          ∀ k : Headers, k.entries.Perm sent.2.1.entries → k.ReadsBack 2 sent.1.context := by
  intro c h ctx sent
  have hp : ctx.Portable :=
    ⟨by decide +kernel, by decide +kernel, TraceState.allClean_parse "k=1, k=" 2⟩
  have hsize : ctx.state.size ≤ 2 := by decide +kernel
  have hstate : ctx.state.isEmpty = false := by decide +kernel
  have hsent : sent.1.context.Portable := by
    apply c.portable_next IdSource.neverZero_scrambled
    intro current hcurrent
    obtain rfl := Option.some.inj hcurrent
    exact hp.clean
  have hkept : sent.1.context.state = ctx.state := by decide +kernel
  obtain ⟨hwritten, hrecorded⟩ := c.read_over_other_headers h 2
  have hback := (hwritten ctx hp hsize).readsBack_iff.mpr (.inl hstate)
  have hcall := (hrecorded (some ctx) 1 hsent (hkept ▸ hsize)).context.readsBack_iff.mpr
    (.inl (hkept ▸ hstate))
  exact ⟨hp, hsize, by decide +kernel, hback, hsent, hkept ▸ hsize, hcall⟩

/-- A context without a state is read with the state that was there before. -/
theorem not_readsBack_of_stale_state :
    let c : Component IdSource.Drawn := { settings := {}, ids := .counting }
    let h := Headers.ofList [(Headers.tracestate, "stale=1")]
    let ctx : SpanContext := { trace := Octets.ofNat 16 1, span := Octets.ofNat 8 1 }
    let sent := c.send none h {}
    (ctx.Portable ∧ ctx.state.size ≤ 32 ∧ ¬ (h.setTraceContext ctx).ReadsBack 32 ctx) ∧
      sent.1.context.Portable ∧ sent.1.context.state.size ≤ 32 ∧
        ¬ sent.2.1.ReadsBack 32 sent.1.context := by
  intro c h ctx sent
  have hp : ctx.Portable := ⟨by decide +kernel, by decide +kernel, by decide +kernel⟩
  have hsent : sent.1.context.Portable := ⟨by decide +kernel, by decide +kernel, by decide +kernel⟩
  have hs : h.Settled Headers.tracestate := by decide +kernel
  have hstale : h.traceState 32 ≠ {} := by decide +kernel
  have hwritten : Headers.WrittenOver h (h.setTraceContext ctx) 32 ctx :=
    (Headers.writes_setTraceContext h ctx).writtenOver hp (by decide)
  have hrecorded : sent.1.RecordedIn h sent.2.1 32 := c.recordedIn_send none h {} hsent (by decide)
  refine ⟨⟨hp, by decide, ?_⟩, hsent, by decide, ?_⟩
  · rw [Headers.readsBack_iff_of_read (hwritten.settled hs _ (.refl _))]
    exact hstale
  · rw [Headers.readsBack_iff_of_read (hrecorded.context.settled hs _ (.refl _))]
    exact hstale

end Component

end TraceIdentity
