import TraceIdentity.Proofs.Component.Beginnings
import TraceIdentity.Proofs.IdSource.Counting
/-!
# Ids of their own

However units of work begin one after the other, each draws what its beginning says and
nothing else. With a counting source the ids of a whole run are therefore numbers in a
row, none of them zero and no two of them equal.
-/
namespace TraceIdentity

/-- A unit of work that began, with the source of ids before and after. -/
structure Undertaking (σ : Type) where
  occasion : Occasion
  before : σ
  context : SpanContext
  after : σ

/-- One unit of work after the other, all on one source of ids. -/
def undertakings {σ : Type} (ids : IdSource σ) : List Occasion → σ → List (Undertaking σ)
  | [], _ => []
  | o :: os, s =>
    let r := o.run ids s
    ⟨o, s, r.1, r.2⟩ :: undertakings ids os r.2

theorem occasion_undertakings {σ : Type} (ids : IdSource σ) (os : List Occasion) (s : σ) :
    (undertakings ids os s).map Undertaking.occasion = os := by
  induction os generalizing s with
  | nil => rfl
  | cons o os ih => rw [undertakings, List.map_cons, ih]

theorem run_of_mem_undertakings {σ : Type} {ids : IdSource σ} {os : List Occasion} {s : σ}
    {u : Undertaking σ} (hu : u ∈ undertakings ids os s) :
    u.occasion.run ids u.before = (u.context, u.after) := by
  induction os generalizing s with
  | nil => cases hu
  | cons o os ih =>
    rcases List.mem_cons.mp hu with rfl | hrest
    · rfl
    · exact ih hrest

open IdSource

/-- A trace id was counted. -/
def Undertaking.drewTrace (u : Undertaking Drawn) : Bool :=
  u.after.traces != u.before.traces

/-- The ids of a run that counts them. -/
structure OwnIds (os : List Occasion) (log : List (Undertaking Drawn)) : Prop where
  /-- Nothing in the run is left out. -/
  occasions : log.map Undertaking.occasion = os
  one_span : ∀ u ∈ log, u.after.spans.toNat = u.before.spans.toNat + 1
  span_ne_zero : ∀ u ∈ log, u.context.span.isZero = false
  spans_differ : (log.map fun u => u.context.span).Nodup
  /-- A trace id is counted only where nothing can be continued, and then it is used. -/
  orphan : ∀ u ∈ log, u.drewTrace = true ↔ u.occasion.continued = none
  root : ∀ u ∈ log, u.drewTrace = true → u.context.DrewBoth counting u.before u.after
  child : ∀ u ∈ log, ∀ t, u.occasion.continued = some t →
    u.context.trace = t ∧ u.context.DrewSpan counting u.before u.after
  trace_ne_zero : ∀ u ∈ log, u.context.trace.isZero = false
  traces_differ : ((log.filter Undertaking.drewTrace).map fun u => u.context.trace).Nodup
  /-- A traceparent that is handed out alone has the ids of the context it was drawn for. -/
  text : ∀ u ∈ log, ∀ current, u.occasion.beginning = .nextTraceparent current →
    SpanContext.ofTraceparent
        ((u.occasion.component counting).nextTraceparent current u.before).1 =
      .ok { trace := u.context.trace, span := u.context.span, flags := u.context.flags }

theorem toNat_succ {w : UInt64} (h : w.toNat + 1 < 2 ^ 64) : (w + 1).toNat = w.toNat + 1 := by
  rw [UInt64.toNat_add, UInt64.toNat_one, Nat.mod_eq_of_lt h]

namespace Occasion

variable (o : Occasion) (s : Drawn)

theorem spans_run : (o.run counting s).2.spans = s.spans + 1 := by
  cases hc : o.continued with
  | none => exact congrArg (fun r => r.2.spans) (run_of_orphan counting hc s).2
  | some t => exact congrArg (fun r => r.2.spans) (run_of_continued counting hc s).2

theorem span_run : (o.run counting s).1.span = Octets.ofNat 8 (s.spans + 1).toNat := by
  cases hc : o.continued with
  | none => exact congrArg Prod.fst (run_of_orphan counting hc s).2
  | some t => exact congrArg Prod.fst (run_of_continued counting hc s).2

variable {o}

theorem traces_run_of_orphan (hc : o.continued = none) :
    (o.run counting s).2.traces = s.traces + 1 :=
  congrArg (fun r => r.2.traces) (run_of_orphan counting hc s).2

theorem traces_run_of_continued {t : TraceId} (hc : o.continued = some t) :
    (o.run counting s).2.traces = s.traces :=
  congrArg (fun r => r.2.traces) (run_of_continued counting hc s).2

end Occasion

section Counted

variable {os : List Occasion} {s : Drawn}

theorem drewTrace_iff {u : Undertaking Drawn} (hu : u ∈ undertakings counting os s) :
    u.drewTrace = true ↔ u.occasion.continued = none := by
  have hafter : u.after.traces = (u.occasion.run counting u.before).2.traces := by
    rw [run_of_mem_undertakings hu]
  rw [Undertaking.drewTrace, bne_iff_ne, hafter]
  cases hc : u.occasion.continued with
  | none => simp [Occasion.traces_run_of_orphan u.before hc]
  | some t => simp [Occasion.traces_run_of_continued u.before hc]

theorem spans_before_lt (h : s.spans.toNat + os.length < 2 ^ 64) {u : Undertaking Drawn}
    (hu : u ∈ undertakings counting os s) : u.before.spans.toNat + 1 < 2 ^ 64 := by
  induction os generalizing s with
  | nil => cases hu
  | cons o os ih =>
    rw [List.length_cons] at h
    rcases List.mem_cons.mp hu with rfl | hrest
    · show s.spans.toNat + 1 < 2 ^ 64
      omega
    · refine ih ?_ hrest
      rw [o.spans_run, toNat_succ (by omega)]
      omega

theorem spans_undertakings (h : s.spans.toNat + os.length < 2 ^ 64) :
    (undertakings counting os s).map (fun u => u.context.span) =
      (List.range' (s.spans.toNat + 1) os.length).map (Octets.ofNat 8) := by
  induction os generalizing s with
  | nil => rfl
  | cons o os ih =>
    rw [List.length_cons] at h
    have hsucc : (s.spans + 1).toNat = s.spans.toNat + 1 := toNat_succ (by omega)
    have hrest := ih (s := (o.run counting s).2) (by rw [o.spans_run, hsucc]; omega)
    rw [o.spans_run, hsucc] at hrest
    rw [undertakings, List.map_cons, hrest, o.span_run, hsucc]
    rfl

/-- The trace ids that a run draws are numbers in a row, one for each occasion without a trace. -/
theorem traces_undertakings (h : s.traces.toNat + os.length < 2 ^ 64) :
    ((undertakings counting os s).filter Undertaking.drewTrace).map (fun u => u.context.trace) =
      (List.range' (s.traces.toNat + 1) (os.countP fun o => o.continued.isNone)).map
        (Octets.ofNat 16) := by
  induction os generalizing s with
  | nil => rfl
  | cons o os ih =>
    rw [List.length_cons] at h
    have hsucc : (s.traces + 1).toNat = s.traces.toNat + 1 := toNat_succ (by omega)
    have hfirst : (⟨o, s, (o.run counting s).1, (o.run counting s).2⟩ : Undertaking Drawn) ∈
        undertakings counting (o :: os) s := List.mem_cons_self
    cases hc : o.continued with
    | none =>
      have hdrew := (drewTrace_iff hfirst).mpr hc
      have htraces := o.traces_run_of_orphan s hc
      have hrest := ih (s := (o.run counting s).2) (by rw [htraces, hsucc]; omega)
      rw [htraces, hsucc] at hrest
      rw [undertakings, List.filter_cons_of_pos hdrew, List.map_cons, hrest,
        List.countP_cons_of_pos (by simp [hc]), List.range'_succ, List.map_cons,
        (o.run_of_orphan counting hc s).1, ← hsucc]
      rfl
    | some t =>
      have hdrew : ¬ Undertaking.drewTrace ⟨o, s, (o.run counting s).1, (o.run counting s).2⟩ := by
        rw [drewTrace_iff hfirst, hc]
        simp
      have htraces := o.traces_run_of_continued s hc
      have hrest := ih (s := (o.run counting s).2) (by rw [htraces]; omega)
      rw [htraces] at hrest
      rw [undertakings, List.filter_cons_of_neg hdrew, hrest,
        List.countP_cons_of_neg (by simp [hc])]

theorem drawn_lt (h : s.traces.toNat + os.length < 2 ^ 64) :
    s.traces.toNat + (os.countP fun o => o.continued.isNone) < 256 ^ 16 := by
  have hcount : (os.countP fun o => o.continued.isNone) ≤ os.length := List.countP_le_length
  omega

end Counted

section Members

variable {os : List Occasion} {s : Drawn} {u : Undertaking Drawn}

theorem one_span_of_mem (h : s.spans.toNat + os.length < 2 ^ 64)
    (hu : u ∈ undertakings counting os s) : u.after.spans.toNat = u.before.spans.toNat + 1 := by
  have hafter : u.after.spans = u.before.spans + 1 := by
    rw [← u.occasion.spans_run, run_of_mem_undertakings hu]
  rw [hafter, toNat_succ (spans_before_lt h hu)]

theorem isZero_span_of_mem (h : s.spans.toNat + os.length < 2 ^ 64)
    (hu : u ∈ undertakings counting os s) : u.context.span.isZero = false := by
  have hwidth : s.spans.toNat + os.length < 256 ^ 8 := h
  apply Octets.isZero_of_mem_range' hwidth
  rw [← spans_undertakings h]
  exact List.mem_map_of_mem hu

theorem drewBoth_of_mem (hu : u ∈ undertakings counting os s) (hdrew : u.drewTrace = true) :
    u.context.DrewBoth counting u.before u.after := by
  have hstep := Occasion.run_of_orphan counting ((drewTrace_iff hu).mp hdrew) u.before
  rwa [run_of_mem_undertakings hu] at hstep

theorem drewSpan_of_mem (hu : u ∈ undertakings counting os s) {t : TraceId}
    (hc : u.occasion.continued = some t) :
    u.context.trace = t ∧ u.context.DrewSpan counting u.before u.after := by
  have hstep := Occasion.run_of_continued counting hc u.before
  rwa [run_of_mem_undertakings hu] at hstep

theorem isZero_trace_of_mem (h : s.traces.toNat + os.length < 2 ^ 64)
    (hu : u ∈ undertakings counting os s) : u.context.trace.isZero = false := by
  cases hc : u.occasion.continued with
  | some t =>
    rw [(drewSpan_of_mem hu hc).1]
    exact Occasion.isZero_of_continued hc
  | none =>
    apply Octets.isZero_of_mem_range' (drawn_lt h)
    rw [← traces_undertakings h]
    exact List.mem_map_of_mem (List.mem_filter.mpr ⟨hu, (drewTrace_iff hu).mpr hc⟩)

theorem context_of_nextTraceparent (hu : u ∈ undertakings counting os s)
    {current : Option SpanContext} (hb : u.occasion.beginning = .nextTraceparent current) :
    ((u.occasion.component counting).next current u.before).1 = u.context := by
  have horigin : u.occasion.beginning.origin = .inr current := by
    rw [hb]
    rfl
  rw [← Occasion.run_of_current counting horigin, run_of_mem_undertakings hu]

end Members

/-- A source that has counted `s` tells the units of work of a run apart while its counters last. -/
theorem undertakings_ownIds (os : List Occasion) (s : Drawn)
    (hspans : s.spans.toNat + os.length < 2 ^ 64) (htraces : s.traces.toNat + os.length < 2 ^ 64) :
    OwnIds os (undertakings counting os s) := by
  constructor
  · exact occasion_undertakings counting os s
  · intro u hu
    exact one_span_of_mem hspans hu
  · intro u hu
    exact isZero_span_of_mem hspans hu
  · have hwidth : s.spans.toNat + os.length < 256 ^ 8 := hspans
    rw [spans_undertakings hspans]
    exact Octets.nodup_ofNat_range' hwidth
  · intro u hu
    exact drewTrace_iff hu
  · intro u hu hdrew
    exact drewBoth_of_mem hu hdrew
  · intro u hu t hc
    exact drewSpan_of_mem hu hc
  · intro u hu
    exact isZero_trace_of_mem htraces hu
  · rw [traces_undertakings htraces]
    exact Octets.nodup_ofNat_range' (drawn_lt htraces)
  · intro u hu current hb
    show SpanContext.ofTraceparent
      ((u.occasion.component counting).next current u.before).1.traceparent = _
    rw [context_of_nextTraceparent hu hb]
    exact SpanContext.ofTraceparent_traceparent (isZero_trace_of_mem htraces hu)
      (isZero_span_of_mem hspans hu)

/-- A request without headers, a call from it, and one whose context is not valid. -/
theorem undertakings_ownIds_of_three :
    let os := [
      { settings := {}, resolver := .pending, beginning := .receive .empty },
      { settings := {}, resolver := .pending,
        beginning := .send (some { trace := Octets.ofNat 16 1, span := Octets.ofNat 8 1 }) .empty },
      { settings := {}, resolver := .pending,
        beginning := .child { trace := Octets.ofNat 16 0, span := Octets.ofNat 8 1 } }]
    (undertakings counting os {}).map (fun u => u.context.span) =
        [Octets.ofNat 8 1, Octets.ofNat 8 2, Octets.ofNat 8 3] ∧
      (undertakings counting os {}).map (fun u => u.context.trace) =
        [Octets.ofNat 16 1, Octets.ofNat 16 1, Octets.ofNat 16 2] ∧
      OwnIds os (undertakings counting os {}) := by
  intro os
  refine ⟨by decide +kernel, by decide +kernel, ?_⟩
  exact undertakings_ownIds os {} (by decide) (by decide)

end TraceIdentity
