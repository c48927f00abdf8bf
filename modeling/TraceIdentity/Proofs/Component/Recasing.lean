import TraceIdentity.IdSource.Counting
import TraceIdentity.Proofs.Component.Introduction
import TraceIdentity.Proofs.Component.Separation
import TraceIdentity.Proofs.Headers.Order
/-!
# Requests in another spelling or another order

Nothing that is read from headers depends on the case of their names, as long as no two
names differ in case alone, nor on the order of the entries. Where a name does come in
several spellings, the order has no effect on a look-up for which the exact one is there.
-/
namespace TraceIdentity

namespace Headers

/-- The entries with the names of all of them in lowercase. -/
def folded (h : Headers) : List (List Char × String) :=
  h.entries.map fun e => (fold e.1, e.2)

/-- The same entries, up to their order and the case of their names. -/
def Recased (h k : Headers) : Prop :=
  h.folded.Perm k.folded

instance (h k : Headers) : Decidable (h.Recased k) :=
  inferInstanceAs (Decidable (List.Perm _ _))

variable {h k : Headers} {name value : String}

theorem mem_folded_iff :
    (fold name, value) ∈ h.folded ↔
      ∃ e ∈ h.entries, sameName e.1 name = true ∧ e.2 = value := by
  simp [folded, sameName_iff]

theorem map_fst_folded (h : Headers) : h.folded.map (·.1) = h.names.map fold := by
  simp [folded, names]

theorem OneSpelling.of_recased (hone : h.OneSpelling) (hsame : h.Recased k) : k.OneSpelling := by
  have hperm := hsame.map (·.1)
  rw [map_fst_folded, map_fst_folded] at hperm
  exact hperm.nodup_iff.mp hone

theorem find?_of_recased (hone : h.OneSpelling) (hsame : h.Recased k) (name : String) :
    h.find? name = k.find? name := by
  have hother := hone.of_recased hsame
  apply Option.ext
  intro value
  rw [hone.find?_eq_some_iff, hother.find?_eq_some_iff, ← mem_folded_iff, ← mem_folded_iff]
  exact hsame.mem_iff

theorem contains_of_find? (hfind : h.find? name = k.find? name) :
    h.contains name = k.contains name := by
  rw [contains, contains, hfind]

theorem value?_of_find? (hfind : h.find? name = k.find? name) : h.value? name = k.value? name := by
  rw [value?, value?, hfind]

theorem traced_congr (hparent : h.value? traceparent = k.value? traceparent) :
    h.Traced ↔ k.Traced := by
  unfold Traced
  rw [hparent]

/-- Without a readable traceparent the trace state is not looked up. -/
theorem traceContext_of_not_traced_congr (hnone : ¬ h.Traced)
    (hparent : h.value? traceparent = k.value? traceparent) (limit : Nat) :
    h.traceContext limit = k.traceContext limit := by
  unfold traceContext
  rw [← hparent]
  cases hvalue : h.value? traceparent with
  | none => rfl
  | some tp =>
    cases hread : SpanContext.ofTraceparent tp with
    | error f => simp [hread, Except.map]
    | ok parent => exact absurd (traced_of_ok hvalue hread) hnone

end Headers

namespace Component

variable {σ : Type} (c : Component σ)

/-- The same is read from both headers, as far as all names that are looked up are `sure`. The
trace state is looked up beside a readable traceparent only, and the request id without one. -/
structure ReadsAlike (sure : String → Prop) (h k : Headers) : Prop where
  found : ∀ name, sure name → h.find? name = k.find? name
  value : ∀ name, sure name → h.value? name = k.value? name
  contains : ∀ name, h.contains name = k.contains name
  context : ∀ limit, sure Headers.traceparent → (h.Traced → sure Headers.tracestate) →
    h.traceContext limit = k.traceContext limit
  source : sure Headers.requestContext → c.sourceOf h = c.sourceOf k
  received : ∀ s, sure Headers.traceparent → (h.Traced → sure Headers.tracestate) →
    (¬ h.Traced → sure Headers.requestId) → sure Headers.requestContext →
      c.receive h s = c.receive k s
  introduced : (c.introduce h).1 = (c.introduce k).1

variable {h k : Headers}

theorem introduce_congr
    (hcontains : h.contains Headers.requestContext = k.contains Headers.requestContext) :
    (c.introduce h).1 = (c.introduce k).1 := by
  unfold introduce
  rw [hcontains]
  split
  · rfl
  · cases c.appId <;> rfl

theorem readsAlike_of_find? {sure : String → Prop}
    (hfind : ∀ name, sure name → h.find? name = k.find? name)
    (hcontains : ∀ name, h.contains name = k.contains name) : c.ReadsAlike sure h k := by
  have hvalue := fun name hname => Headers.value?_of_find? (hfind name hname)
  constructor
  case found => exact hfind
  case value => exact hvalue
  case contains => exact hcontains
  case context =>
    intro limit hparent hstate
    by_cases htraced : h.Traced
    · exact Headers.traceContext_congr (hvalue _ hparent) (hvalue _ (hstate htraced)) limit
    · exact Headers.traceContext_of_not_traced_congr htraced (hvalue _ hparent) limit
  case source => exact fun hcontext => c.sourceOf_congr (hvalue _ hcontext)
  case received =>
    intro s hparent hstate hid hcontext
    have hsame : h.SameCaller c.settings k := by
      by_cases htraced : h.Traced
      · exact .traceparent htraced (hvalue _ hparent) (hvalue _ (hstate htraced))
      · have hother := mt (Headers.traced_congr (hvalue _ hparent)).mpr htraced
        exact .requestId htraced hother (hvalue _ (hid htraced))
    exact c.receive_eq_of_sameCaller hsame (hvalue _ hcontext) s
  case introduced => exact c.introduce_congr (hcontains _)

/-- Neither the case of names nor the order of entries is read, and the order is not read either
from headers with several spellings, if each such name that is looked up is there exactly. -/
theorem respelled_reads_alike (h k : Headers) :
    (h.OneSpelling → h.Recased k → c.ReadsAlike (fun _ => True) h k) ∧
      (h.entries.Perm k.entries → c.ReadsAlike h.Settled h k) := by
  constructor
  · intro hone hsame
    have hfind := Headers.find?_of_recased hone hsame
    apply c.readsAlike_of_find?
    · exact fun name _ => hfind name
    · exact fun name => Headers.contains_of_find? (hfind name)
  · intro hperm
    apply c.readsAlike_of_find?
    · exact fun _ hs => Headers.find?_of_perm hperm hs
    · exact Headers.contains_of_perm hperm

/-- A request in other cases and in another order, and one with three traceparents of which the
exact one is read wherever it stands. -/
theorem respelled_reads_alike_of_shuffled :
    let c : Component IdSource.Drawn :=
      { settings := { instrumentationKey := some "key" }
        ids := .counting
        resolver := AppId.Resolver.fixed (some "own") }
    let tp := "00-0123456789abcdef0123456789abcdef-0123456789abcdef-01"
    let plain := Headers.ofList [(Headers.traceparent, tp), (Headers.tracestate, "a=1,a=2"),
      (Headers.requestContext, "appId=other")]
    let shouted := Headers.ofList [("REQUEST-CONTEXT", "appId=other"), ("TRACEPARENT", tp),
      ("TRACESTATE", "a=1,a=2")]
    let older := Headers.ofList [("TraceParent", "00-0123"), (Headers.traceparent, tp),
      ("TRACEPARENT", "00-4567")]
    let later := Headers.ofList [("TRACEPARENT", "00-4567"), (Headers.traceparent, tp),
      ("TraceParent", "00-0123")]
    plain.OneSpelling ∧ plain.Recased shouted ∧ c.receive plain {} = c.receive shouted {} ∧
      (c.introduce plain).1 = (c.introduce shouted).1 ∧
        older.entries.Perm later.entries ∧ ¬ older.OneSpelling ∧
          older.traceContext 32 = later.traceContext 32 ∧
            c.receive older {} = c.receive later {} := by
  intro c tp plain shouted older later
  have hone : plain.OneSpelling := by decide +kernel
  have hsame : plain.Recased shouted := by decide +kernel
  have hperm : older.entries.Perm later.entries := by decide +kernel
  have hsettled : ∀ name ∈ Headers.written, older.Settled name := by decide +kernel
  have hcase := (c.respelled_reads_alike plain shouted).1 hone hsame
  have horder := (c.respelled_reads_alike older later).2 hperm
  have hparent := hsettled Headers.traceparent (by decide)
  have hstate := hsettled Headers.tracestate (by decide)
  have hid := hsettled Headers.requestId (by decide)
  have hcontext := hsettled Headers.requestContext (by decide)
  refine ⟨hone, hsame, ?_, hcase.introduced, hperm, by decide +kernel, ?_, ?_⟩
  · exact hcase.received {} trivial (fun _ => trivial) (fun _ => trivial) trivial
  · exact horder.context 32 hparent fun _ => hstate
  · exact horder.received {} hparent (fun _ => hstate) (fun _ => hid) hcontext

end Component

end TraceIdentity
