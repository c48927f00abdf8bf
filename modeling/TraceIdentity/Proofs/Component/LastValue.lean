import TraceIdentity.Proofs.Component.LegacyRoot
import TraceIdentity.Proofs.Record.Stamp
/-!
# The value of a key that occurs twice

A key may occur in a trace state more than once, and the last entry under it counts
wherever the state is asked. A record that already has a value for the key keeps
it: what the record has wins over what the state says.
-/
namespace TraceIdentity

namespace TraceState

/-- The last entry of `t` under `key` has this value. -/
def Last (t : TraceState) (key value : String) : Prop :=
  ∃ before after, t.entries = before ++ (key, value) :: after ∧ ∀ e ∈ after, e.1 ≠ key

/-- What a look-up of `key` in `t` finds, and what becomes of the key as a property. -/
structure Resolves (t : TraceState) (key : String) : Prop where
  found : ∀ value, t.find? key = some value ↔ t.Last key value
  missing : t.find? key = none ↔ ∀ e ∈ t.entries, e.1 ≠ key
  property : t.properties.find? key = t.find? key

/-- These properties are `own` ones, and for all other keys those of `t`. -/
def FillsGaps (t : TraceState) (own properties : Table String) : Prop :=
  ∀ key, properties.find? key = (own.find? key).or (t.find? key)

theorem find?_eq_some_iff {t : TraceState} {key value : String} :
    t.find? key = some value ↔ t.Last key value := by
  rw [find?, List.lookup_eq_some_iff]
  constructor
  · rintro ⟨newer, older, hsplit, hnewer⟩
    refine ⟨older.reverse, newer.reverse, ?_, ?_⟩
    · rw [List.reverse_eq_iff.mp hsplit]
      simp
    · intro e he
      have hne := hnewer e (List.mem_reverse.mp he)
      exact fun hkey => by simp [hkey] at hne
  · rintro ⟨before, after, hsplit, hafter⟩
    refine ⟨after.reverse, before.reverse, ?_, ?_⟩
    · rw [hsplit]
      simp
    · intro e he
      have hne := hafter e (List.mem_reverse.mp he)
      simpa using Ne.symm hne

theorem find?_eq_none_iff {t : TraceState} {key : String} :
    t.find? key = none ↔ ∀ e ∈ t.entries, e.1 ≠ key := by
  rw [find?, List.lookup_eq_none_iff]
  constructor
  · intro h e he hkey
    have hne := h e (List.mem_reverse.mpr he)
    simp [hkey] at hne
  · intro h e he
    simpa using Ne.symm (h e (List.mem_reverse.mp he))

theorem resolves (t : TraceState) (key : String) : t.Resolves key where
  found _ := find?_eq_some_iff
  missing := find?_eq_none_iff
  property := t.find?_properties key

end TraceState

theorem Caller.ofHeaders_of_path {st : Settings} {h : Headers}
    (hpath : (ofHeaders st h).path = .traceparent) :
    ∃ parent, h.traceContext st.maxMembers = .ok parent ∧
      ofHeaders st h = .traceparent parent := by
  have htraced := (told st h).path_eq_traceparent_iff.mp hpath
  obtain ⟨tp, parent, hvalue, hread⟩ := Headers.traced_iff.mp htraced
  have hcontext : h.traceContext st.maxMembers =
      .ok { parent with state := h.traceState st.maxMembers } :=
    Headers.traceContext_of_ok hvalue hread
  exact ⟨_, hcontext, by rw [ofHeaders, hcontext]⟩

theorem Arrival.find?_properties_assign (a : Arrival) (r : Record Record.Request) (key : String) :
    (a.assign r).properties.find? key = (r.properties.find? key).or (a.properties.find? key) :=
  Table.find?_fillAll_entries r.properties a.properties key

namespace Component

variable {σ : Type} (c : Component σ) (h : Headers) (s : σ)

theorem properties_receive_of_path (hpath : (c.receive h s).1.path = .traceparent) :
    ∃ parent, h.traceContext c.settings.maxMembers = .ok parent ∧
      ∀ key, (c.receive h s).1.properties.find? key = parent.state.find? key := by
  obtain ⟨parent, hcontext, hcaller⟩ := Caller.ofHeaders_of_path hpath
  refine ⟨parent, hcontext, ?_⟩
  intro key
  show (Caller.ofHeaders c.settings h).properties.find? key = _
  rw [hcaller, Caller.find?_properties_traceparent]

/-- The last value of a key is found in the state and among its properties, it becomes the property
of a request that came with the state, and it fills a gap in the record of the request and in every
record that is stamped under the state. -/
theorem last_value_everywhere :
    (∀ (t : TraceState) (key : String), t.Resolves key) ∧
      ((c.receive h s).1.path = .traceparent →
        ∃ parent, h.traceContext c.settings.maxMembers = .ok parent ∧
          (∀ key, (c.receive h s).1.properties.find? key = parent.state.find? key) ∧
            ∀ r : Record Record.Request,
              parent.state.FillsGaps r.properties ((c.receive h s).1.assign r).properties) ∧
        ∀ (β : Type) [Record.HasKind β] (r : Record β) (current : SpanContext),
          current.isValid = true → r.kind = .request ∨ r.kind = .dependency →
            current.state.FillsGaps r.properties (r.stamp (some current)).properties := by
  refine ⟨TraceState.resolves, ?_, ?_⟩
  · intro hpath
    obtain ⟨parent, hcontext, hproperties⟩ := c.properties_receive_of_path h s hpath
    refine ⟨parent, hcontext, hproperties, ?_⟩
    intro r key
    rw [Arrival.find?_properties_assign, hproperties]
  · intro β _ r current hv hkind key
    have hcarries : r.kind.carriesTraceState = true := by
      obtain hkind | hkind := hkind <;> rw [hkind] <;> rfl
    exact Record.find?_properties_stamp hv hcarries key

/-- A key that comes twice, and one for which the record has a value of its own. -/
theorem last_value_everywhere_of_twice :
    let c : Component IdSource.Drawn := { settings := {}, ids := .counting }
    let h := Headers.ofList [
      (Headers.traceparent, "00-0123456789abcdef0123456789abcdef-0123456789abcdef-00"),
      (Headers.tracestate, "k=1,j=2, k=3")]
    let current : SpanContext :=
      { trace := Octets.ofNat 16 1, span := Octets.zero 8, state := .parse "k=1,j=2, k=3" 32 }
    let r : Record Record.Request := { body := {}, properties := Table.empty.insert "j" "own" }
    let a := (c.receive h {}).1
    a.path = .traceparent ∧ (a.assign r).properties.find? "k" = some "3" ∧
      (a.assign r).properties.find? "j" = some "own" ∧ current.isValid = true ∧
        r.kind = .request ∧ (r.stamp (some current)).properties.find? "k" = some "3" ∧
          (r.stamp (some current)).properties.find? "j" = some "own" := by
  intro c h current r a
  have hpath : a.path = .traceparent := by decide +kernel
  have hv : current.isValid = true := by decide +kernel
  have hkind : r.kind = .request := rfl
  have hread : (h.traceContext 32).toOption.map SpanContext.state = some current.state := by
    decide +kernel
  have hlast : current.state.find? "k" = some "3" := by decide +kernel
  obtain ⟨-, hreceived, hstamped⟩ := c.last_value_everywhere h {}
  obtain ⟨parent, hcontext, -, hassigned⟩ := hreceived hpath
  have hparent : h.traceContext 32 = .ok parent := hcontext
  rw [hparent] at hread
  have hstate : parent.state = current.state := Option.some.inj hread
  have hfilled := hstamped Record.Request r current hv (.inl hkind)
  refine ⟨hpath, ?_, ?_, hv, hkind, ?_, ?_⟩
  · exact (hassigned r "k").trans (hstate ▸ hlast)
  · exact hassigned r "j"
  · exact (hfilled "k").trans hlast
  · exact hfilled "j"

end Component

end TraceIdentity
