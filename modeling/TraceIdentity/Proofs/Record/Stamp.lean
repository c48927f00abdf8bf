import TraceIdentity.Record.Stamp
import TraceIdentity.Table.Lookup
/-!
# What a stamp fills in

An empty operation is filled from a valid context, and one that has an id is kept.
Requests and calls also get the entries of the trace state for the keys that they
do not have. A record in which all of that is there stays as it is.
-/
namespace TraceIdentity

namespace Operation

variable {o : Operation}

theorem stamp_of_empty (hid : o.idIsEmpty = true) (hparent : o.parentIsEmpty = true)
    (c : SpanContext) : o.stamp c = { id := some c.trace.toHex, parentId := some c.legacyId } := by
  rw [stamp, if_pos hid, if_pos hparent]

theorem idIsEmpty_eq_false {id : String} (hid : o.id = some id) (hne : id ≠ "") :
    o.idIsEmpty = false := by
  simp [idIsEmpty, hid, hne]

theorem stamp_of_id {id : String} (hid : o.id = some id) (hne : id ≠ "") (c : SpanContext) :
    o.stamp c = o := by
  rw [stamp, idIsEmpty_eq_false hid hne, if_neg Bool.false_ne_true]

end Operation

namespace Record

attribute [ext] Record

variable {β : Type} [HasKind β]

theorem stamp_of_not_isValid {current : SpanContext} (hv : current.isValid = false)
    (r : Record β) : r.stamp (some current) = r := by
  rw [stamp, Option.filter_some, hv, if_neg Bool.false_ne_true]

theorem operation_stamp_of_isValid {c : SpanContext} (hv : c.isValid = true) (r : Record β) :
    (r.stamp (some c)).operation = r.operation.stamp c := by
  rw [stamp, Option.filter_some, if_pos hv]
  rfl

theorem operation_stamp_of_id {r : Record β} {id : String} (hid : r.operation.id = some id)
    (hne : id ≠ "") (current : Option SpanContext) : (r.stamp current).operation = r.operation := by
  unfold stamp
  split
  · next c _ => exact Operation.stamp_of_id hid hne c
  · rfl

/-- A record that carries trace state keeps its properties and gets the others from the context. -/
theorem find?_properties_stamp {c : SpanContext} (hv : c.isValid = true) {r : Record β}
    (hk : r.kind.carriesTraceState = true) (key : String) :
    (r.stamp (some c)).properties.find? key =
      (r.properties.find? key).or (c.state.find? key) := by
  have hproperties : (r.stamp (some c)).properties =
      r.properties.fillAll c.state.properties.entries := by
    rw [stamp, Option.filter_some, if_pos hv]
    exact if_pos hk
  rw [hproperties, Table.find?_fillAll_entries, TraceState.find?_properties]

theorem body_stamp (r : Record β) (current : Option SpanContext) :
    (r.stamp current).body = r.body := by
  unfold stamp
  split <;> rfl

theorem properties_stamp_of_not_carries {r : Record β} (hk : r.kind.carriesTraceState = false)
    (current : Option SpanContext) : (r.stamp current).properties = r.properties := by
  unfold stamp
  split
  · exact if_neg (by simp [hk])
  · rfl

/-- Nothing is missing that a stamp under `c` would fill in. -/
structure Complete (r : Record β) (c : SpanContext) : Prop where
  id : ∃ id, r.operation.id = some id ∧ id ≠ ""
  property : r.kind.carriesTraceState = true → ∀ key value, c.state.find? key = some value →
    ∃ own, r.properties.find? key = some own

theorem Complete.stamp_eq {r : Record β} {c : SpanContext} (h : r.Complete c) :
    r.stamp (some c) = r := by
  obtain ⟨id, hid, hne⟩ := h.id
  apply Record.ext
  · exact r.body_stamp _
  · exact operation_stamp_of_id hid hne _
  · cases hk : r.kind.carriesTraceState with
    | false => exact properties_stamp_of_not_carries hk _
    | true =>
      cases hv : c.isValid with
      | false => rw [stamp_of_not_isValid hv]
      | true =>
        apply Table.ext_find?
        intro key
        rw [find?_properties_stamp hv hk]
        cases hvalue : c.state.find? key with
        | none => rw [Option.or_none]
        | some value =>
          obtain ⟨own, hown⟩ := h.property hk key value hvalue
          rw [hown, Option.some_or]

end Record

end TraceIdentity
