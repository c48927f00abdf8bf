import TraceIdentity.Proofs.Component.LastValue
import TraceIdentity.Proofs.Record.Rooted
/-!
# Stamping before or after

A record gets its identity from the request or the call that it is about, and it is stamped
with what is current. Both write the operation and the properties, each by rules of its own,
but it makes no difference which comes first. A request that has its identity gains nothing
from a stamp under its own context.
-/
namespace TraceIdentity

/-- Every entry of the state is a property of the request, under the same key. -/
def Arrival.Covers (a : Arrival) : Prop :=
  ∀ key value, a.context.state.find? key = some value → a.properties.find? key = some value

theorem or_of_given {own given state : Option String}
    (hgiven : ∀ value, state = some value → given = some value) :
    (own.or state).or given = own.or given := by
  cases state with
  | none => simp
  | some value =>
    rw [hgiven value rfl]
    cases own <;> simp

namespace Caller

variable {σ : Type} (ids : IdSource σ)

theorem find?_properties_of_context (caller : Caller) (s : σ) {key value : String}
    (hfind : (caller.context ids s).1.state.find? key = some value) :
    caller.properties.find? key = some value := by
  cases caller with
  | traceparent parent =>
    rw [find?_properties_traceparent]
    change (parent.child ids s).1.state.find? key = some value at hfind
    unfold SpanContext.child at hfind
    split at hfind
    · exact hfind
    · cases hfind
  | legacy id =>
    unfold context at hfind
    cases htrace : id.rootTrace with
    | ok trace =>
      simp only [htrace] at hfind
      cases hfind
    | error f =>
      simp only [htrace] at hfind
      cases hfind
  | unknown => cases hfind

end Caller

section Assign

variable {a : Arrival} (r : Record Record.Request)

theorem Arrival.stamp_assign (hcovers : a.Covers) (hid : a.operationId ≠ "") :
    (a.assign r).stamp (some a.context) = a.assign r := by
  have hcomplete : (a.assign r).Complete a.context := by
    refine ⟨⟨a.operationId, rfl, hid⟩, ?_⟩
    intro _ key value hvalue
    rw [find?_properties_assign, hcovers key value hvalue]
    cases r.properties.find? key with
    | none => exact ⟨value, rfl⟩
    | some own => exact ⟨own, rfl⟩
  exact hcomplete.stamp_eq

theorem Arrival.assign_stamp (hcovers : a.Covers) :
    a.assign (r.stamp (some a.context)) = a.assign r := by
  cases hv : a.context.isValid with
  | false => rw [Record.stamp_of_not_isValid hv]
  | true =>
    apply Record.ext
    · simp only [assign, Record.body_stamp]
    · rfl
    · apply Table.ext_find?
      intro key
      rw [find?_properties_assign, find?_properties_assign, Record.find?_properties_stamp hv rfl]
      exact or_of_given (hcovers key)

/-- A call overwrites what a stamp would fill in, and a stamp finds that filled. -/
theorem Departure.stamp_assign (d : Departure) (q : Record Record.Dependency)
    (current : Option SpanContext) :
    (d.assign q).stamp current = d.assign (q.stamp current) := by
  have hoperation : ((d.assign q).stamp current).operation = (d.assign q).operation :=
    Record.operation_stamp_of_id rfl (Octets.toHex_ne_empty _) current
  apply Record.ext
  · simp only [Record.body_stamp, assign]
  · exact hoperation
  · unfold Record.stamp
    split <;> rfl

end Assign

namespace Component

variable {σ : Type} (c : Component σ)

theorem covers_receive (h : Headers) (s : σ) : (c.receive h s).1.Covers := by
  intro key value hfind
  exact Caller.find?_properties_of_context c.ids (Caller.ofHeaders c.settings h) s hfind

/-- The identity of a request and a stamp under its context, and the identity of a call and a stamp
under the context it was made in, give the same record in either order. -/
theorem stamped_in_any_order :
    (∀ (h : Headers) (s : σ) (r : Record Record.Request),
      let a := (c.receive h s).1
      (a.assign r).stamp (some a.context) = a.assign r ∧
        a.assign (r.stamp (some a.context)) = a.assign r) ∧
      ∀ (current : Option SpanContext) (h : Headers) (s : σ) (q : Record Record.Dependency),
        let d := (c.send current h s).1
        (d.assign q).stamp current = d.assign (q.stamp current) := by
  constructor
  · intro h s r a
    have hcovers : a.Covers := c.covers_receive h s
    have hid : a.operationId ≠ "" := Octets.toHex_ne_empty _
    exact ⟨a.stamp_assign r hcovers hid, a.assign_stamp r hcovers⟩
  · intro current h s q d
    exact d.stamp_assign q current

end Component

end TraceIdentity
