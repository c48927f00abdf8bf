import TraceIdentity.Proofs.Component.Exchange
import TraceIdentity.Proofs.Record.Stamp
/-!
# Records of one request

While the context of a request is current, records without an operation join the
operation of the request and get it as their parent, and so do the calls it makes.
A record that has an operation id is not stamped again.
-/
namespace TraceIdentity

/-- The records made while `current` is current hang on the record of the request `a`, which may be
stamped at any time. -/
structure Arrival.Rooted (a : Arrival) (current : Option SpanContext) : Prop where
  made : ∀ (β : Type) [Record.HasKind β] (r : Record β), r.operation.idIsEmpty = true →
    r.operation.parentIsEmpty = true →
      (r.stamp current).operation = { id := some a.operationId, parentId := some a.selfId }
  called : ∀ (τ : Type) (c : Component τ) (h : Headers) (s : τ) (r : Record Record.Dependency),
    let sent := (c.send current h s).1.assign r
    sent.operation = { id := some a.operationId, parentId := some a.selfId } ∧
      ∀ later, (sent.stamp later).operation = sent.operation
  request : ∀ r : Record Record.Request,
    let own := a.assign r
    own.body.id = a.selfId ∧
      own.operation = { id := some a.operationId, parentId := a.parentId } ∧
        ∀ later, (own.stamp later).operation = own.operation ∧
          (own.stamp later).body.id = a.selfId

namespace Component

variable {σ : Type} (c : Component σ)

/-- A call made under a valid context belongs to its operation and has it as parent. -/
theorem operation_assign_send {current : SpanContext} (hv : current.isValid = true) (h : Headers)
    (s : σ) (r : Record Record.Dependency) :
    ((c.send (some current) h s).1.assign r).operation =
      { id := some current.trace.toHex, parentId := some current.legacyId } := by
  rw [Departure.assign, c.parentId_send hv, c.context_send, c.next_of_isValid hv]

theorem rooted_receive (hz : c.ids.NeverZero) (h : Headers) (s : σ) :
    (c.receive h s).1.Rooted (some (c.receive h s).1.context) := by
  have hv := SpanContext.isValid_of_trace (c.portable_receive hz h s).trace_ne_zero
  have hne : (c.receive h s).1.operationId ≠ "" := Octets.toHex_ne_empty _
  constructor
  · intro β _ r hid hparent
    rw [Record.operation_stamp_of_isValid hv, Operation.stamp_of_empty hid hparent]
    rfl
  · intro τ d hd sd r sent
    have hsent : sent.operation =
        { id := some (c.receive h s).1.operationId, parentId := some (c.receive h s).1.selfId } :=
      d.operation_assign_send hv hd sd r
    refine ⟨hsent, ?_⟩
    intro later
    exact Record.operation_stamp_of_id (congrArg Operation.id hsent) hne later
  · intro r own
    refine ⟨rfl, rfl, ?_⟩
    intro later
    have hbody : (own.stamp later).body = own.body := own.body_stamp later
    exact ⟨Record.operation_stamp_of_id rfl hne later, congrArg Record.Request.id hbody⟩

end Component

end TraceIdentity
