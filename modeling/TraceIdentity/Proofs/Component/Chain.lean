import TraceIdentity.Host
import TraceIdentity.Proofs.Component.Exchange
import TraceIdentity.Proofs.IdSource.NeverZero
/-!
# Chains of components

A request travels from component to component: each correlates what it receives,
enters the context on its host and makes a call while that context is current,
whose headers the next one receives. However long the chain and however its
components are configured, all of them share the operation of the first.
-/
namespace TraceIdentity

/-- A component in a chain, with the host that it runs on and the states of its ids. -/
structure Relay where
  Draws : Type
  component : Component Draws
  neverZero : component.ids.NeverZero
  /-- The state of the ids when the request arrives. -/
  atArrival : Draws
  /-- The state of the ids when the call is made, after any other draws. -/
  atCall : Draws
  host : Host
  store : Store
  site : Site
  /-- What else happens on the host before the call, while the context stays current. -/
  meanwhile : Host → Host := id
  keepsCurrent : ∀ h, (meanwhile h).current store site = h.current store site := by
    intro h
    rfl

namespace Relay

def receive (r : Relay) (h : Headers) : Arrival :=
  (r.component.receive h r.atArrival).1

/-- Enter the context of the request and make a call with no headers but those of the call. -/
def call (r : Relay) (a : Arrival) : Departure × Headers × r.Draws :=
  let entered := (r.host.enter r.store r.site a.context).2
  r.component.send ((r.meanwhile entered).current r.store r.site) .empty r.atCall

end Relay

/-- What one component of a chain received and what it sent. -/
structure Visit where
  arrival : Arrival
  departure : Departure

/-- The visits of a request with these headers, one for each component in turn. -/
def travel : List Relay → Headers → List Visit
  | [], _ => []
  | r :: rs, h =>
    let a := r.receive h
    ⟨a, (r.call a).1⟩ :: travel rs (r.call a).2.1

@[simp] theorem length_travel (rs : List Relay) (h : Headers) :
    (travel rs h).length = rs.length := by
  induction rs generalizing h with
  | nil => rfl
  | cons r rs ih => simp [travel, ih]

/-- What one hop of a chain carries over, up to the limit of the component that receives it. -/
structure Hop (limit : Nat) (a b : Visit) : Prop where
  path : b.arrival.path = .traceparent
  operationId : b.arrival.operationId = a.arrival.operationId
  flags : b.arrival.context.flags = a.arrival.context.flags
  parentId : b.arrival.parentId = some a.departure.id
  callParentId : a.departure.parentId = some a.arrival.selfId
  entries : b.arrival.context.state.entries = a.arrival.context.state.entries.take limit

namespace Relay

theorem portable_receive (r : Relay) (h : Headers) : (r.receive h).context.Portable :=
  r.component.portable_receive r.neverZero h r.atArrival

theorem call_eq (r : Relay) (a : Arrival) :
    r.call a = r.component.send (some a.context) .empty r.atCall := by
  rw [call, r.keepsCurrent, Host.current_enter]

theorem hop_call (r next : Relay) (h : Headers) (d : Departure) :
    Hop next.component.settings.maxMembers ⟨r.receive h, (r.call (r.receive h)).1⟩
      ⟨next.receive (r.call (r.receive h)).2.1, d⟩ := by
  rw [call_eq]
  obtain ⟨hpath, hparent, hcall, htrace, hflags, hentries⟩ := r.component.receive_send
    next.component r.neverZero (r.portable_receive h) r.atCall next.atArrival
  exact ⟨hpath, congrArg Octets.toHex htrace, hflags, hparent, hcall, hentries⟩

end Relay

private theorem travel_hop (r : Relay) (rs : List Relay) (h : Headers) (i : Nat)
    (hi : i < rs.length) :
    ∃ a b, (travel (r :: rs) h)[i]? = some a ∧ (travel (r :: rs) h)[i + 1]? = some b ∧
      Hop rs[i].component.settings.maxMembers a b := by
  induction rs generalizing r h i with
  | nil => exact absurd hi (Nat.not_lt_zero i)
  | cons next rs ih =>
    cases i with
    | zero => exact ⟨_, _, rfl, rfl, r.hop_call next h _⟩
    | succ i => exact ih next (r.call (r.receive h)).2.1 i (Nat.lt_of_succ_lt_succ hi)

private theorem travel_operation (r : Relay) (rs : List Relay) (h : Headers) {i : Nat} {v : Visit}
    (hv : (travel (r :: rs) h)[i]? = some v) :
    v.arrival.operationId = (r.receive h).operationId ∧
      v.arrival.context.flags = (r.receive h).context.flags := by
  induction i generalizing v with
  | zero =>
    obtain rfl := Option.some.inj hv
    exact ⟨rfl, rfl⟩
  | succ i ih =>
    have hlt : i + 1 < (travel (r :: rs) h).length := (List.getElem?_eq_some_iff.mp hv).1
    rw [length_travel, List.length_cons] at hlt
    obtain ⟨a, b, ha, hb, hop⟩ := travel_hop r rs h i (Nat.lt_of_succ_lt_succ hlt)
    obtain rfl := Option.some.inj (hb.symm.trans hv)
    obtain ⟨hoperation, hflags⟩ := ih ha
    exact ⟨hop.operationId.trans hoperation, hop.flags.trans hflags⟩

/-- All components of a chain share the operation and the flags of the first, each is called by
the one before it, and each keeps the first entries of the state it receives. -/
theorem travel_shares_operation (r : Relay) (rs : List Relay) (h : Headers) (i : Nat)
    (hi : i < rs.length) :
    ∃ a b, (travel (r :: rs) h)[i]? = some a ∧ (travel (r :: rs) h)[i + 1]? = some b ∧
      b.arrival.path = .traceparent ∧
      b.arrival.operationId = (r.receive h).operationId ∧
      b.arrival.context.flags = (r.receive h).context.flags ∧
      b.arrival.parentId = some a.departure.id ∧
      a.departure.parentId = some a.arrival.selfId ∧
      b.arrival.context.state.entries =
        a.arrival.context.state.entries.take rs[i].component.settings.maxMembers := by
  obtain ⟨a, b, ha, hb, hop⟩ := travel_hop r rs h i hi
  obtain ⟨hoperation, hflags⟩ := travel_operation r rs h hb
  exact ⟨a, b, ha, hb, hop.path, hoperation, hflags, hop.parentId, hop.callParentId, hop.entries⟩

/-- A component that keeps so many members of a trace state and draws scrambled ids. -/
def Relay.keeping (limit : Nat) : Relay where
  Draws := UInt64
  component := { settings := { maxMembers := limit }, ids := .scrambled }
  neverZero := IdSource.neverZero_scrambled
  atArrival := 1
  atCall := 2
  host := {}
  store := .task
  site := { thread := "main" }

/-- The headers of a caller with a blank member and a key that occurs twice. -/
def Headers.ofCaller : Headers :=
  .ofList
    [("TraceParent", "00-0123456789abcdef0123456789abcdef-0123456789abcdef-81"),
      ("tracestate", "a=1, b=2,,a=3,d=4")]

theorem travel_shares_operation_of_three :
    1 < [Relay.keeping 2, Relay.keeping 1].length ∧
      ∃ a b, (travel [Relay.keeping 3, Relay.keeping 2, Relay.keeping 1] .ofCaller)[1]? = some a ∧
        (travel [Relay.keeping 3, Relay.keeping 2, Relay.keeping 1] .ofCaller)[2]? = some b ∧
        b.arrival.path = .traceparent ∧
        b.arrival.operationId = "0123456789abcdef0123456789abcdef" ∧
        b.arrival.context.flags = ⟨0x81⟩ ∧
        b.arrival.parentId = some a.departure.id ∧
        a.departure.parentId = some a.arrival.selfId ∧
        b.arrival.context.state.entries = a.arrival.context.state.entries.take 1 := by
  have hoperation : ((Relay.keeping 3).receive .ofCaller).operationId =
      "0123456789abcdef0123456789abcdef" := by decide +kernel
  have hflags : ((Relay.keeping 3).receive .ofCaller).context.flags = ⟨0x81⟩ := by decide +kernel
  have h := travel_shares_operation (Relay.keeping 3) [Relay.keeping 2, Relay.keeping 1]
    .ofCaller 1 (by decide)
  rw [hoperation, hflags] at h
  exact ⟨by decide, h⟩

end TraceIdentity
