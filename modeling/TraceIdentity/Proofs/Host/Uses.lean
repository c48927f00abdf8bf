import Mathlib.Data.List.Forall2
import Mathlib.Logic.Function.Basic
import TraceIdentity.Proofs.Host.Places
/-!
# Uses of a host

Code enters contexts, looks at the current one and tries to release the handles
that it keeps under names of its choice, through either store and from any site.
A use tells its code something and shows it the slot that it resolves to.
-/
namespace TraceIdentity

/-- A handle that no slot issued: ids start at one. -/
def Handle.unknown : Handle := ⟨0, none⟩

/-- What code does with a slot. -/
inductive Use.Op where
  | enter (name : Nat) (c : SpanContext)
  | current
  | release (name : Nat)
  | releaseUnknown
  deriving DecidableEq

/-- One use of a host: what is done, through which store and from where. -/
structure Use where
  store : Store
  site : Site
  op : Use.Op
  deriving DecidableEq

namespace Use

def place (u : Use) : Place :=
  u.store.place u.site

inductive Reply where
  | entered (previous : Option SpanContext)
  | read (current : Option SpanContext)
  | tried (result : Except Fault Unit)

/-- What a use replies, and what its slot shows afterwards. -/
structure Sight where
  reply : Reply
  current : Option SpanContext
  depth : Nat

/-- Uses that do the same to the slot of the same place. -/
def Alike (u v : Use) : Prop :=
  u.place = v.place ∧ u.op = v.op

end Use

/-- A host, and the handles that the names stand for. -/
structure Session where
  host : Host
  handles : Nat → Handle := fun _ => .unknown

namespace Session

/-- A session on a host at rest, without any handle. -/
def resting (base : Place → Option SpanContext) (issued : Nat) : Session :=
  { host := .resting base issued }

variable (m : Session)

/-- Enter a context and keep the handle under a name. -/
def enter (store : Store) (site : Site) (name : Nat) (c : SpanContext) : Use.Reply × Session :=
  let entered := m.host.enter store site c
  (.entered entered.1.previous,
    { host := entered.2, handles := Function.update m.handles name entered.1 })

def tryRelease (store : Store) (site : Site) (handle : Handle) : Use.Reply × Session :=
  let closed := m.host.tryRelease store site handle
  (.tried closed.1, { m with host := closed.2 })

def act (u : Use) : Use.Reply × Session :=
  match u.op with
  | .enter name c => m.enter u.store u.site name c
  | .current => (.read (m.host.current u.store u.site), m)
  | .release name => m.tryRelease u.store u.site (m.handles name)
  | .releaseUnknown => m.tryRelease u.store u.site .unknown

/-- What a use shows to its code. -/
def sight (u : Use) : Use.Sight :=
  let acted := m.act u
  ⟨acted.1, acted.2.host.current u.store u.site, acted.2.host.depth u.store u.site⟩

/-- Everything that a sequence of uses shows, with the place that each use resolves to. -/
def observe (m : Session) : List Use → List (Place × Use.Sight)
  | [] => []
  | u :: us => (u.place, m.sight u) :: (m.act u).2.observe us

/-- The part of it that is shown by the slot of one place. -/
def observeAt (m : Session) (place : Place) (us : List Use) : List (Place × Use.Sight) :=
  (m.observe us).filter (·.1 = place)

section

variable {u v : Use} {place : Place} {store : Store} {site : Site} {name name' : Nat}
  {c : SpanContext}

@[simp] theorem nextScope_enter :
    (m.enter store site name c).2.host.nextScope = m.host.nextScope + 1 := rfl

theorem handles_enter_self :
    (m.enter store site name c).2.handles name = (m.host.enter store site c).1 := by
  show Function.update m.handles name (m.host.enter store site c).1 name = _
  rw [Function.update_self]

@[simp] theorem id_enter_self :
    ((m.enter store site name c).2.handles name).id = m.host.nextScope := by
  rw [handles_enter_self]
  rfl

theorem handles_enter_of_ne (h : name' ≠ name) :
    (m.enter store site name c).2.handles name' = m.handles name' :=
  Function.update_of_ne h _ _

theorem slots_enter (store : Store) (site : Site) (name : Nat) (c : SpanContext) (place : Place) :
    (m.enter store site name c).2.host.slots place =
      if place = store.place site then (m.host.slots place).enter m.host.nextScope c
      else m.host.slots place :=
  m.host.slots_enter store site c place

theorem slots_tryRelease (store : Store) (site : Site) (handle : Handle) (place : Place) :
    (m.tryRelease store site handle).2.host.slots place =
      if place = store.place site then ((m.host.slots place).close handle.id).2
      else m.host.slots place :=
  m.host.slots_tryRelease store site handle place

theorem act_congr (h : u.Alike v) : m.act u = m.act v := by
  obtain ⟨store, site, op⟩ := u
  obtain ⟨store', site', op'⟩ := v
  obtain ⟨hplace, rfl⟩ := h
  have hsame : store.place site = store'.place site' := hplace
  cases op <;> simp only [act, enter, tryRelease, Host.enter, Host.tryRelease, Host.current,
    Host.slot, hsame]

theorem sight_congr (h : u.Alike v) : m.sight u = m.sight v := by
  have hact := m.act_congr h
  have hplace : u.store.place u.site = v.store.place v.site := h.1
  simp only [sight, hact, Host.current, Host.depth, Host.slot, hplace]

/-- What is observed depends on the places and on what is done there, not on stores and sites. -/
theorem observe_congr {us vs : List Use} (h : List.Forall₂ Use.Alike us vs) :
    m.observe us = m.observe vs := by
  induction h generalizing m with
  | nil => rfl
  | cons huv htail ih => rw [observe, observe, huv.1, m.sight_congr huv, m.act_congr huv, ih]

theorem observeAt_cons_of_eq (us : List Use) (h : u.place = place) :
    m.observeAt place (u :: us) = (place, m.sight u) :: (m.act u).2.observeAt place us := by
  rw [observeAt, observe, List.filter_cons_of_pos (by simpa using h), h]
  rfl

theorem observeAt_cons_of_ne (us : List Use) (h : u.place ≠ place) :
    m.observeAt place (u :: us) = (m.act u).2.observeAt place us := by
  rw [observeAt, observe, List.filter_cons_of_neg (by simpa using h)]
  rfl

end

end Session

end TraceIdentity
