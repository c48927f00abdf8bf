import TraceIdentity.Host.Slot
/-!
# Hosts

A host runs code on threads, and inside tasks that any thread may poll. Every
thread and every task owns one slot. Code reaches a slot through a store: the
slot of its thread, or that of the innermost task around it.
-/
namespace TraceIdentity

inductive Place where
  | thread (name : String)
  | task (name : String)
  deriving DecidableEq, Repr

/-- Where code runs: on a thread, inside these tasks, outermost first. -/
structure Site where
  thread : String
  tasks : List String := []
  deriving DecidableEq, Repr

/-- The rule by which code finds its slot. -/
inductive Store where
  | thread
  | task
  deriving DecidableEq, Repr

def Store.place (store : Store) (site : Site) : Place :=
  match store, site.tasks.getLast? with
  | .task, some name => .task name
  | _, _ => .thread site.thread

structure Guard where
  store : Store
  handle : Handle
  deriving DecidableEq, Repr

/-- A scope was closed against the protocol. -/
structure Violation where
  cause : Fault
  deriving DecidableEq, Repr

/-- The text that stops the code which closed the scope. -/
def Violation.text (v : Violation) : String :=
  "ambient scope protocol violated: Err(Error \x7b kind: ScopeMismatch, message: "
    ++ String.ofList (Text.quoted '"' v.cause.message.toList) ++ ", source: None \x7d)"

/-- The slots of all threads and tasks. The id of the next scope stands for a counter of 64 bits
that starts at 1: fewer than 2^64 scopes are entered, so that it never wraps, and no id is used
twice. -/
structure Host where
  slots : Place → Slot := fun _ => {}
  nextScope : Nat := 1

namespace Host

def slot (h : Host) (store : Store) (site : Site) : Slot :=
  h.slots (store.place site)

def current (h : Host) (store : Store) (site : Site) : Option SpanContext :=
  (h.slot store site).current

def depth (h : Host) (store : Store) (site : Site) : Nat :=
  (h.slot store site).depth

def setSlot (h : Host) (place : Place) (slot : Slot) : Host :=
  { h with slots := fun p => if p = place then slot else h.slots p }

/-- Make `c` current and open a scope for it. -/
def enter (h : Host) (store : Store) (site : Site) (c : SpanContext) : Handle × Host :=
  let slot := h.slot store site
  (⟨h.nextScope, slot.current⟩,
    { h.setSlot (store.place site) (slot.enter h.nextScope c) with nextScope := h.nextScope + 1 })

/-- Close the scope of a handle and report what is wrong about it. -/
def tryRelease (h : Host) (store : Store) (site : Site) (handle : Handle) :
    Except Fault Unit × Host :=
  let closed := (h.slot store site).close handle.id
  (closed.1, h.setSlot (store.place site) closed.2)

/-- Close the scope of a handle; a fault is a violation, and the slot has changed all the same. -/
def release (h : Host) (store : Store) (site : Site) (handle : Handle) :
    Except Violation Unit × Host :=
  let closed := h.tryRelease store site handle
  (closed.1.mapError Violation.mk, closed.2)

def guard (h : Host) (store : Store) (site : Site) (c : SpanContext) : Guard × Host :=
  let entered := h.enter store site c
  (⟨store, entered.1⟩, entered.2)

def drop (h : Host) (site : Site) (g : Guard) : Except Violation Unit × Host :=
  h.release g.store site g.handle

/-- Give a new task a slot with this base value. -/
def openTask (h : Host) (name : String) (base : Option SpanContext) : Host :=
  h.setSlot (.task name) { current := base }

/-- Give a new task a slot whose base value is the context current here. -/
def bindTask (h : Host) (site : Site) (name : String) : Host :=
  h.openTask name (h.current .task site)

@[simp] theorem slots_setSlot (h : Host) (place p : Place) (slot : Slot) :
    (h.setSlot place slot).slots p = if p = place then slot else h.slots p := rfl

@[simp] theorem current_enter (h : Host) (store : Store) (site : Site) (c : SpanContext) :
    (h.enter store site c).2.current store site = some c := by
  simp [current, slot, enter, setSlot, Slot.enter]

end Host

end TraceIdentity
