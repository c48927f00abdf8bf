import TraceIdentity.Work
/-!
# Programs on a host

A program enters contexts, starts work, and releases every handle at most once,
step by step and from any thread or task. Each step leaves an event: what was
done, what it answered, and the listener that was called.
-/
namespace TraceIdentity

/-- Who releases a handle: the code that entered it, a guard, or a scope of some work. -/
inductive Holder where
  | code
  | guard (store : Store)
  | work (index : Nat)
  deriving DecidableEq

/-- A handle that is not released yet, with the place where it was entered. -/
structure Held where
  handle : Handle
  holder : Holder
  place : Place
  deriving DecidableEq

/-- A host, the work started on it, and the handles that are not released yet. -/
structure Program where
  host : Host
  works : List Work := []
  held : List Held := []

/-- What a program can do. Work is named by its number, a handle by its id. -/
inductive Action where
  | enter (store : Store) (site : Site) (c : SpanContext)
  | guard (store : Store) (site : Site) (c : SpanContext)
  | start (store : Store) (site : Site) (c : SpanContext)
  | resume (work : Nat) (site : Site)
  | finish (work : Nat) (o : Work.Outcome)
  | tryFinish (work : Nat) (o : Work.Outcome)
  | tryRelease (id : Nat) (store : Store) (site : Site)
  | release (id : Nat) (store : Store) (site : Site)
  | dropGuard (id : Nat) (store : Store) (site : Site)
  | leave (work id : Nat) (site : Site)
  | finishAndLeave (work id : Nat) (o : Work.Outcome) (site : Site)
  deriving DecidableEq

inductive Answer where
  /-- A context was entered. -/
  | entered (handle : Handle)
  /-- The work had ended, so that nothing was entered. -/
  | ended
  /-- Whether a terminal event won. -/
  | told (won : Bool)
  | tried (result : Except Fault Unit)
  | released
  /-- The release of a scope stopped the code that made it. -/
  | stopped (v : Violation)

def Answer.ofRelease : Except Violation Unit → Answer
  | .ok () => .released
  | .error v => .stopped v

def Answer.ofClosing : Except Violation Bool → Answer
  | .ok won => .told won
  | .error v => .stopped v

/-- One step: the action, its answer, and the work whose listener heard of its end. -/
structure Event where
  action : Action
  answer : Answer
  call : Option (Nat × Work.Ending) := none

namespace Program

/-- Give up the handle with this id, if its holder has it. -/
def take? (p : Program) (id : Nat) (holder : Holder) : Option (Handle × Program) :=
  (p.held.find? fun s => s.handle.id = id ∧ s.holder = holder).map fun s =>
    (s.handle, { p with held := p.held.erase s })

def setWork (p : Program) (k : Nat) (w : Work) : Program :=
  { p with works := p.works.set k w }

def hold (p : Program) (handle : Handle) (holder : Holder) (place : Place) : Program :=
  { p with held := ⟨handle, holder, place⟩ :: p.held }

/-- Do one thing; nothing can be done to work that was not started or a handle not held. -/
def step (p : Program) (a : Action) : Option (Event × Program) :=
  match a with
  | .enter store site c =>
    let entered := p.host.enter store site c
    some (⟨a, .entered entered.1, none⟩,
      { p with host := entered.2 }.hold entered.1 .code (store.place site))
  | .guard store site c =>
    let entered := p.host.guard store site c
    some (⟨a, .entered entered.1.handle, none⟩,
      { p with host := entered.2 }.hold entered.1.handle (.guard entered.1.store)
        (store.place site))
  | .start store site c =>
    let started := Work.start store site c p.host
    some (⟨a, .entered started.1, none⟩,
      { p with host := started.2.2, works := p.works ++ [started.2.1] }.hold started.1
        (.work p.works.length) (store.place site))
  | .resume k site =>
    p.works[k]?.map fun w =>
      match w.resume? site p.host with
      | none => (⟨a, .ended, none⟩, p)
      | some (handle, resumed, host) =>
        (⟨a, .entered handle, none⟩,
          ({ p with host }.setWork k resumed).hold handle (.work k) (w.store.place site))
  | .finish k o =>
    p.works[k]?.map fun w =>
      match w.finish o with
      | .ok (ending, ended) => (⟨a, .told true, some (k, ending)⟩, p.setWork k ended)
      | .error _ => (⟨a, .told false, none⟩, p)
  | .tryFinish k o =>
    p.works[k]?.map fun w =>
      match w.finish o with
      | .ok (ending, ended) => (⟨a, .tried (.ok ()), some (k, ending)⟩, p.setWork k ended)
      | .error f => (⟨a, .tried (.error f), none⟩, p)
  | .tryRelease id store site =>
    (p.take? id .code).map fun (handle, q) =>
      let closed := q.host.tryRelease store site handle
      (⟨a, .tried closed.1, none⟩, { q with host := closed.2 })
  | .release id store site =>
    (p.take? id .code).map fun (handle, q) =>
      let closed := q.host.release store site handle
      (⟨a, .ofRelease closed.1, none⟩, { q with host := closed.2 })
  | .dropGuard id store site =>
    (p.take? id (.guard store)).map fun (handle, q) =>
      let closed := q.host.drop site ⟨store, handle⟩
      (⟨a, .ofRelease closed.1, none⟩, { q with host := closed.2 })
  | .leave k id site =>
    p.works[k]?.bind fun w =>
      (p.take? id (.work k)).map fun (handle, q) =>
        let left := w.leave site handle q.host
        (⟨a, .ofRelease left.1, none⟩, { q with host := left.2.2 }.setWork k left.2.1)
  | .finishAndLeave k id o site =>
    p.works[k]?.bind fun w =>
      (p.take? id (.work k)).map fun (handle, q) =>
        let closing := w.finishAndLeave o site handle q.host
        (⟨a, .ofClosing closing.result, closing.ending.map (k, ·)⟩,
          { q with host := closing.host }.setWork k closing.work)

/-- A program gets from one state to another by these events. The slot of every task is there from
the start, with the base value that the task is opened with, and no task ends during a run. -/
inductive Run (p : Program) : List Event → Program → Prop where
  | refl : Run p [] p
  | snoc {t : List Event} {q q' : Program} {a : Action} {e : Event} :
    Run p t q → q.step a = some (e, q') → Run p (t ++ [e]) q'

/-- How many scopes run some work. -/
def scopes (p : Program) (k : Nat) : Nat :=
  p.held.countP (·.holder = .work k)

end Program

end TraceIdentity
