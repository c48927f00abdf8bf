import TraceIdentity.Host
import TraceIdentity.Work.Phase
/-!
# Asynchronous work

Work carries a context from its start to its end. The context is current in
every scope that runs the work; leaving the last scope suspends it. It ends
once: the first terminal event wins and its listener hears of it.
-/
namespace TraceIdentity

/-- One unit of work, with the number of scopes that run it. -/
structure Work where
  context : SpanContext
  store : Store
  phase : Work.Phase := .started
  active : Nat := 0
  deriving DecidableEq, Repr

namespace Work

structure Ending where
  context : SpanContext
  outcome : Outcome
  deriving DecidableEq, Repr

def isFinished (w : Work) : Bool :=
  w.phase.isTerminal

def activate (w : Work) (site : Site) (h : Host) : Handle × Work × Host :=
  let entered := h.enter w.store site w.context
  (entered.1, { w with active := w.active + 1 }, entered.2)

def start (store : Store) (site : Site) (c : SpanContext) (h : Host) : Handle × Work × Host :=
  activate { context := c, store } site h

/-- Go on with the work at `site`, unless it has ended. -/
def resume? (w : Work) (site : Site) (h : Host) : Option (Handle × Work × Host) :=
  if w.isFinished then none else some (activate { w with phase := .resumed } site h)

/-- End the work; the ending is for its listener. -/
def finish (w : Work) (o : Outcome) : Except Fault (Ending × Work) :=
  if w.isFinished then .error (.alreadyEnded w.phase)
  else .ok (⟨w.context, o⟩, { w with phase := o.phase })

/-- One scope less runs the work; the last one to go suspends it. -/
def deactivate (w : Work) : Work :=
  let active := w.active - 1
  if w.isFinished || active != 0 then { w with active }
  else { w with active, phase := .suspended }

/-- Leave a scope of the work; a violation leaves the work as it was. -/
def leave (w : Work) (site : Site) (handle : Handle) (h : Host) :
    Except Violation Unit × Work × Host :=
  let closed := h.release w.store site handle
  match closed.1 with
  | .ok () => (.ok (), w.deactivate, closed.2)
  | .error v => (.error v, w, closed.2)

/-- What a terminal event through a scope did. -/
structure Closing where
  ending : Option Ending
  result : Except Violation Bool
  work : Work
  host : Host

/-- End the work and leave the scope that ended it; the result says whether it won. -/
def finishAndLeave (w : Work) (o : Outcome) (site : Site) (handle : Handle) (h : Host) :
    Closing :=
  match w.finish o with
  | .ok (ending, ended) =>
    let left := ended.leave site handle h
    ⟨some ending, left.1.map fun _ => true, left.2.1, left.2.2⟩
  | .error _ =>
    let left := w.leave site handle h
    ⟨none, left.1.map fun _ => false, left.2.1, left.2.2⟩

def dump (w : Work) : String :=
  "AsyncLifecycle \x7b ctx: " ++ w.context.dump ++ ", state: " ++ w.phase.label
    ++ ", active_scopes: " ++ toString w.active ++ " \x7d"

section

variable {w : Work}

@[simp] theorem context_deactivate (w : Work) : w.deactivate.context = w.context := by
  simp only [deactivate]
  split <;> rfl

@[simp] theorem active_deactivate (w : Work) : w.deactivate.active = w.active - 1 := by
  simp only [deactivate]
  split <;> rfl

theorem phase_deactivate_of_finished (h : w.isFinished = true) : w.deactivate.phase = w.phase := by
  simp [deactivate, h]

theorem phase_deactivate_of_last (h : w.isFinished = false) (hlast : w.active ≤ 1) :
    w.deactivate.phase = .suspended := by
  have hactive : w.active - 1 = 0 := by omega
  simp [deactivate, h, hactive]

theorem phase_deactivate_of_more (hmore : 1 < w.active) : w.deactivate.phase = w.phase := by
  have hactive : w.active - 1 ≠ 0 := by omega
  simp [deactivate, hactive]

theorem finish_of_finished (h : w.isFinished = true) (o : Outcome) :
    w.finish o = .error (.alreadyEnded w.phase) :=
  if_pos h

theorem finish_of_running (h : w.isFinished = false) (o : Outcome) :
    w.finish o = .ok (⟨w.context, o⟩, { w with phase := o.phase }) := by
  simp [finish, h]

theorem resume?_of_finished (h : w.isFinished = true) (site : Site) (host : Host) :
    w.resume? site host = none :=
  if_pos h

theorem resume?_of_running (h : w.isFinished = false) (site : Site) (host : Host) :
    w.resume? site host = some (activate { w with phase := .resumed } site host) := by
  simp [resume?, h]

theorem finishAndLeave_of_finished (h : w.isFinished = true) (o : Outcome) (site : Site)
    (handle : Handle) (host : Host) :
    w.finishAndLeave o site handle host =
      let left := w.leave site handle host
      ⟨none, left.1.map fun _ => false, left.2.1, left.2.2⟩ := by
  rw [finishAndLeave, finish_of_finished h]

theorem finishAndLeave_of_running (h : w.isFinished = false) (o : Outcome) (site : Site)
    (handle : Handle) (host : Host) :
    w.finishAndLeave o site handle host =
      let left := { w with phase := o.phase }.leave site handle host
      ⟨some ⟨w.context, o⟩, left.1.map fun _ => true, left.2.1, left.2.2⟩ := by
  rw [finishAndLeave, finish_of_running h]

end

end Work

end TraceIdentity
