/-!
# Phases of asynchronous work

Work starts, may be suspended and resumed any number of times, and ends in one
of three terminal phases. An outcome says how it ended and fixes that phase.
-/
namespace TraceIdentity.Work

inductive Phase where
  | started
  | suspended
  | resumed
  | completed
  | timedOut
  | errored
  deriving DecidableEq, Repr, Inhabited

def Phase.isTerminal : Phase → Bool
  | .completed | .timedOut | .errored => true
  | .started | .suspended | .resumed => false

/-- The name of a phase in messages and in the record format. -/
def Phase.name : Phase → String
  | .started => "started"
  | .suspended => "suspended"
  | .resumed => "resumed"
  | .completed => "completed"
  | .timedOut => "timed_out"
  | .errored => "errored"

/-- The name of a phase where the state of work is shown in full. -/
def Phase.label : Phase → String
  | .started => "Started"
  | .suspended => "Suspended"
  | .resumed => "Resumed"
  | .completed => "Completed"
  | .timedOut => "TimedOut"
  | .errored => "Errored"

def Phase.ofName? (s : String) : Option Phase :=
  [Phase.started, .suspended, .resumed, .completed, .timedOut, .errored].find? (·.name == s)

inductive Outcome where
  | completed (status : UInt16)
  | timedOut
  | errored (message : String)
  deriving DecidableEq, Repr

def Outcome.phase : Outcome → Phase
  | .completed _ => .completed
  | .timedOut => .timedOut
  | .errored _ => .errored

/-- Only a response with a status below 400 is a success. -/
def Outcome.isSuccess : Outcome → Bool
  | .completed status => decide (status < 400)
  | .timedOut | .errored _ => false

@[simp] theorem isTerminal_phase (o : Outcome) : o.phase.isTerminal := by
  cases o <;> rfl

end TraceIdentity.Work
