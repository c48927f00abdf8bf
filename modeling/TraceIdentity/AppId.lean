import TraceIdentity.Fault
import TraceIdentity.Text.Split
/-!
# Application ids

Components tell each other who they are by the single pair `appId=<id>`. An id
that is missing or empty is not resolved yet, and a component is never its own
caller or target.
-/
namespace TraceIdentity.AppId
open Text

/-- Finds the application id for an instrumentation key, if it is known yet. -/
abbrev Resolver := String → Option String

def Resolver.pending : Resolver :=
  fun _ => none

def Resolver.fixed (answer : Option String) : Resolver :=
  fun _ => answer

/-- An id that is there and not empty. -/
def resolved (self : Option String) : Option String :=
  self.filter (· ≠ "")

def key : String := "appId"

/-- Write the pair for an id that is resolved, and nothing otherwise. -/
def write (self : Option String) : String :=
  match resolved self with
  | some id => key ++ "=" ++ id
  | none => ""

def read (value : String) : Except Fault String :=
  match splitOn '=' value.toList with
  | [k, v] =>
    if k ≠ key.toList then .error (.unexpectedKey (String.ofList k))
    else if v = [] then .error .appIdEmpty
    else .ok (String.ofList v)
  | fields => .error (.pairCount fields.length)

def other (value : String) (self : Option String) : Except Fault String :=
  match read value with
  | .error f => .error f
  | .ok id =>
    match resolved self with
    | none => .error .appIdUnresolved
    | some own => if id = own then .error .selfCall else .ok id

/-- The id of another component, empty when there is none to name. -/
def target (value : String) (self : Option String) : String :=
  match other value self with
  | .ok id => id
  | .error _ => ""

end TraceIdentity.AppId
