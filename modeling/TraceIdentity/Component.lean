import TraceIdentity.AppId
import TraceIdentity.Headers.TraceContext
import TraceIdentity.RequestId
/-!
# Components

A component is configured once and then correlates what it receives and what it
sends. It knows its own application id only when it has an instrumentation key
and the resolver has an answer.
-/
namespace TraceIdentity

structure Settings where
  legacyCompat : Bool := true
  instrumentationKey : Option String := none
  maxMembers : Nat := Headers.defaultLimit
  deriving DecidableEq, Repr, Inhabited

namespace Settings

/-- The instrumentation key; an empty one counts as absent. -/
def key? (s : Settings) : Option String :=
  s.instrumentationKey.filter (· ≠ "")

/-- Trace context headers only, no request ids. -/
def traceContextOnly : Settings :=
  { legacyCompat := false }

end Settings

/-- Settings, a source of ids with state `σ`, and a resolver of application ids. -/
structure Component (σ : Type) where
  settings : Settings
  ids : IdSource σ
  resolver : AppId.Resolver := AppId.Resolver.pending

/-- The application id of this component, if it is known and not empty. -/
def Component.appId {σ : Type} (c : Component σ) : Option String :=
  AppId.resolved (c.settings.key?.bind c.resolver)

end TraceIdentity
