import TraceIdentity.Ids
/-!
# Sources of identifiers

A source draws fresh trace ids and span ids from a state of its own. One meant
for use never draws an id that is all zeros.
-/
namespace TraceIdentity

/-- Two kinds of draw on a state `σ`, each with the state that is left. -/
structure IdSource (σ : Type) where
  trace : σ → TraceId × σ
  span : σ → SpanId × σ

namespace IdSource

variable {σ : Type}

/-- No draw from any state is all zeros. -/
def NeverZero (ids : IdSource σ) : Prop :=
  ∀ s, (ids.trace s).1.isZero = false ∧ (ids.span s).1.isZero = false

/-- Draw a trace id and a span id `rounds` times. -/
def draw (ids : IdSource σ) (s : σ) : Nat → List (TraceId × SpanId)
  | 0 => []
  | rounds + 1 =>
    let t := ids.trace s
    let p := ids.span t.2
    (t.1, p.1) :: ids.draw p.2 rounds

end IdSource

end TraceIdentity
