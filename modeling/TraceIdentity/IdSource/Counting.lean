import TraceIdentity.IdSource
/-!
# Counting identifiers

A source that draws 1, 2, 3 and so on, trace ids and span ids counted apart.
-/
namespace TraceIdentity.IdSource

/-- How many ids of each kind have been drawn. -/
structure Drawn where
  traces : UInt64 := 0
  spans : UInt64 := 0
  deriving DecidableEq, Repr, Inhabited

def counting : IdSource Drawn where
  trace s := (Octets.ofNat 16 (s.traces + 1).toNat, { s with traces := s.traces + 1 })
  span s := (Octets.ofNat 8 (s.spans + 1).toNat, { s with spans := s.spans + 1 })

end TraceIdentity.IdSource
