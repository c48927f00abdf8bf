/-!
# Ranges of code points

A set of code points as a table of closed ranges.
-/
namespace TraceIdentity.Text

/-- Closed ranges of code points, first and last. -/
abbrev Ranges := List (Nat × Nat)

namespace Ranges

def holds (rs : Ranges) (n : Nat) : Bool :=
  rs.any fun r => decide (r.1 ≤ n) && decide (n ≤ r.2)

end Ranges

end TraceIdentity.Text
