import TraceIdentity.IdSource
/-!
# Scrambled identifiers

Ids without a visible order for use outside tests. A seed advances by a fixed odd
step and each step is mixed by a bijection on words, so that a word comes back
only after all others. Zero is stepped over.
-/
namespace TraceIdentity.IdSource

namespace Scrambled

def step : UInt64 := 0x9E3779B97F4A7C15

def mix (w : UInt64) : UInt64 :=
  let a := (w ^^^ (w >>> 30)) * 0xBF58476D1CE4E5B9
  let b := (a ^^^ (a >>> 27)) * 0x94D049BB133111EB
  b ^^^ (b >>> 31)

/-- The next word that is not zero, and the seed after it. -/
def word (seed : UInt64) : UInt64 × UInt64 :=
  let next := seed + step
  if mix next = 0 then (mix (next + step), next + step) else (mix next, next)

end Scrambled

def scrambled : IdSource UInt64 where
  trace seed :=
    let high := Scrambled.word seed
    let low := Scrambled.word high.2
    (Octets.ofNat 16 (high.1.toNat * 0x10000000000000000 + low.1.toNat), low.2)
  span seed :=
    let low := Scrambled.word seed
    (Octets.ofNat 8 low.1.toNat, low.2)

end TraceIdentity.IdSource
