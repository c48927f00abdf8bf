import TraceIdentity.Component.Arrival
import TraceIdentity.Work
/-!
# Requests on a host

A request is correlated and its context becomes current where it is handled:
until its handle is released, or for as long as its work runs.
-/
namespace TraceIdentity

namespace Component

variable {σ : Type} (c : Component σ)

def openRequest (headers : Headers) (store : Store) (site : Site) (s : σ) (host : Host) :
    Arrival × Handle × σ × Host :=
  let received := c.receive headers s
  let entered := host.enter store site received.1.context
  (received.1, entered.1, received.2, entered.2)

def startWork (headers : Headers) (store : Store) (site : Site) (s : σ) (host : Host) :
    Arrival × Handle × Work × σ × Host :=
  let received := c.receive headers s
  let started := Work.start store site received.1.context host
  (received.1, started.1, started.2.1, received.2, started.2.2)

end Component

end TraceIdentity
